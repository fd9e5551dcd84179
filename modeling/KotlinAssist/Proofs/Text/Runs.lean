import Mathlib.Data.List.TakeWhile

/-!
# Runs of characters

A run holds characters of one class only.  Where a run is followed by a character of another class,
or by nothing, reading as many characters of the class as possible gives back the run and what
follows it; so a text can be divided in only one way into a run and a character that ends it.
-/

namespace KotlinAssist.Text

variable {inside : Char → Bool} {run rest : List Char}

/-- What is left when a run is dropped does not start with a character of the class. -/
theorem head?_dropWhile_any (text : List Char) :
    (text.dropWhile inside).head?.any inside = false := by
  have stop := List.head?_dropWhile_not inside text
  cases rest : (text.dropWhile inside).head? with
  | none => rfl
  | some c =>
    rw [rest] at stop
    exact stop

/-- A run that ends at once is empty. -/
theorem dropWhile_eq_self_of_head? (stop : rest.head?.any inside = false) :
    rest.dropWhile inside = rest := by
  cases rest with
  | nil => rfl
  | cons c rest =>
    rw [List.head?_cons, Option.any_some] at stop
    rw [List.dropWhile_cons_of_neg]
    rw [stop]
    exact Bool.false_ne_true

theorem takeWhile_eq_nil_of_head? (stop : rest.head?.any inside = false) :
    rest.takeWhile inside = [] := by
  have divided := List.takeWhile_append_dropWhile (p := inside) (l := rest)
  rw [dropWhile_eq_self_of_head? stop] at divided
  exact List.append_left_eq_self.mp divided

/-- What follows a run is met after all of the run. -/
theorem takeWhile_run_append (all : ∀ c ∈ run, inside c = true)
    (stop : rest.head?.any inside = false) : (run ++ rest).takeWhile inside = run := by
  rw [List.takeWhile_append_of_pos all, takeWhile_eq_nil_of_head? stop, List.append_nil]

theorem dropWhile_run_append (all : ∀ c ∈ run, inside c = true)
    (stop : rest.head?.any inside = false) : (run ++ rest).dropWhile inside = rest := by
  rw [List.dropWhile_append_of_pos all, dropWhile_eq_self_of_head? stop]

/-- A text is a run of the characters other than one that does not stand in it. -/
theorem bne_of_not_mem {c : Char} (absent : c ∉ run) : ∀ d ∈ run, (d != c) = true := by
  intro d member
  rw [bne_iff_ne]
  rintro rfl
  exact absent member

/-- A text is divided in only one way into a run and a character that ends it. -/
theorem eq_of_run_append_cons {run' rest' : List Char} {c c' : Char}
    (all : ∀ d ∈ run, inside d = true) (all' : ∀ d ∈ run', inside d = true)
    (ends : inside c = false) (ends' : inside c' = false)
    (same : run ++ c :: rest = run' ++ c' :: rest') : run = run' ∧ c = c' := by
  have stop : (c :: rest).head?.any inside = false := ends
  have stop' : (c' :: rest').head?.any inside = false := ends'
  have runs : run = run' := by
    rw [← takeWhile_run_append all stop, same, takeWhile_run_append all' stop']
  have rests := dropWhile_run_append all stop
  rw [same, dropWhile_run_append all' stop'] at rests
  exact ⟨runs, (List.cons.inj rests).1.symm⟩

end KotlinAssist.Text
