import KotlinAssist.Grammar.Import
import KotlinAssist.Proofs.Grammar.Writing

/-!
# The name that an import ends with

The path of an import is made of names with dots between them, and each of them goes as far as it
can.  So what an import brings into scope is a name: the last one of the path, or the other name that
is given.  The import ends with that name, behind a dot or a blank, and no character of names
follows.

## Main definitions

* `EndsWithName` — a path that ends with a name

## Main statements

* `exists_endsWithName_many` — segments that are read leave a path that ends with a name
* `exists_cut_of_importHead?` — an import cut before the name that it brings into scope
* `isBlank_of_mem_importedName?` — no character of an imported name is a blank
-/

namespace KotlinAssist.Grammar

open Text

/-! ## Paths -/

/-- A path that ends with a name, which is all of it or stands behind a dot.  What follows does not
continue the name. -/
structure EndsWithName (path rest name : List Char) : Prop where
  parts : path = name ∨ ∃ front, path = front ++ '.' :: name
  named : isName name = true
  ends : rest.head?.any isNamePart = false

/-- A segment is a dot and a name. -/
theorem segment?_eq_some {text taken rest : List Char} (found : segment? text = some (taken, rest)) :
    ∃ name text', text = '.' :: text' ∧ taken = '.' :: name ∧ name? text' = some (name, rest) := by
  unfold segment? at found
  split at found
  · next text' =>
    obtain ⟨⟨name, after⟩, named, same⟩ := Option.map_eq_some_iff.mp found
    cases same
    exact ⟨name, text', rfl, rfl, named⟩
  · cases found

theorem lossless_segment? : Reader.Lossless segment? := by
  intro text taken rest found
  obtain ⟨name, text', rfl, rfl, named⟩ := segment?_eq_some found
  rw [List.cons_append, lossless_name? text' name rest named]

/-- **A path that ends with a name does so after more segments are read.** -/
theorem exists_endsWithName_many {path text name : List Char} (ends : EndsWithName path text name) :
    ∃ last, EndsWithName (path ++ (many segment? text).1) (many segment? text).2 last := by
  fun_induction many segment? text generalizing path name with
  | case1 text missing =>
    rw [List.append_nil]
    exact ⟨name, ends⟩
  | case2 text taken rest found shorter more last joined ih =>
    obtain ⟨name', text', rfl, rfl, named⟩ := segment?_eq_some found
    have longer : EndsWithName (path ++ '.' :: name') rest name' :=
      ⟨.inr ⟨path, rfl⟩, isName_of_name? named, head?_of_name? named⟩
    have ends := ih longer
    rwa [joined, List.append_assoc] at ends
  | case3 text taken rest found longer =>
    rw [List.append_nil]
    exact ⟨name, ends⟩

/-- **A path without a star ends with a name.** -/
theorem exists_endsWithName_of_path? {text path rest : List Char}
    (found : path? text = some (path, rest)) :
    path ++ rest = text ∧
      (¬ ".*".toList <:+ path → ∃ name, EndsWithName path rest name) := by
  obtain ⟨⟨first, after⟩, named, found⟩ := Option.bind_eq_some_iff.mp found
  have front := lossless_name? text first after named
  have middle := many_append lossless_segment? after
  obtain ⟨last, ends⟩ := exists_endsWithName_many
    (⟨.inl rfl, isName_of_name? named, head?_of_name? named⟩ : EndsWithName first after first)
  dsimp only at found
  generalize many segment? after = reading at found middle ends
  obtain ⟨segments, after'⟩ := reading
  dsimp only at found middle ends
  generalize starred : optional (word? ".*") after' = reading at found
  obtain ⟨star, after''⟩ := reading
  cases found
  rcases optional_cases starred with ⟨rfl, rfl⟩ | read
  · rw [List.append_nil]
    refine ⟨?_, fun _ => ⟨last, ends⟩⟩
    rw [List.append_assoc, middle, front]
  · obtain ⟨left, stripped, same⟩ := Option.map_eq_some_iff.mp read
    cases same
    have whole := stripFront?_eq_some_iff.mp stripped
    refine ⟨?_, fun unstarred => absurd (List.suffix_append _ _) unstarred⟩
    rw [List.append_assoc, List.append_assoc, ← whole, middle, front]

namespace EndsWithName

variable {path rest name : List Char} (ends : EndsWithName path rest name)

include ends

/-- The name that a path ends with is what stands behind its last dot. -/
theorem takeWhile_reverse : (path.reverse.takeWhile (· != '.')).reverse = name := by
  have dotless : '.' ∉ name := by
    intro member
    exact absurd (isNamePart_of_isName ends.named '.' member) (by decide)
  have inside : ∀ c ∈ name.reverse, (c != '.') = true := by
    intro c member
    exact bne_of_not_mem dotless c (List.mem_reverse.mp member)
  rcases ends.parts with rfl | ⟨front, rfl⟩
  · rw [List.takeWhile_eq_self_iff.mpr inside, List.reverse_reverse]
  · rw [List.reverse_append, List.reverse_cons, List.append_assoc,
      takeWhile_run_append inside (by rfl), List.reverse_reverse]

/-- Behind a text that parts words, no word reaches into the name. -/
theorem exists_partsWords {before : List Char} (parts : PartsWords before) :
    ∃ front, before ++ path = front ++ name ∧ PartsWords front := by
  rcases ends.parts with rfl | ⟨front, rfl⟩
  · exact ⟨before, rfl, parts⟩
  · refine ⟨before ++ front ++ ['.'], ?_, ?_⟩
    · simp only [List.append_assoc, List.singleton_append]
    · exact ⟨before ++ front, '.', rfl, by decide⟩

end EndsWithName

/-! ## Imports -/

/-- What was read when another name was read. -/
theorem newName?_eq_some {text word name : List Char} (found : newName? text = some (word, name)) :
    ∃ after, text = word ++ (name ++ after) ∧ PartsWords word ∧ isName name = true ∧
      after.head?.any isNamePart = false := by
  have spaced := blanks_append text
  unfold newName? at found
  split at found
  · cases found
  · next space rest _ read =>
    rw [read] at spaced
    obtain ⟨⟨fixed, rest'⟩, introduced, found⟩ := Option.bind_eq_some_iff.mp found
    obtain ⟨⟨other, after⟩, named, same⟩ := Option.bind_eq_some_iff.mp found
    cases same
    have first := lossless_spacedWord? "as" rest fixed rest' introduced
    have second := lossless_name? rest' name after named
    refine ⟨after, ?_, ?_, isName_of_name? named, head?_of_name? named⟩
    · rw [second, List.append_assoc, first, spaced]
    · exact (partsWords_spacedWord? "as" rest fixed rest' introduced).append space

/-- What was read when an import was read. -/
theorem importHead?_eq_some {text : List Char} {head : ImportHead}
    (found : importHead? text = some head) :
    ∃ rest after, spacedWord? "import" text = some (head.introducer, rest) ∧
      path? rest = some (head.path, after) ∧ head.newName = newName? after := by
  obtain ⟨⟨introducer, rest⟩, introduced, found⟩ := Option.bind_eq_some_iff.mp found
  obtain ⟨⟨path, after⟩, travelled, same⟩ := Option.bind_eq_some_iff.mp found
  cases same
  exact ⟨rest, after, introduced, travelled, rfl⟩

/-- An import without another name whose path ends with a star brings in no single name, and every
other import brings in one. -/
theorem simpleName?_isSome_iff (head : ImportHead) :
    head.simpleName?.isSome = true ↔ (head.newName = none → ¬ ".*".toList <:+ head.path) := by
  obtain ⟨introducer, path, newName⟩ := head
  cases newName with
  | some renamed => simp [ImportHead.simpleName?]
  | none =>
    simp only [ImportHead.simpleName?, List.isSuffixOf_iff_suffix, forall_const]
    split <;> simp_all

/-- **An import ends with the name that it brings into scope.**  No word reaches into the name from
the left, and the name goes as far as it can. -/
theorem exists_cut_of_importHead? {text name : List Char} {head : ImportHead}
    (found : importHead? text = some head) (brought : head.simpleName? = some name) :
    ∃ front after, text = front ++ (name ++ after) ∧ head.matched = front ++ name ∧
      PartsWords front ∧ isName name = true ∧ after.head?.any isNamePart = false := by
  obtain ⟨rest, rest', introduced, travelled, renamed⟩ := importHead?_eq_some found
  have first := lossless_spacedWord? "import" text head.introducer rest introduced
  have parts := partsWords_spacedWord? "import" text head.introducer rest introduced
  obtain ⟨second, unstarred⟩ := exists_endsWithName_of_path? travelled
  unfold ImportHead.simpleName? at brought
  split at brought
  · next word other isNew =>
    cases brought
    obtain ⟨after, third, partsNew, named, ends⟩ := newName?_eq_some (renamed.symm.trans isNew)
    refine ⟨head.introducer ++ head.path ++ word, after, ?_, ?_, ?_, named, ends⟩
    · rw [← first, ← second, third]
      simp only [List.append_assoc]
    · rw [ImportHead.matched, isNew]
      simp only [Option.map_some, Option.getD_some, List.append_assoc]
    · exact partsNew.append _
  · next isOld =>
    split at brought
    · cases brought
    · next noStar =>
      rw [List.isSuffixOf_iff_suffix] at noStar
      obtain ⟨last, ends⟩ := unstarred noStar
      rw [ends.takeWhile_reverse] at brought
      cases brought
      obtain ⟨front, whole, partsFront⟩ := ends.exists_partsWords parts
      refine ⟨front, rest', ?_, ?_, partsFront, ends.named, ends.ends⟩
      · rw [← List.append_assoc, ← whole, List.append_assoc, second, first]
      · rw [ImportHead.matched, isOld, whole]
        exact List.append_nil _

/-- **No character of an imported name is a blank.** -/
theorem isBlank_of_mem_importedName? {text name : List Char}
    (found : importedName? text = some name) : ∀ c ∈ name, isBlank c = false := by
  obtain ⟨head, read, brought⟩ := Option.bind_eq_some_iff.mp found
  obtain ⟨-, -, -, -, -, named, -⟩ := exists_cut_of_importHead? read brought
  exact isBlank_of_isName named

end KotlinAssist.Grammar
