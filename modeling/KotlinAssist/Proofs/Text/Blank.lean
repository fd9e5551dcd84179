import KotlinAssist.Identifier
import KotlinAssist.Proofs.Text.Runs
import KotlinAssist.Text.Blank
import KotlinAssist.Text.WordChar

/-!
# Blanks at the ends and between words

A blank belongs to no word, so blanks end a name and divide the words of a text.  Trimming a text
cuts it into the blanks before, what is left, and the blanks after; what is left has no blank at
either end, and a text without a blank at either end is left as it is.

## Main definitions

* `Trimmed` — a text without a blank at either end

## Main statements

* `of_isBlank` — what holds of the characters in the table holds of all blanks
* `exists_trim_cut` — a line cut around what trimming leaves of it
* `exists_trimEnd_cut` — a line cut before the blanks at its end
* `trim_append_blanks` — blanks at the end of a text do not change what trimming leaves
* `Trimmed.trim_eq`, `trimmed_trim` — the texts that trimming leaves as they are
* `words_append_cons` — a blank parts the words of a text
* `exists_cut_of_mem_words` — a word stands between blanks
-/

namespace KotlinAssist.Text

/-! ## Blanks and words -/

/-- What holds of all characters in the table of blanks holds of every blank. -/
theorem of_isBlank (property : Char → Bool)
    (inTable : (blankRanges.all fun range =>
      (List.range' range.1 (range.2 + 1 - range.1)).all fun code =>
        property (Char.ofNat code)) = true)
    {c : Char} (blank : isBlank c = true) : property c = true := by
  obtain ⟨range, member, above, below⟩ := (CodeRanges.has_iff blankRanges c.toNat).mp blank
  have listed : c.toNat ∈ List.range' range.1 (range.2 + 1 - range.1) := by
    rw [List.mem_range'_1]
    omega
  have holds := List.all_eq_true.mp (List.all_eq_true.mp inTable range member) c.toNat listed
  rwa [Char.ofNat_toNat] at holds

/-- A text without blanks, tested character by character. -/
theorem isBlank_of_any {text : List Char} (solid : text.any isBlank = false) :
    ∀ c ∈ text, isBlank c = false := by
  intro c member
  exact Bool.eq_false_iff.mpr (List.any_eq_false.mp solid c member)

theorem isAlphabetic_of_isBlank {c : Char} (blank : isBlank c = true) : isAlphabetic c = false := by
  have apart := of_isBlank (fun c => !isAlphabetic c) (by decide +kernel) blank
  rwa [Bool.not_eq_true'] at apart

theorem isNamePart_of_isBlank {c : Char} (blank : isBlank c = true) : isNamePart c = false := by
  have apart := of_isBlank (fun c => !isNamePart c) (by decide +kernel) blank
  rwa [Bool.not_eq_true'] at apart

theorem isIdentifierChar_of_isBlank {c : Char} (blank : isBlank c = true) :
    isIdentifierChar c = false := by
  have apart := of_isBlank (fun c => !(isNumeric c || c == '_')) (by decide +kernel) blank
  rw [Bool.not_eq_true'] at apart
  rw [isIdentifierChar, isAlphabetic_of_isBlank blank, Bool.false_or, apart]

theorem isWordChar_of_isBlank {c : Char} (blank : isBlank c = true) : isWordChar c = false := by
  rw [isWordChar]
  split
  · exact isNamePart_of_isBlank blank
  · have apart := of_isBlank (fun c => !wordExtraRanges.has c.toNat) (by decide +kernel) blank
    rw [Bool.not_eq_true'] at apart
    rw [isAlphabetic_of_isBlank blank, apart, Bool.or_false, Bool.and_false]

/-! ## Trimming -/

/-- A text that neither starts nor ends with a blank. -/
structure Trimmed (text : List Char) : Prop where
  starts : text.head?.any isBlank = false
  ends : text.getLast?.any isBlank = false

/-- Trimming the end of a text cuts off blanks only. -/
theorem trimEnd_append (text : List Char) :
    trimEnd text ++ (text.reverse.takeWhile isBlank).reverse = text := by
  rw [trimEnd, ← List.reverse_append, List.takeWhile_append_dropWhile, List.reverse_reverse]

/-- **A line is cut before the blanks at its end.** -/
theorem exists_trimEnd_cut (line : List Char) :
    ∃ tail, line = trimEnd line ++ tail ∧ ∀ c ∈ tail, isBlank c = true := by
  refine ⟨(line.reverse.takeWhile isBlank).reverse, (trimEnd_append line).symm, ?_⟩
  intro c member
  exact List.mem_takeWhile_imp (List.mem_reverse.mp member)

/-- Only a text of blanks has nothing left when the blanks at its end are gone. -/
theorem trimEnd_eq_nil_iff (line : List Char) :
    trimEnd line = [] ↔ ∀ c ∈ line, isBlank c = true := by
  rw [trimEnd, List.reverse_eq_nil_iff, List.dropWhile_eq_nil_iff]
  simp only [List.mem_reverse]

theorem getLast?_trimEnd (line : List Char) : (trimEnd line).getLast?.any isBlank = false := by
  rw [trimEnd, List.getLast?_reverse]
  exact head?_dropWhile_any _

/-- A text without a blank at its end is left as it is. -/
theorem trimEnd_of_getLast? {line : List Char} (ends : line.getLast?.any isBlank = false) :
    trimEnd line = line := by
  rw [← List.head?_reverse] at ends
  rw [trimEnd, dropWhile_eq_self_of_head? ends, List.reverse_reverse]

theorem trimEnd_trimEnd (line : List Char) : trimEnd (trimEnd line) = trimEnd line :=
  trimEnd_of_getLast? (getLast?_trimEnd line)

/-- What stands before a text of which something is left stays. -/
theorem trimEnd_append_of_ne_nil (front : List Char) {back : List Char}
    (nonempty : trimEnd back ≠ []) : trimEnd (front ++ back) = front ++ trimEnd back := by
  unfold trimEnd at nonempty ⊢
  have left : (back.reverse.dropWhile isBlank).isEmpty = false := by
    rw [List.isEmpty_eq_false_iff]
    intro empty
    exact nonempty (List.reverse_eq_nil_iff.mpr empty)
  rw [List.reverse_append, List.dropWhile_append, left, if_neg Bool.false_ne_true,
    List.reverse_append, List.reverse_reverse]

section Blanks

variable {tail : List Char} (blank : ∀ c ∈ tail, isBlank c = true)

include blank

theorem trimEnd_append_blanks (line : List Char) : trimEnd (line ++ tail) = trimEnd line := by
  have reversed : ∀ c ∈ tail.reverse, isBlank c = true := by
    intro c member
    exact blank c (List.mem_reverse.mp member)
  rw [trimEnd, List.reverse_append, List.dropWhile_append_of_pos reversed, trimEnd]

/-- Blanks behind a text do not belong to a class of characters without blanks. -/
theorem head?_append_blanks {inside : Char → Bool}
    (outside : ∀ c, isBlank c = true → inside c = false) (text : List Char) :
    (text ++ tail).head?.any inside = text.head?.any inside := by
  cases text with
  | cons c text => rfl
  | nil =>
    cases tail with
    | nil => rfl
    | cons c tail => exact outside c (blank c List.mem_cons_self)

/-- Blanks at the end of a text do not change what trimming leaves. -/
theorem trim_append_blanks (line : List Char) : trim (line ++ tail) = trim line := by
  have nothing : tail.dropWhile isBlank = [] := List.dropWhile_eq_nil_iff.mpr blank
  unfold trim trimStart
  rw [List.dropWhile_append]
  split
  · next empty =>
    rw [nothing, List.isEmpty_iff.mp empty]
  · exact trimEnd_append_blanks blank _

end Blanks

@[simp] theorem trim_trimEnd (line : List Char) : trim (trimEnd line) = trim line := by
  obtain ⟨tail, cut, blank⟩ := exists_trimEnd_cut line
  have same := trim_append_blanks blank (trimEnd line)
  rw [← cut] at same
  exact same.symm

/-- A line starts with the same blanks without those at its end, if anything is left of it. -/
theorem indentation_trimEnd {line : List Char} (nonempty : trimEnd line ≠ []) :
    indentation (trimEnd line) = indentation line := by
  obtain ⟨tail, cut, -⟩ := exists_trimEnd_cut line
  have solid := getLast?_trimEnd line
  rw [List.getLast?_eq_some_getLast nonempty, Option.any_some] at solid
  have stops : ¬ ((trimEnd line).takeWhile isBlank).length = (trimEnd line).length := by
    intro whole
    have all := List.takeWhile_eq_self_iff.mp ((List.takeWhile_prefix isBlank).eq_of_length whole)
    rw [all _ (List.getLast_mem nonempty)] at solid
    contradiction
  have same : (trimEnd line ++ tail).takeWhile isBlank = (trimEnd line).takeWhile isBlank := by
    rw [List.takeWhile_append, if_neg stops]
  rw [← cut] at same
  rw [indentation, indentation, same]

/-- **A line is cut around what trimming leaves of it.** -/
theorem exists_trim_cut (line : List Char) :
    ∃ tail, line = line.takeWhile isBlank ++ trim line ++ tail ∧ ∀ c ∈ tail, isBlank c = true := by
  obtain ⟨tail, cut, blank⟩ := exists_trimEnd_cut (trimStart line)
  refine ⟨tail, ?_, blank⟩
  rw [trim, List.append_assoc, ← cut, trimStart, List.takeWhile_append_dropWhile]

theorem Trimmed.trim_eq {text : List Char} (trimmed : Trimmed text) : trim text = text := by
  have front : trimStart text = text := dropWhile_eq_self_of_head? trimmed.starts
  have back : trimEnd text = text := trimEnd_of_getLast? trimmed.ends
  rw [trim, front, back]

/-- What trimming leaves has no blank at either end. -/
theorem trimmed_trim (text : List Char) : Trimmed (trim text) where
  starts := by
    have stop : (trimStart text).head?.any isBlank = false := head?_dropWhile_any text
    have whole := trimEnd_append (trimStart text)
    rw [trim]
    cases left : trimEnd (trimStart text) with
    | nil => rfl
    | cons c rest =>
      rw [left] at whole
      rw [← whole] at stop
      exact stop
  ends := getLast?_trimEnd (trimStart text)

theorem mem_of_mem_trim {text : List Char} {c : Char} (member : c ∈ trim text) : c ∈ text := by
  obtain ⟨tail, whole, -⟩ := exists_trim_cut text
  rw [whole]
  exact List.mem_append_left tail (List.mem_append_right _ member)

/-! ## Words -/

/-- Characters that are no blanks all go to the word that they stand before. -/
theorem foldr_wordsStep_append {word : List Char} (solid : ∀ c ∈ word, isBlank c = false)
    (state : List Char × List (List Char)) :
    word.foldr wordsStep state = (word ++ state.1, state.2) := by
  induction word with
  | nil => rfl
  | cons c word ih =>
    have notBlank : ¬ isBlank c = true := by
      rw [solid c List.mem_cons_self]
      exact Bool.false_ne_true
    rw [List.foldr_cons, ih fun d member => solid d (List.mem_cons_of_mem c member)]
    unfold wordsStep
    rw [if_neg notBlank]
    rfl

/-- Words that are closed already stay behind those that are read. -/
theorem foldr_wordsStep_done (text : List Char) (done : List (List Char)) :
    text.foldr wordsStep ([], done) =
      ((text.foldr wordsStep ([], [])).1, (text.foldr wordsStep ([], [])).2 ++ done) := by
  induction text with
  | nil => rfl
  | cons c text ih =>
    rw [List.foldr_cons, List.foldr_cons, ih]
    generalize text.foldr wordsStep ([], []) = state
    obtain ⟨current, closed⟩ := state
    unfold wordsStep
    dsimp only
    split
    · cases current <;> rfl
    · rfl

/-- **A blank parts the words before it from those behind it.** -/
theorem words_append_cons {blank : Char} (isBlank_blank : isBlank blank = true)
    (front rest : List Char) : words (front ++ blank :: rest) = words front ++ words rest := by
  have closed : wordsStep blank (rest.foldr wordsStep ([], [])) = ([], words rest) := by
    unfold words
    generalize rest.foldr wordsStep ([], []) = state
    obtain ⟨current, done⟩ := state
    unfold wordsStep
    rw [if_pos isBlank_blank]
    cases current <;> rfl
  unfold words at closed ⊢
  rw [List.foldr_append, List.foldr_cons, closed, foldr_wordsStep_done]
  generalize front.foldr wordsStep ([], []) = state
  obtain ⟨current, done⟩ := state
  cases current <;> rfl

/-- A text without blanks is one word. -/
theorem words_of_solid {word : List Char} (nonempty : word ≠ [])
    (solid : ∀ c ∈ word, isBlank c = false) : words word = [word] := by
  obtain ⟨c, rest, rfl⟩ := List.exists_cons_of_ne_nil nonempty
  unfold words
  rw [foldr_wordsStep_append solid, List.append_nil]

/-- A blank ends the word before it. -/
theorem words_append_blank {word : List Char} (nonempty : word ≠ [])
    (solid : ∀ c ∈ word, isBlank c = false) {blank : Char} (isBlank_blank : isBlank blank = true)
    (rest : List Char) : words (word ++ blank :: rest) = word :: words rest := by
  rw [words_append_cons isBlank_blank, words_of_solid nonempty solid]
  rfl

/-- Blanks behind a text belong to none of its words. -/
theorem words_append_blanks {tail : List Char} (blank : ∀ c ∈ tail, isBlank c = true)
    (text : List Char) : words (text ++ tail) = words text := by
  induction tail generalizing text with
  | nil => rw [List.append_nil]
  | cons c tail ih =>
    rw [List.forall_mem_cons] at blank
    have none_left : words tail = [] := ih blank.2 []
    rw [words_append_cons blank.1, none_left, List.append_nil]

/-- A text has no blank, or a first one. -/
theorem exists_first_blank (text : List Char) :
    (∀ c ∈ text, isBlank c = false) ∨
      ∃ front blank rest, text = front ++ blank :: rest ∧ isBlank blank = true ∧
        ∀ c ∈ front, isBlank c = false := by
  cases found : text.find? isBlank with
  | none =>
    refine .inl fun c member => ?_
    exact Bool.eq_false_iff.mpr (List.find?_eq_none.mp found c member)
  | some blank =>
    obtain ⟨isBlank_blank, front, rest, cut, solid⟩ := List.find?_eq_some_iff_append.mp found
    refine .inr ⟨front, blank, rest, cut, isBlank_blank, fun c member => ?_⟩
    exact (Bool.not_eq_true' _).mp (solid c member)

/-- **A word stands between blanks**, or at an end of the text. -/
theorem exists_cut_of_mem_words {text word : List Char} (member : word ∈ words text) :
    ∃ front back, text = front ++ (word ++ back) ∧
      (front = [] ∨ ∃ front' blank, front = front' ++ [blank] ∧ isBlank blank = true) ∧
      (back = [] ∨ ∃ blank back', back = blank :: back' ∧ isBlank blank = true) := by
  -- a text without blanks is a word as a whole, or empty
  have whole {front : List Char} (solid : ∀ c ∈ front, isBlank c = false)
      (member : word ∈ words front) : word = front := by
    by_cases empty : front = []
    · rw [empty] at member
      cases member
    · rw [words_of_solid empty solid] at member
      exact List.mem_singleton.mp member
  induction length : text.length using Nat.strongRecOn generalizing text with
  | ind size ih =>
    rcases exists_first_blank text with solid | ⟨front, blank, rest, rfl, isBlank_blank, solid⟩
    · obtain rfl := whole solid member
      exact ⟨[], [], (List.append_nil word).symm, .inl rfl, .inl rfl⟩
    · rw [words_append_cons isBlank_blank] at member
      rcases List.mem_append.mp member with first | later
      · obtain rfl := whole solid first
        exact ⟨[], blank :: rest, rfl, .inl rfl, .inr ⟨blank, rest, rfl, isBlank_blank⟩⟩
      · have shorter : rest.length < size := by
          rw [← length, List.length_append, List.length_cons]
          omega
        obtain ⟨inner, back, rfl, starts, ends⟩ := ih rest.length shorter later rfl
        refine ⟨front ++ blank :: inner, back, ?_, .inr ?_, ends⟩
        · rw [List.append_assoc, List.cons_append]
        · rcases starts with rfl | ⟨inner, blank', rfl, isBlank_blank'⟩
          · exact ⟨front, blank, rfl, isBlank_blank⟩
          · refine ⟨front ++ blank :: inner, blank', ?_, isBlank_blank'⟩
            rw [List.append_assoc, List.cons_append]

end KotlinAssist.Text
