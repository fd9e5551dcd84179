import KotlinAssist.Text.Units
import Mathlib.Data.String.Basic

/-!
# Byte offsets

A byte offset can be turned into a character column in two ways: by the characters that lie entirely
before it, or by those that start before it.  The first rounds an offset inside of a character down
and the second rounds it up; each is a Galois connection with the conversion back, on opposite
sides.  Characters are counted by their starts.  The two counts differ by one inside of a character
and agree everywhere else, so an offset is rounded down exactly if there is nothing to round.

Between two characters the conversions are inverse to each other.

## Main definitions

* `Text.wholeBefore` — the number of characters that lie entirely before an offset
* `Text.OnBoundary` — an offset that is not inside of a character

## Main statements

* `Text.byteOfChar_le_iff` — the characters before an offset round down
* `Text.charOfByte_le_iff` — the characters that start before an offset round up
* `Text.charOfByte_cases` — how far the two are apart
* `Text.byte_offset_rounds_down_iff` — where the conversion rounds down
-/

namespace KotlinAssist.Text

open String (utf8Len)

/-- The number of characters of a text that lie entirely before a byte offset. -/
def wholeBefore (text : List Char) (offset : Nat) : Nat :=
  (List.range text.length).countP fun index => utf8Len (text.take (index + 1)) ≤ offset

/-- A byte offset between two characters of a text, or at one of its ends. -/
def OnBoundary (text : List Char) (offset : Nat) : Prop :=
  ∃ front back, text = front ++ back ∧ utf8Len front = offset

/-! ## Offsets of characters -/

theorem byteOfChar_eq_utf8Len_take (text : List Char) (column : Nat) :
    byteOfChar text column = utf8Len (text.take column) := by
  induction text generalizing column with
  | nil => rw [List.take_nil, byteOfChar, String.utf8Len_nil]
  | cons c rest ih =>
    cases column with
    | zero => rfl
    | succ column =>
      rw [byteOfChar, ih, List.take_succ_cons, String.utf8Len_cons, Nat.add_comm]

theorem byteOfChar_le (text : List Char) (column : Nat) :
    byteOfChar text column ≤ utf8Len text := by
  rw [byteOfChar_eq_utf8Len_take]
  exact String.utf8Len_le_of_prefix (List.take_prefix column text)

@[simp] theorem byteOfChar_zero (text : List Char) : byteOfChar text 0 = 0 := by
  cases text <;> rfl

/-- The boundaries are the offsets of characters, and that of the end. -/
theorem onBoundary_iff {text : List Char} {offset : Nat} :
    OnBoundary text offset ↔ ∃ column ≤ text.length, byteOfChar text column = offset := by
  simp only [byteOfChar_eq_utf8Len_take]
  constructor
  · rintro ⟨front, back, rfl, size⟩
    refine ⟨front.length, ?_, ?_⟩
    · rw [List.length_append]
      exact Nat.le_add_right _ _
    · rw [List.take_left, size]
  · rintro ⟨column, -, size⟩
    exact ⟨text.take column, text.drop column, (List.take_append_drop column text).symm, size⟩

theorem onBoundary_toList_iff {text : String} {offset : Nat} :
    OnBoundary text.toList offset ↔ String.Pos.Raw.IsValid text ⟨offset⟩ := by
  rw [String.Pos.Raw.isValid_iff_exists_append]
  constructor
  · rintro ⟨front, back, cut, rfl⟩
    refine ⟨.ofList front, .ofList back, ?_, ?_⟩
    · rw [← String.ofList_append, ← cut, String.ofList_toList]
    · rw [String.rawEndPos_ofList]
  · rintro ⟨front, back, rfl, place⟩
    refine ⟨front.toList, back.toList, String.toList_append, ?_⟩
    rw [String.utf8Len_toList]
    exact (congrArg String.Pos.Raw.byteIdx place).symm

theorem onBoundary_cons_iff (c : Char) (rest : List Char) (offset : Nat) :
    OnBoundary (c :: rest) offset ↔
      offset = 0 ∨ c.utf8Size ≤ offset ∧ OnBoundary rest (offset - c.utf8Size) := by
  constructor
  · rintro ⟨front, back, cut, rfl⟩
    cases front with
    | nil => exact .inl rfl
    | cons d front =>
      cases cut
      rw [String.utf8Len_cons]
      exact .inr ⟨Nat.le_add_left _ _, front, back, rfl, (Nat.add_sub_cancel _ _).symm⟩
  · rintro (rfl | ⟨behind, front, back, rfl, size⟩)
    · exact ⟨[], c :: rest, rfl, rfl⟩
    · refine ⟨c :: front, back, rfl, ?_⟩
      rw [String.utf8Len_cons]
      omega

/-! ## Rounding down and rounding up -/

/-- The first character is counted if it ends in time, and only then can others be. -/
theorem wholeBefore_cons (c : Char) (rest : List Char) (offset : Nat) :
    wholeBefore (c :: rest) offset =
      if c.utf8Size ≤ offset then 1 + wholeBefore rest (offset - c.utf8Size) else 0 := by
  have later (index : Nat) : utf8Len ((c :: rest).take (index + 1 + 1)) ≤ offset ↔
      c.utf8Size ≤ offset ∧ utf8Len (rest.take (index + 1)) ≤ offset - c.utf8Size := by
    rw [List.take_succ_cons, String.utf8Len_cons]
    omega
  have first : utf8Len ((c :: rest).take (0 + 1)) ≤ offset ↔ c.utf8Size ≤ offset := by
    rw [List.take_succ_cons, List.take_zero, String.utf8Len_cons, String.utf8Len_nil, Nat.zero_add]
  rw [wholeBefore, List.length_cons, List.range_succ_eq_map, List.countP_cons, List.countP_map]
  simp only [Function.comp_def, Nat.succ_eq_add_one, later, first]
  by_cases ends : c.utf8Size ≤ offset
  · simp only [ends, true_and, decide_true, if_true]
    rw [wholeBefore, Nat.add_comm]
  · simp [ends]

/-- **Characters that lie entirely before an offset round down.** -/
theorem byteOfChar_le_iff {text : List Char} {column offset : Nat}
    (inside : column ≤ text.length) :
    byteOfChar text column ≤ offset ↔ column ≤ wholeBefore text offset := by
  induction text generalizing column offset with
  | nil => exact iff_of_true (Nat.zero_le _) inside
  | cons c rest ih =>
    cases column with
    | zero => exact iff_of_true (Nat.zero_le _) (Nat.zero_le _)
    | succ column =>
      have later : byteOfChar rest column ≤ offset - c.utf8Size ↔
          column ≤ wholeBefore rest (offset - c.utf8Size) := ih (Nat.le_of_succ_le_succ inside)
      rw [byteOfChar, wholeBefore_cons]
      split <;> omega

/-- **Characters that start before an offset round up.** -/
theorem charOfByte_le_iff {text : List Char} {offset : Nat} (inside : offset ≤ utf8Len text)
    (column : Nat) : charOfByte text offset ≤ column ↔ offset ≤ byteOfChar text column := by
  induction text generalizing column offset with
  | nil => exact iff_of_true (Nat.zero_le _) inside
  | cons c rest ih =>
    rw [String.utf8Len_cons] at inside
    have shorter : offset - c.utf8Size ≤ utf8Len rest := by omega
    rw [charOfByte]
    split
    · next start =>
      rw [start]
      exact iff_of_true (Nat.zero_le _) (Nat.zero_le _)
    · next behind =>
      cases column with
      | zero =>
        rw [byteOfChar_zero]
        omega
      | succ column =>
        have later := ih shorter column
        rw [byteOfChar]
        omega

theorem charOfByte_zero (text : List Char) : charOfByte text 0 = 0 := by
  cases text <;> rfl

/-- The two counts agree on boundaries.  Inside of a character, that one has started and not
ended. -/
theorem charOfByte_cases {text : List Char} {offset : Nat} (inside : offset ≤ utf8Len text) :
    OnBoundary text offset ∧ charOfByte text offset = wholeBefore text offset ∨
      ¬ OnBoundary text offset ∧ charOfByte text offset = wholeBefore text offset + 1 := by
  induction text generalizing offset with
  | nil =>
    obtain rfl : offset = 0 := Nat.le_zero.mp inside
    exact .inl ⟨⟨[], [], rfl, rfl⟩, rfl⟩
  | cons c rest ih =>
    have one := c.utf8Size_pos
    rw [String.utf8Len_cons] at inside
    have shorter : offset - c.utf8Size ≤ utf8Len rest := by omega
    rw [onBoundary_cons_iff, charOfByte, wholeBefore_cons]
    rcases Nat.lt_or_ge offset c.utf8Size with early | late
    · rw [Nat.sub_eq_zero_of_le (Nat.le_of_lt early), charOfByte_zero,
        if_neg (Nat.not_le.mpr early)]
      split <;> omega
    · have positive : offset ≠ 0 := by omega
      rw [if_neg positive, if_pos late]
      rcases ih shorter with ⟨boundary, same⟩ | ⟨divided, more⟩
      · exact .inl ⟨.inr ⟨late, boundary⟩, by omega⟩
      · refine .inr ⟨?_, by omega⟩
        rintro (start | ⟨-, boundary⟩)
        · exact positive start
        · exact divided boundary

/-! ## There and back -/

/-- A character is found again from its offset. -/
theorem charOfByte_byteOfChar {text : List Char} {column : Nat} (inside : column ≤ text.length) :
    charOfByte text (byteOfChar text column) = column := by
  have within := byteOfChar_le text column
  refine Nat.le_antisymm ((charOfByte_le_iff within column).mpr (Nat.le_refl _)) ?_
  have down := (byteOfChar_le_iff inside).mp (Nat.le_refl (byteOfChar text column))
  rcases charOfByte_cases within with ⟨-, same⟩ | ⟨-, more⟩ <;> omega

theorem byteOfChar_charOfByte {text : List Char} {offset : Nat}
    (boundary : OnBoundary text offset) : byteOfChar text (charOfByte text offset) = offset := by
  obtain ⟨column, inside, rfl⟩ := onBoundary_iff.mp boundary
  rw [charOfByte_byteOfChar inside]

/-- A column comes no later than an offset exactly if its own offset does, if and only if there is
nothing to round. -/
theorem forall_byteOfChar_le_iff {text : List Char} {offset : Nat}
    (inside : offset ≤ utf8Len text) :
    (∀ column ≤ text.length, byteOfChar text column ≤ offset ↔ column ≤ charOfByte text offset) ↔
      OnBoundary text offset := by
  constructor
  · intro galois
    rcases charOfByte_cases inside with ⟨boundary, -⟩ | ⟨-, more⟩
    · exact boundary
    · -- the character that holds the offset has started, so its end would have to come in time
      have counted : charOfByte text offset ≤ text.length := by
        rw [charOfByte_le_iff inside, byteOfChar_eq_utf8Len_take, List.take_length]
        exact inside
      have ended := (galois _ counted).mpr (Nat.le_refl _)
      rw [byteOfChar_le_iff counted, more] at ended
      exact absurd ended (Nat.not_succ_le_self _)
  · intro boundary column within
    rcases charOfByte_cases inside with ⟨-, same⟩ | ⟨divided, -⟩
    · rw [byteOfChar_le_iff within, same]
    · exact absurd boundary divided

/-- **A byte offset is rounded down exactly if it is not inside of a character.**  For every text
and every offset up to its end, columns compare with the offset as their own offsets do, and the
offset becomes the number of characters that lie entirely before it, each if and only if it is on a
character boundary.  Inside of a character one more is counted: offsets are rounded up.  On
boundaries the two conversions are inverse to each other. -/
theorem byte_offset_rounds_down_iff (text : String) {offset : Nat}
    (inside : offset ≤ text.utf8ByteSize) :
    ((∀ column ≤ text.length,
        byteOfChar text.toList column ≤ offset ↔ column ≤ charOfByte text.toList offset) ↔
      String.Pos.Raw.IsValid text ⟨offset⟩) ∧
    (charOfByte text.toList offset = wholeBefore text.toList offset ↔
      String.Pos.Raw.IsValid text ⟨offset⟩) ∧
    (¬ String.Pos.Raw.IsValid text ⟨offset⟩ →
      charOfByte text.toList offset = wholeBefore text.toList offset + 1) ∧
    (∀ column, charOfByte text.toList offset ≤ column ↔ offset ≤ byteOfChar text.toList column) ∧
    (String.Pos.Raw.IsValid text ⟨offset⟩ →
      byteOfChar text.toList (charOfByte text.toList offset) = offset) ∧
    ∀ column ≤ text.length,
      String.Pos.Raw.IsValid text ⟨byteOfChar text.toList column⟩ ∧
      charOfByte text.toList (byteOfChar text.toList column) = column := by
  rw [← String.utf8Len_toList] at inside
  simp only [← String.length_toList, ← onBoundary_toList_iff]
  have cases := charOfByte_cases inside
  refine ⟨forall_byteOfChar_le_iff inside, ?_, ?_, charOfByte_le_iff inside,
    byteOfChar_charOfByte, ?_⟩
  · rcases cases with ⟨boundary, same⟩ | ⟨divided, more⟩
    · exact iff_of_true same boundary
    · exact iff_of_false (by omega) divided
  · intro divided
    rcases cases with ⟨boundary, -⟩ | ⟨-, more⟩
    · exact absurd boundary divided
    · exact more
  · intro column within
    exact ⟨onBoundary_iff.mpr ⟨column, within, rfl⟩, charOfByte_byteOfChar within⟩

/-- An offset behind a character of two bytes. -/
theorem byte_offset_rounds_down_iff_accented :
    3 ≤ "aé b".utf8ByteSize ∧ String.Pos.Raw.IsValid "aé b" ⟨3⟩ ∧
      charOfByte "aé b".toList 3 = wholeBefore "aé b".toList 3 := by
  have inside : 3 ≤ "aé b".utf8ByteSize := by decide
  have boundary : String.Pos.Raw.IsValid "aé b" ⟨3⟩ := by decide
  exact ⟨inside, boundary, (byte_offset_rounds_down_iff "aé b" inside).2.1.mpr boundary⟩

/-- The offset in the middle of a character of two bytes becomes the column behind it. -/
theorem byte_offset_rounded_up_inside_character :
    1 ≤ "é".utf8ByteSize ∧ 1 ≤ "é".length ∧ charOfByte "é".toList 1 = 1 ∧
      wholeBefore "é".toList 1 = 0 ∧
      ¬ (byteOfChar "é".toList 1 ≤ 1 ↔ 1 ≤ charOfByte "é".toList 1) := by
  decide

end KotlinAssist.Text
