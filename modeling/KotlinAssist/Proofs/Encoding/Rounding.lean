import KotlinAssist.Proofs.Encoding.Columns
import Mathlib.Order.GaloisConnection.Defs

/-!
# How columns are rounded

The conversions between characters and UTF-16 code units are a Galois connection: a character column
comes no later than a code unit exactly if its own code unit does.  All else about rounding follows
from this and from the fact that a character column is found again.  Both conversions keep the order
of columns, and going to characters and back never goes forward.

How far it goes back is said by the line: by one unit in the middle of a surrogate pair, and not at
all elsewhere, also behind the end of the line.  A position whose column fits into 32 bits is
therefore converted without a cut.

## Main definitions

* `Text.SplitsPair` — a column in the middle of a surrogate pair

## Main statements

* `gc_unitOfChar_charOfUnit` — the Galois connection
* `rounded_cases` — what is found on the way to characters and back
* `columns_are_galois_pair` — all of this, and what it means for positions
-/

namespace KotlinAssist

open Text

/-! ## Columns of a line -/

/-- A UTF-16 column between the two code units of a character of a line. -/
def Text.SplitsPair (line : List Char) (unit : Nat) : Prop :=
  ∃ front c back, line = front ++ c :: back ∧ 0x10000 ≤ c.toNat ∧ unit = units front + 1

theorem unitOfChar_le_iff (line : List Char) (column unit : Nat) :
    unitOfChar line column ≤ unit ↔ column ≤ charOfUnit line unit := by
  induction line generalizing column unit with
  | nil => exact Iff.rfl
  | cons c rest ih =>
    cases column with
    | zero => exact iff_of_true (Nat.zero_le _) (Nat.zero_le _)
    | succ column =>
      have later := ih column (unit - units16 c)
      rw [unitOfChar, charOfUnit]
      split <;> omega

/-- **The conversions of columns are a Galois connection**, also behind the end of a line. -/
theorem gc_unitOfChar_charOfUnit (line : List Char) :
    GaloisConnection (unitOfChar line) (charOfUnit line) :=
  fun column unit => unitOfChar_le_iff line column unit

theorem units16_eq_two_iff (c : Char) : units16 c = 2 ↔ 0x10000 ≤ c.toNat := by
  unfold units16
  split <;> omega

theorem units16_le_two (c : Char) : units16 c ≤ 2 := by
  unfold units16
  split <;> omega

/-- A pair is split at the first character, or behind all code units of it. -/
theorem splitsPair_cons_iff (c : Char) (rest : List Char) (unit : Nat) :
    SplitsPair (c :: rest) unit ↔
      units16 c = 2 ∧ unit = 1 ∨ units16 c ≤ unit ∧ SplitsPair rest (unit - units16 c) := by
  rw [units16_eq_two_iff]
  constructor
  · rintro ⟨front, d, back, cut, astral, rfl⟩
    cases front with
    | nil =>
      cases cut
      exact .inl ⟨astral, rfl⟩
    | cons e front =>
      cases cut
      rw [units]
      refine .inr ⟨by omega, front, d, back, rfl, astral, by omega⟩
  · rintro (⟨astral, rfl⟩ | ⟨behind, front, d, back, rfl, astral, place⟩)
    · exact ⟨[], c, rest, rfl, astral, rfl⟩
    · refine ⟨c :: front, d, back, rfl, astral, ?_⟩
      rw [units]
      omega

/-- A column is found again on the way to characters and back, except in the middle of a pair, where
one unit is lost. -/
theorem rounded_cases (line : List Char) (unit : Nat) :
    SplitsPair line unit ∧ unitOfChar line (charOfUnit line unit) + 1 = unit ∨
      ¬ SplitsPair line unit ∧ unitOfChar line (charOfUnit line unit) = unit := by
  induction line generalizing unit with
  | nil =>
    refine .inr ⟨?_, rfl⟩
    rintro ⟨front, c, back, cut, -⟩
    exact List.append_ne_nil_of_right_ne_nil front (List.cons_ne_nil c back) cut.symm
  | cons c rest ih =>
    have one := units16_pos c
    have two := units16_le_two c
    rw [splitsPair_cons_iff, charOfUnit]
    split
    · next early =>
      -- the first character has two units at most, so an early column is the first or splits it
      show _ ∧ 0 + 1 = unit ∨ _ ∧ 0 = unit
      omega
    · next late =>
      rw [Nat.add_comm 1, unitOfChar]
      rcases ih (unit - units16 c) with ⟨splits, lost⟩ | ⟨whole, found⟩
      · exact .inl ⟨.inr ⟨by omega, splits⟩, by omega⟩
      · refine .inr ⟨?_, by omega⟩
        rintro (⟨_, first⟩ | ⟨-, splits⟩)
        · omega
        · exact whole splits

/-! ## Positions of a client -/

namespace Encoding

/-- The column of a client that fits into 32 bits still does so in characters. -/
theorem toChars_of_lt {document : List Line} {position : Position} {line : Line}
    (present : document[position.line]? = some line)
    (fits : position.character < columnLimit) :
    Encoding.utf16.toChars document position =
      ⟨position.line, charOfUnit line position.character⟩ := by
  have uncut := Nat.lt_of_le_of_lt (charOfUnit_le line position.character) fits
  simp only [toChars, convert, present, Nat.mod_eq_of_lt uncut]

/-- A position is not moved forward on the way to characters and back. -/
theorem character_fromChars_toChars_le (encoding : Encoding) (document : List Line)
    (position : Position) :
    (encoding.fromChars document (encoding.toChars document position)).character ≤
      position.character := by
  cases encoding with
  | utf32 => exact Nat.le_refl _
  | utf16 =>
    cases present : document[position.line]? with
    | none => simp [toChars, fromChars, convert, present]
    | some line =>
      have cut : charOfUnit line position.character % columnLimit ≤
          charOfUnit line position.character := Nat.mod_le _ _
      have back := (unitOfChar_le_iff line _ position.character).mpr cut
      simp only [toChars, fromChars, convert, present]
      exact Nat.le_trans (Nat.mod_le _ _) back

end Encoding

/-- **The two conversions of columns are an exact Galois pair.**  For every line, a column in
characters converts to at most a given code unit exactly if it is at most what that unit converts
to, and it is found again from its own code unit.  So both keep the order of columns; a code unit in
the middle of a surrogate pair is rounded down by one, and every other one is found again; and no
column gets greater in characters.  A position of a client is then converted to characters without a
cut to 32 bits, and on the way back it never comes to lie further right. -/
theorem columns_are_galois_pair (line : List Char) (document : List Line) (position : Position) :
    (∀ column unit, unitOfChar line column ≤ unit ↔ column ≤ charOfUnit line unit) ∧
    (∀ column, charOfUnit line (unitOfChar line column) = column) ∧
    Monotone (unitOfChar line) ∧ Monotone (charOfUnit line) ∧
    (∀ unit, SplitsPair line unit → unitOfChar line (charOfUnit line unit) + 1 = unit) ∧
    (∀ unit, ¬ SplitsPair line unit → unitOfChar line (charOfUnit line unit) = unit) ∧
    (∀ unit, charOfUnit line unit ≤ unit) ∧
    (document[position.line]? = some line → position.character < Encoding.columnLimit →
      Encoding.utf16.toChars document position =
        ⟨position.line, charOfUnit line position.character⟩) ∧
    ∀ encoding : Encoding,
      (encoding.fromChars document (encoding.toChars document position)).line = position.line ∧
      (encoding.fromChars document (encoding.toChars document position)).character ≤
        position.character := by
  have galois := gc_unitOfChar_charOfUnit line
  refine ⟨unitOfChar_le_iff line, charOfUnit_unitOfChar line, galois.monotone_l,
    galois.monotone_u, ?_, ?_, charOfUnit_le line, Encoding.toChars_of_lt, ?_⟩
  · intro unit splits
    rcases rounded_cases line unit with ⟨-, lost⟩ | ⟨whole, -⟩
    · exact lost
    · exact absurd splits whole
  · intro unit whole
    rcases rounded_cases line unit with ⟨splits, -⟩ | ⟨-, found⟩
    · exact absurd splits whole
    · exact found
  · intro encoding
    exact ⟨by simp, encoding.character_fromChars_toChars_le document position⟩

/-- The column between the two code units of a character above U+FFFF. -/
theorem columns_are_galois_pair_astral :
    SplitsPair "a😀b".toList 2 ∧ ["a😀b".toList][0]? = some "a😀b".toList ∧
      2 < Encoding.columnLimit ∧
      unitOfChar "a😀b".toList (charOfUnit "a😀b".toList 2) + 1 = 2 ∧
      Encoding.utf16.toChars ["a😀b".toList] ⟨0, 2⟩ = ⟨0, 1⟩ := by
  have splits : SplitsPair "a😀b".toList 2 := ⟨['a'], '😀', ['b'], rfl, by decide, by decide⟩
  have fits : 2 < Encoding.columnLimit := by decide
  obtain ⟨-, -, -, -, inside, -, -, uncut, -⟩ :=
    columns_are_galois_pair "a😀b".toList ["a😀b".toList] ⟨0, 2⟩
  exact ⟨splits, rfl, fits, inside 2 splits, uncut rfl fits⟩

end KotlinAssist
