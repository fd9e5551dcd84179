/-!
# Columns in other units

Columns are counted in characters.  The encoding of a document counts bytes, and editors usually
count UTF-16 code units: one for a character below U+10000, two above.  The conversions recurse over
the line in step, so that each is read off the other.

A byte offset inside a character counts that character.  A code unit inside a surrogate pair does
not, and columns past the end of the line keep their distance from it.

## Main definitions

* `charOfByte` — from bytes to characters
* `byteOfChar` — from characters to bytes
* `charOfUnit` — from UTF-16 code units to characters
* `unitOfChar` — from characters to UTF-16 code units
-/

namespace KotlinAssist.Text

/-- Number of UTF-16 code units of a character. -/
def units16 (c : Char) : Nat :=
  if c.toNat < 0x10000 then 1 else 2

/-- Number of characters that start before a byte offset. -/
def charOfByte : List Char → Nat → Nat
  | [], _ => 0
  | c :: rest, offset => if offset = 0 then 0 else 1 + charOfByte rest (offset - c.utf8Size)

/-- Byte offset of a character, or the length in bytes when there is no such character. -/
def byteOfChar : List Char → Nat → Nat
  | [], _ => 0
  | _ :: _, 0 => 0
  | c :: rest, column + 1 => c.utf8Size + byteOfChar rest column

/-- UTF-16 column of a character column. -/
def unitOfChar : List Char → Nat → Nat
  | [], column => column
  | _ :: _, 0 => 0
  | c :: rest, column + 1 => units16 c + unitOfChar rest column

/-- Character column of a UTF-16 column. -/
def charOfUnit : List Char → Nat → Nat
  | [], unit => unit
  | c :: rest, unit => if unit < units16 c then 0 else 1 + charOfUnit rest (unit - units16 c)

/-- One code unit at least, so no column is lost. -/
theorem units16_pos (c : Char) : 0 < units16 c := by
  unfold units16
  split <;> omega

/-- The column of a character is found again from its UTF-16 column. -/
@[simp] theorem charOfUnit_unitOfChar (line : List Char) (column : Nat) :
    charOfUnit line (unitOfChar line column) = column := by
  induction line generalizing column with
  | nil => rfl
  | cons c rest ih =>
    cases column with
    | zero => simp [unitOfChar, charOfUnit, units16_pos]
    | succ column =>
      simp [unitOfChar, charOfUnit, ih, Nat.add_comm]

end KotlinAssist.Text
