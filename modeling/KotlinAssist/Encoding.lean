import KotlinAssist.Position
import KotlinAssist.Text.Line
import KotlinAssist.Text.Units

/-!
# Columns of a client

Client and server agree on the unit of columns when they first meet: characters when the client
offers them, UTF-16 code units otherwise.  A converted column is cut to 32 bits, the width it has
on the wire; a position on a line that does not exist is left as it is.

## Main definitions

* `Encoding` — the unit of a client
* `Encoding.negotiate` — the unit chosen among those offered
* `Encoding.toChars` — a position of the client in characters
* `Encoding.fromChars` — a position in characters for the client
-/

namespace KotlinAssist

open Text

/-- The unit in which a client counts columns. -/
inductive Encoding where
  | utf16
  | utf32
  deriving DecidableEq

namespace Encoding

/-- The name of the unit on the wire. -/
def label : Encoding → String
  | .utf16 => "utf-16"
  | .utf32 => "utf-32"

/-- Characters if the client offers them, code units otherwise. -/
def negotiate (offered : Option (List String)) : Encoding :=
  if (offered.getD []).contains (label .utf32) then .utf32 else .utf16

/-- Number of columns that fit on the wire. -/
def columnLimit : Nat :=
  0x100000000

/-- Converts the column of a position on an existing line by `column`, for a client that counts
code units. -/
def convert (encoding : Encoding) (column : Line → Nat → Nat) (lines : List Line)
    (position : Position) : Position :=
  match encoding, lines[position.line]? with
  | .utf16, some line => ⟨position.line, column line position.character % columnLimit⟩
  | _, _ => position

/-- The position in characters of a client's position. -/
def toChars (encoding : Encoding) : List Line → Position → Position :=
  encoding.convert charOfUnit

/-- The client's position of a position in characters. -/
def fromChars (encoding : Encoding) : List Line → Position → Position :=
  encoding.convert unitOfChar

/-- The range in characters of a client's range. -/
def rangeToChars (encoding : Encoding) (lines : List Line) (range : Range) : Range :=
  ⟨encoding.toChars lines range.start, encoding.toChars lines range.stop⟩

/-- The client's range of a range in characters. -/
def rangeFromChars (encoding : Encoding) (lines : List Line) (range : Range) : Range :=
  ⟨encoding.fromChars lines range.start, encoding.fromChars lines range.stop⟩

/-- A client that counts characters needs no conversion. -/
@[simp] theorem toChars_utf32 (lines : List Line) (position : Position) :
    Encoding.utf32.toChars lines position = position := rfl

@[simp] theorem fromChars_utf32 (lines : List Line) (position : Position) :
    Encoding.utf32.fromChars lines position = position := rfl

end Encoding

end KotlinAssist
