import KotlinAssist.Position
import KotlinAssist.Text.Alphabetic
import KotlinAssist.Text.Line
import KotlinAssist.Text.Numeric
import KotlinAssist.Text.Span

/-!
# Identifiers and words under the cursor

A word of a line is a maximal run of identifier characters: letters and digits of any script, and
the underscore.  The cursor selects the word it stands in or touches at either end.  A whole-word
occurrence of a text is an occurrence with no identifier character on either side.

Names that can be declared or given anew are narrower: an ASCII letter or underscore, followed by
ASCII letters, digits and underscores.

## Main definitions

* `isIdentifierChar` — the characters of words
* `isName` — the narrower names
* `wordAt?` — the word that a column touches
* `typedAt?` — the part of it before the column
* `wordSpans` — the whole-word occurrences of a text in a line
* `wordRanges` — the same in a document
-/

namespace KotlinAssist

open Text

/-- Whether a character can stand in a word. -/
def isIdentifierChar (c : Char) : Bool :=
  isAlphabetic c || isNumeric c || c == '_'

/-- Whether a character can start a declared name. -/
def isNameStart (c : Char) : Bool :=
  c.isAlpha || c == '_'

/-- Whether a character can continue a declared name. -/
def isNamePart (c : Char) : Bool :=
  c.isAlphanum || c == '_'

/-- Whether a text is a name: a start character, then characters that continue it. -/
def isName : List Char → Bool
  | [] => false
  | c :: rest => isNameStart c && rest.all isNamePart

/-- A word of a line and the columns it takes. -/
structure Word where
  text : String
  span : Span
  deriving DecidableEq

namespace Word

/-- The range of a word on a given line. -/
def range (word : Word) (line : Nat) : Range :=
  .onLine line word.span.start word.span.stop

end Word

/-- The identifier characters that end at a column. -/
def typedBefore (line : Line) (column : Nat) : List Char :=
  ((line.take column).reverse.takeWhile isIdentifierChar).reverse

/-- The identifier characters that start at a column. -/
def typedAfter (line : Line) (column : Nat) : List Char :=
  (line.drop column).takeWhile isIdentifierChar

/-- The word that a column stands in or touches.  There is none past the end of the line, and none
between two characters that are not identifier characters. -/
def wordAt? (line : Line) (column : Nat) : Option Word :=
  let before := typedBefore line column
  let after := typedAfter line column
  if line.length < column ∨ before ++ after = [] then none
  else
    some ⟨String.ofList (before ++ after), ⟨column - before.length, column + after.length⟩⟩

/-- The word at a position of a document. -/
def wordAtPosition? (lines : List Line) (position : Position) : Option Word :=
  lines[position.line]?.bind (wordAt? · position.character)

/-- What has been typed of the word before the cursor; nothing past the end of the line. -/
def typedAt? (line : Line) (column : Nat) : Option (List Char) :=
  if line.length < column then none else some (typedBefore line column)

/-- Whether neither neighbour of a span is an identifier character. -/
def standsAlone (line : Line) (span : Span) : Bool :=
  !(line.take span.start).getLast?.any isIdentifierChar &&
    !(line.drop span.stop).head?.any isIdentifierChar

/-- The whole-word occurrences of a text in a line. -/
def wordSpans (line : Line) (word : List Char) : List Span :=
  (occurrences word line).filter (standsAlone line)

/-- The whole-word occurrences of a text in a document, in document order. -/
def wordRanges (lines : List Line) (word : List Char) : List Range :=
  lines.zipIdx.flatMap fun (line, index) =>
    (wordSpans line word).map fun span => .onLine index span.start span.stop

/-- Whether a position lies on a line of the document, its end included. -/
def inDocument (lines : List Line) (position : Position) : Bool :=
  lines[position.line]?.any fun line => position.character ≤ line.length

end KotlinAssist
