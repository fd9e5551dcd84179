import KotlinAssist.Text.Line
import KotlinAssist.Text.Span

/-!
# Comments of a line

A line is read with the block comment that is open at its start, if there is one.  A block comment
ends at the first closing mark after its opening mark; a line comment takes the rest of the line.
The comment that is open at the end of the line is passed on to the next.

An opening mark opens a documentation comment when a star follows it that is not part of an
immediately following closing mark.

## Main definitions

* `CommentSpan` — a comment, or the part of one that stands on a line
* `OpenComment` — the block comment that is open between two lines
* `CommentSpan.ofLine` — the comments of a line and what is open after it
-/

namespace KotlinAssist

open Text

/-- A comment, or the part of a comment that stands on one line. -/
structure CommentSpan where
  span : Span
  documentation : Bool
  deriving DecidableEq

/-- The block comment that is open between two lines: whether it is a documentation comment. -/
abbrev OpenComment := Option Bool

namespace CommentSpan

/-- Recognises a comment: a line comment up to the end of the line, a block comment up to its
closing mark or, when that is on a later line, up to the end of the line. -/
def comment : Recogniser := fun _ text =>
  match text with
  | '/' :: '/' :: _ => some text.length
  | '/' :: '*' :: after =>
    match cutAt? "*/".toList after with
    | some (inside, _) => some (2 + inside.length + 2)
    | none => some text.length
  | _ => none

/-- Whether the text of a comment is that of a documentation comment. -/
def isDocumentation : List Char → Bool
  | '/' :: '*' :: '*' :: '/' :: _ => false
  | '/' :: '*' :: '*' :: _ => true
  | _ => false

/-- The block comment that the text of a comment leaves open. -/
def leftOpen (text : List Char) : OpenComment :=
  match text with
  | '/' :: '*' :: after =>
    if occursIn "*/".toList after then none else some (isDocumentation text)
  | _ => none

/-- The comments of a text that starts at a column outside of any comment, and the comment left
open. -/
def inCode (column : Nat) (text : List Char) : List CommentSpan × OpenComment :=
  let found := matchesOf comment text
  (found.map fun span =>
    ⟨⟨column + span.start, column + span.stop⟩, isDocumentation (span.slice text)⟩,
   found.getLast?.bind fun span => leftOpen (span.slice text))

/-- The comments of a line, and the comment left open.  An empty line has none. -/
def ofLine (opened : OpenComment) (line : Line) : List CommentSpan × OpenComment :=
  match opened with
  | none => inCode 0 line
  | some documentation =>
    match cutAt? "*/".toList line with
    | none => (if line.isEmpty then [] else [⟨⟨0, line.length⟩, documentation⟩], opened)
    | some (inside, rest) =>
      let stop := inside.length + 2
      let (spans, last) := inCode stop rest
      (⟨⟨0, stop⟩, documentation⟩ :: spans, last)

end CommentSpan

end KotlinAssist
