/-!
# Lines of a document

A line ends at a line feed, and one carriage return directly before that line feed belongs to the
ending.  A carriage return anywhere else is an ordinary character of its line, also at the very end
of the text.  Nothing follows a final line feed, so the number of lines is the number of line feeds,
plus one when the text does not end in one and is not empty.
-/

namespace KotlinAssist.Text

/-- The characters of one line, without its ending. -/
abbrev Line := List Char

/-- One step of reading lines from the right.  The state holds the lines read so far and whether
the character just read was a line feed, so that a carriage return before it can be dropped. -/
def lineStep (c : Char) (state : List Line × Bool) : List Line × Bool :=
  if c = '\n' then ([] :: state.1, true)
  else if c = '\r' ∧ state.2 = true then (state.1, false)
  else
    match state.1 with
    | [] => ([[c]], false)
    | line :: rest => ((c :: line) :: rest, false)

/-- The lines of a sequence of characters. -/
def splitLines (text : List Char) : List Line :=
  (text.foldr lineStep ([], false)).1

/-- The lines of a document. -/
def lines (text : String) : List Line :=
  splitLines text.toList

@[simp] theorem splitLines_nil : splitLines [] = [] := rfl

@[simp] theorem splitLines_newline (text : List Char) :
    splitLines ('\n' :: text) = [] :: splitLines text := by
  simp [splitLines, lineStep]

end KotlinAssist.Text
