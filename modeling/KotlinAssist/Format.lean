import KotlinAssist.Position
import KotlinAssist.Text.Blank
import KotlinAssist.Text.Line

/-!
# Formatting

A formatted document has no blanks at the end of a line, no blank lines at its end, and ends with
exactly one line feed unless it is empty.
-/

namespace KotlinAssist

open Text

/-- The lines of a document without trailing blanks and without empty lines at the end. -/
def formatLines (lines : List Line) : List Line :=
  ((lines.map trimEnd).reverse.dropWhile List.isEmpty).reverse

/-- The formatted text of a document. -/
def formatText (text : String) : String :=
  String.ofList ((formatLines (lines text)).flatMap (· ++ ['\n']))

/-- The position after the last character of a text. -/
def endPosition (text : List Char) : Position :=
  ⟨text.count '\n', (text.reverse.takeWhile (· != '\n')).length⟩

/-- The edit that formats a document, if it is not formatted yet. -/
def formatEdit? (text : String) : Option TextEdit :=
  let formatted := formatText text
  if formatted = text then none
  else some ⟨⟨⟨0, 0⟩, endPosition text.toList⟩, formatted⟩

end KotlinAssist
