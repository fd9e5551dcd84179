import KotlinAssist.Grammar.Named

/-!
# References and definitions

The references to the word under the cursor are its whole-word occurrences in the document.  Its
definition is its first occurrence on the first line that declares it.
-/

namespace KotlinAssist

open Text

/-- The references to the word at a position. -/
def references (uri : Uri) (lines : List Line) (position : Position) : List Location :=
  match wordAtPosition? lines position with
  | none => []
  | some word => (wordRanges lines word.text.toList).map (Location.mk uri)

/-- The first occurrence of a name on a line that declares it. -/
def declaredOn? (name : List Char) (line : Line) : Option Span :=
  if Grammar.declares name (trim line) then (wordSpans line name).head? else none

/-- The definition of the word at a position. -/
def definition? (uri : Uri) (lines : List Line) (position : Position) : Option Location := do
  let word ← wordAtPosition? lines position
  let (span, index) ← lines.zipIdx.findSome? fun (line, index) =>
    (declaredOn? word.text.toList line).map (·, index)
  some ⟨uri, .onLine index span.start span.stop⟩

end KotlinAssist
