import KotlinAssist.Documentation
import KotlinAssist.Vocabulary

/-!
# Hover texts

The word under the cursor is looked up as a reserved word with a description first, and then among
the declarations of the document: functions before types, types before properties, and of several
the first.  A declaration shows its signature and, when it has one, its documentation.
-/

namespace KotlinAssist

open Text

/-- What is shown for a word, and where the word stands. -/
structure Hover where
  value : String
  range : Range
  deriving DecidableEq

/-- The declaration that a name refers to. -/
def Declaration.find? (declarations : List Declaration) (name : String) : Option Declaration :=
  let named := declarations.filter (·.name == name)
  named.find? (·.kind == .function) <|>
  named.find? (·.kind.isTypeLike) <|>
  named.find? (·.kind == .property)

namespace Hover

/-- The line between the head of a hover text and its description. -/
def separator : String :=
  "\n\n---\n\n"

/-- The text shown for a reserved word. -/
def ofKeyword (word description : String) : String :=
  s!"**{word}** *(keyword)*" ++ separator ++ description

/-- The text shown for a declaration. -/
def ofDeclaration (lines : List Line) (declaration : Declaration) : String :=
  let signature := "```kotlin\n" ++ declaration.render ++ "\n```"
  match declaration.documentation? lines with
  | none => signature
  | some documentation => signature ++ separator ++ documentation

/-- The text shown for a word. -/
def ofWord? (lines : List Line) (word : String) : Option String :=
  match Vocabulary.keywordDoc? word with
  | some description => some (ofKeyword word description)
  | none => (Declaration.find? (Declaration.ofLines lines) word).map (ofDeclaration lines)

/-- What is shown at a position. -/
def at? (lines : List Line) (position : Position) : Option Hover := do
  let word ← wordAtPosition? lines position
  let value ← ofWord? lines word.text
  some ⟨value, word.range position.line⟩

end Hover

end KotlinAssist
