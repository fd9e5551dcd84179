import KotlinAssist.Identifier
import KotlinAssist.Vocabulary

/-!
# Renaming

A word can be renamed, and a name can be given, when it is a name and no reserved word.  Renaming
replaces every whole-word occurrence in the document.
-/

namespace KotlinAssist

open Text

/-- Whether a text can be renamed, or be a new name. -/
def isRenameable (name : String) : Bool :=
  isName name.toList && !Vocabulary.isKeyword name

/-- A word that can be renamed. -/
structure RenameTarget where
  range : Range
  placeholder : String
  deriving DecidableEq

/-- The word at a position, if it can be renamed. -/
def renameableAt? (lines : List Line) (position : Position) : Option Word :=
  (wordAtPosition? lines position).filter fun word => isRenameable word.text

namespace RenameTarget

/-- What can be renamed at a position. -/
def at? (lines : List Line) (position : Position) : Option RenameTarget :=
  (renameableAt? lines position).map fun word => ⟨word.range position.line, word.text⟩

end RenameTarget

/-- The edits that rename the word at a position; no edit when the new name cannot be given. -/
def rename? (uri : Uri) (lines : List Line) (position : Position) (newName : String) :
    Option WorkspaceEdit :=
  (renameableAt? lines position).map fun word =>
    if isRenameable newName then
      ⟨[(uri, (wordRanges lines word.text.toList).map fun range => ⟨range, newName⟩)]⟩
    else ⟨[]⟩

end KotlinAssist
