import KotlinAssist.Grammar.Scan

/-!
# Import lines

An import line names a dotted path, perhaps with a star at its end, and may give the imported
declaration another name.  What it brings into scope is that other name, or else the last name of
the path; a star brings in no single name.

## Main definitions

* `ImportHead` — the pieces of an import line
* `importHead?` — reads them
* `importedName?` — the name that the line brings into scope
-/

namespace KotlinAssist.Grammar

open Text

/-- The pieces of an import line. -/
structure ImportHead where
  /-- The word `import` and the blanks after it. -/
  introducer : List Char
  /-- The dotted path. -/
  path : List Char
  /-- The word `as` with its blanks, and the other name. -/
  newName : Option (List Char × List Char)
  deriving DecidableEq

namespace ImportHead

/-- The text of the import. -/
def matched (head : ImportHead) : List Char :=
  head.introducer ++ head.path ++ (head.newName.map fun (word, name) => word ++ name).getD []

/-- The name that the import brings into scope. -/
def simpleName? (head : ImportHead) : Option (List Char) :=
  match head.newName with
  | some (_, name) => some name
  | none =>
    if ".*".toList.isSuffixOf head.path then none
    else some (head.path.reverse.takeWhile (· != '.')).reverse

end ImportHead

/-- Reads a dot and a name. -/
def segment? : Reader
  | '.' :: text => (name? text).map fun (name, rest) => ('.' :: name, rest)
  | _ => none

/-- Reads a dotted path. -/
def path? : Reader := fun text => do
  let (first, rest) ← name? text
  let (segments, rest) := many segment? rest
  let (star, rest) := optional (word? ".*") rest
  some (first ++ segments ++ star, rest)

/-- Reads another name for an import. -/
def newName? (text : List Char) : Option (List Char × List Char) := do
  match blanks text with
  | ([], _) => none
  | (space, rest) => do
    let (word, rest) ← spacedWord? "as" rest
    let (name, _) ← name? rest
    some (space ++ word, name)

/-- The pieces of an import line. -/
def importHead? (text : List Char) : Option ImportHead := do
  let (introducer, rest) ← spacedWord? "import" text
  let (path, rest) ← path? rest
  some ⟨introducer, path, newName? rest⟩

/-- Whether a line is an import line. -/
def isImport (text : List Char) : Bool :=
  (importHead? text).isSome

/-- The name that a line imports. -/
def importedName? (text : List Char) : Option (List Char) :=
  (importHead? text).bind ImportHead.simpleName?

/-- Whether a line is a line comment. -/
def isLineComment (text : List Char) : Bool :=
  "//".toList.isPrefixOf text

end KotlinAssist.Grammar
