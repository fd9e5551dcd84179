import KotlinAssist.Diagnostic
import KotlinAssist.Text.Case

/-!
# Code actions

The fix for a diagnostic is chosen by its message, so that diagnostics sent back by a client are
understood.  Besides the fixes, organising imports and formatting are always offered as commands,
and extracting a function when more than one line is selected.

## Main definitions

* `QuickFix.classify?` — the fix for a diagnostic
* `CodeAction.ofDiagnostic?` — the action that makes it
* `CodeAction.all` — all actions for a range
-/

namespace KotlinAssist

open Text

/-- The fix for a diagnostic. -/
inductive QuickFix where
  | removeUnusedImport
  | removeTrailingComma
  | fixNamingCase
  | replaceDiscouraged (replacement : String)
  deriving DecidableEq

namespace QuickFix

/-- What a diagnostic about a trailing comma says, in any case of letters. -/
def trailingComma : String :=
  "trailing comma"

/-- The replacement that a diagnostic carries, or else that of the discouraged text whose message it
has. -/
def replacement? (diagnostic : Diagnostic) : Option String :=
  (diagnostic.data.bind (Json.require? Json.str? · "replacement")) <|>
  (DiscouragedPattern.all.find? (·.message == diagnostic.message)).map (·.replacement)

/-- The fix for a diagnostic. -/
def classify? (diagnostic : Diagnostic) : Option QuickFix :=
  let message := diagnostic.message.toList
  if UnusedImport.message.toList.isPrefixOf message then some .removeUnusedImport
  else if occursIn trailingComma.toList (lower message) then some .removeTrailingComma
  else if NamingConvention.uppercaseMessage.toList.isSuffixOf message ||
      NamingConvention.lowercaseMessage.toList.isSuffixOf message then some .fixNamingCase
  else (replacement? diagnostic).map .replaceDiscouraged

end QuickFix

/-- The text of a range on its first line; nothing when it is empty. -/
def textIn? (lines : List Line) (range : Range) : Option (List Char) := do
  let line ← lines[range.start.line]?
  let rest := line.drop range.start.character
  let text :=
    if range.stop.line = range.start.line then
      rest.take (range.stop.character - range.start.character)
    else rest
  if text.isEmpty then none else some text

/-- The last comma of a range on its first line.  A range that ends on another line, or not after
its start, is taken to reach the end of the line. -/
def commaIn? (lines : List Line) (range : Range) : Option Range := do
  let line ← lines[range.start.line]?
  let start := range.start.character
  let stop :=
    if range.stop.line = range.start.line ∧ start < range.stop.character then
      min range.stop.character line.length
    else line.length
  let back := (Span.mk start stop).slice line |>.reverse
  if back.contains ',' then
    let column := stop - 1 - back.idxOf ','
    some (.onLine range.start.line column (column + 1))
  else none

/-- The kind of a code action. -/
inductive CodeActionKind where
  | quickFix
  | source
  | organizeImports
  | extract
  deriving DecidableEq

namespace CodeActionKind

/-- All kinds. -/
def all : List CodeActionKind :=
  [quickFix, source, organizeImports, extract]

/-- The name of a kind on the wire. -/
def label : CodeActionKind → String
  | .quickFix => "quickfix"
  | .source => "source"
  | .organizeImports => "source.organizeImports"
  | .extract => "refactor.extract"

end CodeActionKind

/-- A command that a client can ask for, with the document it is about. -/
structure Command where
  title : String
  command : String
  uri : Uri
  deriving DecidableEq

namespace Command

/-- The command to organise imports. -/
def organizeImports : String :=
  "kotlin.organizeImports"

/-- The command to run tests. -/
def runTests : String :=
  "kotlin.runTests"

/-- The command to format a document. -/
def formatDocument : String :=
  "kotlin.formatDocument"

/-- All commands. -/
def all : List String :=
  [organizeImports, runTests, formatDocument]

end Command

/-- Something a client can offer to the user. -/
structure CodeAction where
  title : String
  kind : CodeActionKind
  diagnostics : Option (List Diagnostic) := none
  edit : Option WorkspaceEdit := none
  isPreferred : Bool := false
  command : Option Command := none

namespace CodeAction

/-- The title of a fix and the edit that it makes. -/
def fixEdit? (lines : List Line) (diagnostic : Diagnostic) :
    QuickFix → Option (String × TextEdit)
  | .removeUnusedImport => some ("Remove unused import", ⟨diagnostic.range, ""⟩)
  | .removeTrailingComma =>
    (commaIn? lines diagnostic.range).map fun range => ("Remove trailing comma", ⟨range, ""⟩)
  | .fixNamingCase =>
    (textIn? lines diagnostic.range).map fun name =>
      let fixed := String.ofList (flipFirstCase name)
      (s!"Rename '{String.ofList name}' to '{fixed}'", ⟨diagnostic.range, fixed⟩)
  | .replaceDiscouraged replacement =>
    some (s!"Replace with '{replacement}'", ⟨diagnostic.range, replacement⟩)

/-- The action that fixes a diagnostic, if there is a fix for it. -/
def ofDiagnostic? (uri : Uri) (lines : List Line) (diagnostic : Diagnostic) :
    Option CodeAction := do
  let fix ← QuickFix.classify? diagnostic
  let (title, edit) ← fixEdit? lines diagnostic fix
  some
    { title := title
      kind := .quickFix
      diagnostics := some [diagnostic]
      edit := some ⟨[(uri, [edit])]⟩
      isPreferred := true }

/-- An action that runs a command on a document. -/
def ofCommand (uri : Uri) (title : String) (kind : CodeActionKind) (command : String) :
    CodeAction where
  title := title
  kind := kind
  command := some ⟨title, command, uri⟩

/-- The actions for a range of a document and the diagnostics about it. -/
def all (uri : Uri) (lines : List Line) (range : Range) (diagnostics : List Diagnostic) :
    List CodeAction :=
  diagnostics.filterMap (ofDiagnostic? uri lines) ++
  [ofCommand uri "Organize imports" .organizeImports Command.organizeImports,
   ofCommand uri "Format document" .source Command.formatDocument] ++
  (if range.start.line = range.stop.line then []
   else [{ title := "Extract to function", kind := .extract }])

end CodeAction

end KotlinAssist
