import KotlinAssist.CodeAction
import KotlinAssist.Completion
import KotlinAssist.Fold
import KotlinAssist.Format
import KotlinAssist.Highlight.Scan
import KotlinAssist.Reference
import KotlinAssist.Rename
import KotlinAssist.Symbol

/-!
# Questions about a document

A query is a question about the text of one document, and its answer depends on nothing but that
text and the unit of the client's columns.  The features work in characters: the positions of a
query are converted first, and the ranges of the answer last.

## Main definitions

* `Query` — a question
* `Answer` — an answer
* `Answer.mapRange` — an answer with every range changed
* `Query.answerInChars` — the answer in characters
* `Query.answer` — the answer in the columns of the client
-/

namespace KotlinAssist

open Text

/-- A question about the text of a document. -/
inductive Query where
  | completion (position : Position)
  | hover (position : Position)
  | definition (position : Position)
  | references (position : Position)
  | outline
  | codeAction (range : Range) (diagnostics : List Diagnostic)
  | format
  | prepareRename (position : Position)
  | rename (position : Position) (newName : String)
  | folding
  | tokens
  | tokensIn (range : Range)

/-- An answer to a client. -/
inductive Answer where
  | nothing
  | completions (items : List CompletionItem)
  | completion (item : CompletionItem)
  | hover (hover : Hover)
  | location (location : Location)
  | locations (locations : List Location)
  | outline (symbols : List DocumentSymbol)
  | symbols (symbols : List SymbolInformation)
  | actions (actions : List CodeAction)
  | edits (edits : List TextEdit)
  | renameTarget (target : RenameTarget)
  | workspaceEdit (edit : WorkspaceEdit)
  | folds (ranges : List FoldingRange)
  | tokens (tokens : List DeltaToken)

/-! ### Ranges of values -/

/-- A diagnostic with its range changed. -/
def Diagnostic.mapRange (change : Range → Range) (diagnostic : Diagnostic) : Diagnostic :=
  { diagnostic with range := change diagnostic.range }

/-- A hover text with its range changed. -/
def Hover.mapRange (change : Range → Range) (hover : Hover) : Hover :=
  { hover with range := change hover.range }

/-- A location with its range changed. -/
def Location.mapRange (change : Range → Range) (location : Location) : Location :=
  { location with range := change location.range }

/-- An entry of an outline with its ranges changed. -/
def DocumentSymbol.mapRange (change : Range → Range) (symbol : DocumentSymbol) :
    DocumentSymbol :=
  { symbol with range := change symbol.range, selection := change symbol.selection }

/-- An edit with its range changed. -/
def TextEdit.mapRange (change : Range → Range) (edit : TextEdit) : TextEdit :=
  { edit with range := change edit.range }

/-- The edits of several documents with their ranges changed. -/
def WorkspaceEdit.mapRange (change : Range → Range) (edit : WorkspaceEdit) : WorkspaceEdit :=
  ⟨edit.changes.map fun (uri, edits) => (uri, edits.map (·.mapRange change))⟩

/-- A code action with its ranges changed. -/
def CodeAction.mapRange (change : Range → Range) (action : CodeAction) : CodeAction :=
  { action with
    diagnostics := action.diagnostics.map fun found => found.map (·.mapRange change)
    edit := action.edit.map (·.mapRange change) }

/-- A word that can be renamed with its range changed. -/
def RenameTarget.mapRange (change : Range → Range) (target : RenameTarget) : RenameTarget :=
  { target with range := change target.range }

/-- An answer with every range in it changed.  Completions, folding regions and tokens have none. -/
def Answer.mapRange (change : Range → Range) : Answer → Answer
  | .hover shown => .hover (shown.mapRange change)
  | .location place => .location (place.mapRange change)
  | .locations places => .locations (places.map (·.mapRange change))
  | .outline entries => .outline (entries.map (·.mapRange change))
  | .actions offered => .actions (offered.map (·.mapRange change))
  | .edits made => .edits (made.map (·.mapRange change))
  | .renameTarget target => .renameTarget (target.mapRange change)
  | .workspaceEdit edit => .workspaceEdit (edit.mapRange change)
  | answer => answer

namespace Query

/-- A query with its positions and ranges changed.  Tokens are asked for by lines, which stay. -/
def map (position : Position → Position) (range : Range → Range) : Query → Query
  | .completion place => .completion (position place)
  | .hover place => .hover (position place)
  | .definition place => .definition (position place)
  | .references place => .references (position place)
  | .codeAction selected diagnostics =>
    .codeAction (range selected) (diagnostics.map (·.mapRange range))
  | .prepareRename place => .prepareRename (position place)
  | .rename place newName => .rename (position place) newName
  | query => query

/-- An answer that may be missing. -/
def orNothing {α : Type} (answer : α → Answer) : Option α → Answer
  | none => .nothing
  | some value => answer value

/-- The answer to a query whose columns are counted in characters.  The encoding is that of the
tokens. -/
def answerInChars (encoding : Encoding) (uri : Uri) (text : String) (query : Query) : Answer :=
  let document := lines text
  match query with
  | .completion position => .completions (completions uri document position)
  | .hover position => orNothing .hover (Hover.at? document position)
  | .definition position => orNothing .location (definition? uri document position)
  | .references position => .locations (KotlinAssist.references uri document position)
  | .outline => .outline (DocumentSymbol.outline document)
  | .codeAction range diagnostics => .actions (CodeAction.all uri document range diagnostics)
  | .format => orNothing (fun edit => .edits [edit]) (formatEdit? text)
  | .prepareRename position => orNothing .renameTarget (RenameTarget.at? document position)
  | .rename position newName => orNothing .workspaceEdit (rename? uri document position newName)
  | .folding => .folds (FoldingRange.all document)
  | .tokens => .tokens (Token.full encoding document)
  | .tokensIn range => .tokens (Token.inRange encoding document range)

/-- The answer to a query of a client about a text. -/
def answer (encoding : Encoding) (uri : Uri) (text : String) (query : Query) : Answer :=
  let document := lines text
  let query := query.map (encoding.toChars document) (encoding.rangeToChars document)
  (query.answerInChars encoding uri text).mapRange (encoding.rangeFromChars document)

/-- What is told to a client that follows the work of the server, besides the answer. -/
def summary? (uri : Uri) : Query → Answer → Option String
  | .completion position, .completions items =>
    some s!"completion {uri}:{position.line}:{position.character} -> {items.length} items"
  | .references position, .locations found =>
    some s!"references {uri}:{position.line}:{position.character} -> {found.length}"
  | _, _ => none

end Query

end KotlinAssist
