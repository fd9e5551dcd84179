import KotlinAssist.Protocol.Schema.Client
import KotlinAssist.Protocol.Schema.Unoffered
import KotlinAssist.Protocol.Wire
import KotlinAssist.Server.Basic

/-!
# Messages

Each method that the server understands has a shape for its parameters and a reader that takes from
their plain form what has an effect.  Nothing is read when the parameters do not fit.  Methods that
the protocol knows and the server does not offer are listed apart.
-/

namespace KotlinAssist

/-! ### Parameters -/

namespace Params

/-- The document that parameters are about. -/
def document? (params : Json) : Option Uri :=
  params.require? (Json.require? Json.str? · "uri") "textDocument"

/-- The document and position that parameters are about. -/
def place? (params : Json) : Option (Uri × Position) := do
  return (← document? params, ← params.require? Position.ofJson? "position")

/-- The texts of a change. -/
def changes? (params : Json) : Option (List String) :=
  params.require? (Json.list? (Json.require? Json.str? · "text")) "contentChanges"

/-- What a client brings when it starts the server: its settings, and the units of columns that it
offers. -/
def start? (params : Json) : Option (Option Json × Option (List String)) := do
  let params ← Schema.start params
  let general := (params.field? "capabilities").bind (·.field? "general")
  return (params.field? "initializationOptions",
    general.bind (Json.require? (Json.list? Json.str?) · "positionEncodings"))

end Params

namespace Request

open Params

/-- Reads a query about a position. -/
def atPlace? (query : Position → Query) (params : Json) : Option Request := do
  let (uri, position) ← place? params
  return .query uri (query position)

/-- Reads a query about a whole document. -/
def aboutDocument? (query : Query) (params : Json) : Option Request := do
  return .query (← document? params) query

/-- Reads a request for code actions. -/
def codeAction? (params : Json) : Option Request := do
  let range ← params.require? Range.ofJson? "range"
  let diagnostics ←
    params.require? (Json.require? (Json.list? Diagnostic.ofJson?) · "diagnostics") "context"
  aboutDocument? (.codeAction range diagnostics) params

/-- Reads a request for renaming. -/
def rename? (params : Json) : Option Request := do
  let newName ← params.require? Json.str? "newName"
  atPlace? (.rename · newName) params

/-- Reads a request for the tokens of a range. -/
def tokensIn? (params : Json) : Option Request := do
  let range ← params.require? Range.ofJson? "range"
  aboutDocument? (.tokensIn range) params

/-- The requests that the server answers, by method: the shape of the parameters, and what is read
from their plain form. -/
def methods : List (String × Shape × (Json → Option Request)) :=
  [("textDocument/completion", Schema.completion, atPlace? .completion),
   ("completionItem/resolve", Schema.completionItem, fun params =>
     (CompletionItem.ofJson? params).map .resolveCompletion),
   ("textDocument/hover", Schema.placeAtOnce, atPlace? .hover),
   ("textDocument/definition", Schema.place, atPlace? .definition),
   ("textDocument/references", Schema.references, atPlace? .references),
   ("textDocument/documentSymbol", Schema.wholeDocument, aboutDocument? .outline),
   ("workspace/symbol", Schema.symbols, fun params =>
     (params.require? Json.str? "query").map .symbols),
   ("textDocument/codeAction", Schema.codeAction, codeAction?),
   ("textDocument/formatting", Schema.formatting, aboutDocument? .format),
   ("textDocument/prepareRename", Schema.prepareRename, atPlace? .prepareRename),
   ("textDocument/rename", Schema.rename, rename?),
   ("textDocument/foldingRange", Schema.wholeDocument, aboutDocument? .folding),
   ("textDocument/semanticTokens/full", Schema.wholeDocument, aboutDocument? .tokens),
   ("textDocument/semanticTokens/range", Schema.tokensIn, tokensIn?),
   ("textDocument/willSaveWaitUntil", Schema.willSave, fun params =>
     (document? params).map .willSave),
   ("workspace/executeCommand", Schema.runCommand, fun params =>
     (params.require? Json.str? "command").map .command)]

/-- The reader of the parameters of a method that the server answers. -/
def reader? (method : String) : Option (Json → Option Request) :=
  (methods.lookup method).map fun (shape, read) params => (shape params).bind read

end Request

namespace Notification

open Params

/-- Reads an opened document. -/
def opened? (params : Json) : Option Notification := do
  let document ← params.field? "textDocument"
  return .opened
    { uri := ← document.require? Json.str? "uri"
      text := ← document.require? Json.str? "text"
      version := ← document.require? Json.int32? "version"
      language := ← document.require? Json.str? "languageId" }

/-- Reads a change of a document. -/
def changed? (params : Json) : Option Notification := do
  let document ← params.field? "textDocument"
  let version ← document.require? Json.int32? "version"
  return .changed (← document.require? Json.str? "uri") version (← changes? params)

/-- Reads a saved document. -/
def saved? (params : Json) : Option Notification := do
  return .saved (← document? params) (← params.maybe? Json.str? "text")

/-- The notifications that the server follows, by method: the shape of the parameters, and what is
read from their plain form. -/
def methods : List (String × Shape × (Json → Option Notification)) :=
  [("initialized", Schema.empty, fun _ => some .ready),
   ("textDocument/didOpen", Schema.opened, opened?),
   ("textDocument/didChange", Schema.changed, changed?),
   ("textDocument/willSave", Schema.willSave, fun params => (document? params).map .willSave),
   ("textDocument/didSave", Schema.saved, saved?),
   ("textDocument/didClose", Schema.closed, fun params => (document? params).map .closed)]

/-- The reader of the parameters of a method that the server follows. -/
def reader? (method : String) : Option (Json → Option Notification) :=
  (methods.lookup method).map fun (shape, read) params => (shape params).bind read

/-- Notifications that the protocol knows and the server does not follow. -/
def unfollowed : List String :=
  ["workspace/didChangeConfiguration", "workspace/didChangeWorkspaceFolders",
   "workspace/didCreateFiles", "workspace/didRenameFiles", "workspace/didDeleteFiles",
   "workspace/didChangeWatchedFiles"]

/-- Whether the protocol knows a notification. -/
def isKnown (method : String) : Bool :=
  (methods.map (·.1)).contains method || unfollowed.contains method

end Notification

/-! ### Answers -/

namespace Answer

/-- Writes an answer. -/
def toJson : Answer → Json
  | .nothing => .null
  | .completions items => .ofList CompletionItem.toJson items
  | .completion item => item.toJson
  | .hover shown => shown.toJson
  | .location place => place.toJson
  | .locations places => .ofList Location.toJson places
  | .outline entries => .ofList DocumentSymbol.toJson entries
  | .symbols found => .ofList SymbolInformation.toJson found
  | .actions offered => .ofList CodeAction.toJson offered
  | .edits made => .ofList TextEdit.toJson made
  | .renameTarget target => target.toJson
  | .workspaceEdit edit => edit.toJson
  | .folds ranges => .ofList FoldingRange.toJson ranges
  | .tokens found => DeltaToken.listToJson found

end Answer

namespace Outgoing

/-- The method of a message that the server sends. -/
def method : Outgoing → String
  | .diagnostics .. => "textDocument/publishDiagnostics"
  | .log _ => "window/logMessage"
  | .alert _ => "window/showMessage"

/-- The parameters of a message that the server sends. -/
def params : Outgoing → Json
  | .diagnostics uri version found =>
    .ofFields
      [("uri", some (.str uri)),
       ("diagnostics", some (.ofList Diagnostic.toJson found)),
       ("version", version.map .int)]
  | .log message => .obj [("type", .nat 4), ("message", .str message)]
  | .alert message => .obj [("type", .nat 1), ("message", .str message)]

end Outgoing

end KotlinAssist
