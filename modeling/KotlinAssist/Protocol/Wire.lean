import KotlinAssist.CodeAction
import KotlinAssist.Completion
import KotlinAssist.Config
import KotlinAssist.Fold
import KotlinAssist.Highlight.Token
import KotlinAssist.Protocol.Schema.Value
import KotlinAssist.Rename
import KotlinAssist.Store
import KotlinAssist.Symbol

/-!
# Values on the wire

How each value of the library is written in a message, and how the values that a client sends are
read.  A field that has no value is left out.
-/

namespace KotlinAssist

namespace Position

/-- Writes a position. -/
def toJson (position : Position) : Json :=
  .obj [("line", .nat position.line), ("character", .nat position.character)]

/-- Reads a position. -/
def ofJson? (json : Json) : Option Position := do
  let json ← Schema.position json
  return ⟨← json.require? Json.nat32? "line", ← json.require? Json.nat32? "character"⟩

end Position

namespace Range

/-- Writes a range. -/
def toJson (range : Range) : Json :=
  .obj [("start", range.start.toJson), ("end", range.stop.toJson)]

/-- Reads a range. -/
def ofJson? (json : Json) : Option Range := do
  let json ← Schema.range json
  return ⟨← json.require? Position.ofJson? "start", ← json.require? Position.ofJson? "end"⟩

end Range

namespace Location

/-- Writes a location. -/
def toJson (location : Location) : Json :=
  .obj [("uri", .str location.uri), ("range", location.range.toJson)]

end Location

namespace TextEdit

/-- Writes an edit. -/
def toJson (edit : TextEdit) : Json :=
  .obj [("range", edit.range.toJson), ("newText", .str edit.newText)]

end TextEdit

namespace WorkspaceEdit

/-- Writes the edits of several documents. -/
def toJson (edit : WorkspaceEdit) : Json :=
  if edit.changes.isEmpty then .obj []
  else
    .obj [("changes", .obj (edit.changes.map fun (uri, edits) =>
      (uri, .ofList TextEdit.toJson edits)))]

end WorkspaceEdit

namespace DiagnosticCode

/-- Writes a code. -/
def toJson : DiagnosticCode → Json
  | .number value => .int value
  | .text value => .str value

/-- Reads a code. -/
def ofJson? : Json → Option DiagnosticCode
  | .str value => some (.text value)
  | json => json.int32?.map .number

end DiagnosticCode

namespace Diagnostic

/-- Writes a diagnostic. -/
def toJson (diagnostic : Diagnostic) : Json :=
  Json.ofFields
    [("range", some diagnostic.range.toJson),
     ("severity", diagnostic.severity.map fun severity => .int severity.code),
     ("code", diagnostic.code.map DiagnosticCode.toJson),
     ("source", diagnostic.source.map .str),
     ("message", some (.str diagnostic.message)),
     ("data", diagnostic.data)]
    |>.withFields diagnostic.carried

/-- The fields of a diagnostic that are handed back as they came. -/
def carriedNames : List String :=
  ["codeDescription", "relatedInformation", "tags"]

/-- Reads a diagnostic. -/
def ofJson? (json : Json) : Option Diagnostic := do
  let json ← Schema.diagnostic json
  return {
    range := ← json.require? Range.ofJson? "range"
    severity := (← json.maybe? Json.int32? "severity").map Severity.ofCode
    code := ← json.maybe? DiagnosticCode.ofJson? "code"
    source := ← json.maybe? Json.str? "source"
    message := ← json.require? Json.str? "message"
    data := ← json.maybe? some "data"
    carried := json.pick carriedNames }

end Diagnostic

namespace Markup

/-- Writes a documentation text. -/
def toJson : Markup → Json
  | .text value => .str value
  | .plain value => .obj [("kind", .str "plaintext"), ("value", .str value)]
  | .markdown value => .obj [("kind", .str "markdown"), ("value", .str value)]

/-- Reads a documentation text. -/
def ofJson? : Json → Option Markup
  | .str value => some (.text value)
  | json => do
    let kind ← json.require? Json.str? "kind"
    let value ← json.require? Json.str? "value"
    if kind = "markdown" then some (.markdown value)
    else if kind = "plaintext" then some (.plain value)
    else none

end Markup

namespace CompletionItem

/-- Writes a completion item. -/
def toJson (item : CompletionItem) : Json :=
  Json.ofFields
    [("label", some (.str item.label)),
     ("kind", item.kind.map .int),
     ("detail", item.detail.map .str),
     ("documentation", item.documentation.map Markup.toJson),
     ("sortText", item.sortText.map .str),
     ("insertText", item.insertText.map .str),
     ("insertTextFormat", item.insertTextFormat.map .int),
     ("data", item.data)]
    |>.withFields item.carried

/-- The fields of a completion item that are handed back as they came. -/
def carriedNames : List String :=
  ["labelDetails", "deprecated", "preselect", "filterText", "insertTextMode", "textEdit",
   "additionalTextEdits", "command", "commitCharacters", "tags"]

/-- Reads a completion item. -/
def ofJson? (json : Json) : Option CompletionItem := do
  let json ← Schema.completionItem json
  return {
    label := ← json.require? Json.str? "label"
    kind := ← json.maybe? Json.int32? "kind"
    detail := ← json.maybe? Json.str? "detail"
    documentation := ← json.maybe? Markup.ofJson? "documentation"
    sortText := ← json.maybe? Json.str? "sortText"
    insertText := ← json.maybe? Json.str? "insertText"
    insertTextFormat := ← json.maybe? Json.int32? "insertTextFormat"
    data := ← json.maybe? some "data"
    carried := json.pick carriedNames }

end CompletionItem

namespace Hover

/-- Writes a hover text. -/
def toJson (hover : Hover) : Json :=
  .obj [("contents", (Markup.markdown hover.value).toJson), ("range", hover.range.toJson)]

end Hover

namespace DocumentSymbol

/-- Writes an entry of an outline. -/
def toJson (symbol : DocumentSymbol) : Json :=
  .obj
    [("name", .str symbol.name),
     ("detail", .str symbol.detail),
     ("kind", .nat symbol.kind.symbolCode),
     ("range", symbol.range.toJson),
     ("selectionRange", symbol.selection.toJson)]

end DocumentSymbol

namespace SymbolInformation

/-- Writes a registered symbol. -/
def toJson (symbol : SymbolInformation) : Json :=
  .obj
    [("name", .str symbol.name),
     ("kind", .nat symbol.kind.symbolCode),
     ("location", symbol.location.toJson)]

end SymbolInformation

namespace RenameTarget

/-- Writes a word that can be renamed. -/
def toJson (target : RenameTarget) : Json :=
  .obj [("range", target.range.toJson), ("placeholder", .str target.placeholder)]

end RenameTarget

namespace FoldingRange

/-- Writes a folding region. -/
def toJson (range : FoldingRange) : Json :=
  .ofFields
    [("startLine", some (.nat range.span.first)),
     ("endLine", some (.nat range.span.last)),
     ("kind", range.kind.map fun kind => .str kind.label)]

end FoldingRange

namespace DeltaToken

/-- The five numbers of a token, in the order in which they are sent. -/
def numbers (token : DeltaToken) : List Nat :=
  [token.deltaLine, token.deltaStart, token.length, token.type, token.modifiers]

/-- Writes a list of tokens as one array of numbers. -/
def listToJson (tokens : List DeltaToken) : Json :=
  .obj [("data", .ofList Json.nat (tokens.flatMap numbers))]

end DeltaToken

namespace Command

/-- Writes a command. -/
def toJson (command : Command) : Json :=
  .obj
    [("title", .str command.title),
     ("command", .str command.command),
     ("arguments", .arr [.str command.uri])]

end Command

namespace CodeAction

/-- Writes a code action. -/
def toJson (action : CodeAction) : Json :=
  .ofFields
    [("title", some (.str action.title)),
     ("kind", some (.str action.kind.label)),
     ("diagnostics", action.diagnostics.map (.ofList Diagnostic.toJson)),
     ("edit", action.edit.map WorkspaceEdit.toJson),
     ("isPreferred", if action.isPreferred then some (.bool true) else none),
     ("command", action.command.map Command.toJson)]

end CodeAction

namespace Config

/-- Writes settings. -/
def toJson (config : Config) : Json :=
  .obj
    [("enabled", .bool config.enabled),
     ("languageServerPath", .ofOption .str config.languageServerPath),
     ("javaHome", .ofOption .str config.javaHome),
     ("trace", .str config.trace.label)]

end Config

namespace Document

/-- Writes a document. -/
def toJson (document : Document) : Json :=
  .obj
    [("uri", .str document.uri),
     ("text", .str document.text),
     ("version", .int document.version),
     ("language", .str document.language)]

end Document

namespace Store

/-- Writes what a store has counted. -/
def statistics (store : Store) : Json :=
  .obj
    [("hits", .nat store.hits),
     ("misses", .nat store.misses),
     ("evictions", .nat store.evictions),
     ("currentSize", .nat store.size),
     ("maxSize", .nat store.maxDocuments)]

end Store

end KotlinAssist
