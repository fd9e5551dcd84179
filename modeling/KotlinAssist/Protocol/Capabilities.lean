import KotlinAssist.CodeAction
import KotlinAssist.Config
import KotlinAssist.Highlight.Token

/-!
# What a server offers

The answer to the first message of a client says which requests the server understands.  A server
that is switched off offers nothing.
-/

namespace KotlinAssist

/-- The version of this server. -/
def serverVersion : String :=
  "0.1.0"

/-- The name of this server. -/
def serverName : String :=
  "kotlin-lsp"

namespace Capabilities

/-- The characters that ask for completion, besides those of identifiers. -/
def triggerCharacters : List String :=
  [".", ":"]

/-- The token types and modifiers, in the order of their numbers. -/
def legend : Json :=
  .obj
    [("tokenTypes", .ofList (fun type => .str type.label) TokenType.all),
     ("tokenModifiers", .ofList (fun modifier => .str modifier.label) TokenModifier.all)]

/-- Whole documents are sent, also when they are saved. -/
def documentSync : Json :=
  .obj
    [("openClose", .bool true),
     ("change", .nat 1),
     ("willSave", .bool true),
     ("willSaveWaitUntil", .bool true),
     ("save", .obj [("includeText", .bool true)])]

/-- Everything the server offers. -/
def enabled (encoding : Encoding) : Json :=
  .obj
    [("positionEncoding", .str encoding.label),
     ("textDocumentSync", documentSync),
     ("completionProvider", .obj
       [("resolveProvider", .bool true),
        ("triggerCharacters", .ofList .str triggerCharacters)]),
     ("hoverProvider", .bool true),
     ("definitionProvider", .bool true),
     ("referencesProvider", .bool true),
     ("documentSymbolProvider", .bool true),
     ("workspaceSymbolProvider", .bool true),
     ("codeActionProvider", .obj
       [("codeActionKinds", .ofList (fun kind => .str kind.label) CodeActionKind.all),
        ("resolveProvider", .bool false)]),
     ("documentFormattingProvider", .bool true),
     ("renameProvider", .obj [("prepareProvider", .bool true)]),
     ("foldingRangeProvider", .bool true),
     ("executeCommandProvider", .obj [("commands", .ofList .str Command.all)]),
     ("semanticTokensProvider", .obj
       [("legend", legend), ("range", .bool true), ("full", .bool true)])]

/-- What a server with the given settings offers. -/
def toJson (config : Config) (encoding : Encoding) : Json :=
  if config.enabled then enabled encoding else .obj []

end Capabilities

end KotlinAssist
