import KotlinAssist.Config
import KotlinAssist.Protocol.Capabilities
import KotlinAssist.Server.Query
import KotlinAssist.Store

/-!
# The server

The state of a server is its documents, its settings and the unit of its client's columns.  A
notification changes the documents and may send diagnostics; a request is answered from the document
it is about.  Nothing computed from a text is kept.

A server that is switched off stores no text that is opened or changed, sends no diagnostics and
answers every query with nothing.

## Main definitions

* `Server` — the state
* `Server.start` — takes over the settings of a client
* `Server.notify` — what a notification does
* `Server.request` — the answer to a request
-/

namespace KotlinAssist

open Text

/-- What a client tells the server. -/
inductive Notification where
  /-- The client is ready. -/
  | ready
  | opened (document : Document)
  /-- A document has changed; of the texts sent, the last counts. -/
  | changed (uri : Uri) (version : Int) (texts : List String)
  | willSave (uri : Uri)
  /-- A document was saved, and perhaps its text sent along. -/
  | saved (uri : Uri) (text : Option String)
  | closed (uri : Uri)

/-- What a client asks the server. -/
inductive Request where
  | query (uri : Uri) (query : Query)
  | resolveCompletion (item : CompletionItem)
  | symbols (query : String)
  | willSave (uri : Uri)
  | command (name : String)

/-- What the server sends to its client on its own. -/
inductive Outgoing where
  | diagnostics (uri : Uri) (version : Option Int) (diagnostics : List Diagnostic)
  | log (message : String)
  | alert (message : String)

/-- The state of a server. -/
structure Server where
  store : Store := {}
  config : Config := {}
  encoding : Encoding := .utf16
  /-- Symbols of the whole workspace.  Nothing registers any yet. -/
  registry : SymbolRegistry := {}

namespace Server

/-- The server with the settings and the unit of columns that a client brings.  Settings that cannot
be read are replaced by the defaults. -/
def start (server : Server) (options : Option Json) (encodings : Option (List String)) : Server :=
  { server with
    config := (Config.ofOptions options).toOption.getD {}
    encoding := Encoding.negotiate encodings }

/-- What a server answers when it is started. -/
def welcome (server : Server) : Json :=
  .obj
    [("capabilities", Capabilities.toJson server.config server.encoding),
     ("serverInfo", .obj [("name", .str serverName), ("version", .str serverVersion)])]

/-- The text of a document that is open, if the server is switched on. -/
def read (server : Server) (uri : Uri) : Server × Option String :=
  if server.config.enabled then
    let (store, document) := server.store.snapshot uri
    ({ server with store := store }, document.map (·.text))
  else (server, none)

/-- A line for a client that follows the work of the server. -/
def trace (server : Server) (message : String) : List Outgoing :=
  if server.config.trace.isEnabled then [.log message] else []

/-! ### Notifications -/

/-- The diagnostics of a text with the ranges of the client. -/
def clientDiagnostics (encoding : Encoding) (text : String) : List Diagnostic :=
  (diagnostics (lines text)).map (·.mapRange (encoding.rangeFromChars (lines text)))

/-- Sends the diagnostics of a document that is open. -/
def publish (server : Server) (uri : Uri) : Server × List Outgoing :=
  if server.config.enabled then
    let (store, document) := server.store.snapshot uri
    let sent := document.map fun document =>
      Outgoing.diagnostics uri (some document.version)
        (clientDiagnostics server.encoding document.text)
    ({ server with store := store }, sent.toList)
  else (server, [])

/-- Tells the client that a document is too large. -/
def report (error : TooLarge) : Outgoing :=
  .alert (s!"Document too large: {error.size} bytes exceeds maximum of {error.max} bytes " ++
    s!"({error.max / (1024 * 1024)} MB)")

/-- Stores a text and sends the diagnostics of its document, or reports that it is too large. -/
def accept (server : Server) (uri : Uri) : Except TooLarge Store → Server × List Outgoing
  | .ok store => { server with store := store }.publish uri
  | .error error => (server, [report error])

/-- What a notification does. -/
def notify (server : Server) : Notification → Server × List Outgoing
  | .ready => (server, server.trace s!"{serverName} {serverVersion} ready")
  | .opened document =>
    if server.config.enabled then
      server.accept document.uri
        (server.store.openDocument document.uri document.text document.version document.language)
    else (server, [])
  | .changed uri version texts =>
    match texts.getLast? with
    | none => (server, [])
    | some text =>
      if server.config.enabled then
        server.accept uri ((server.store.update uri text (some version)).map (·.1))
      else (server, [])
  | .willSave _ => (server, [])
  | .saved uri none => server.publish uri
  | .saved uri (some text) => server.accept uri ((server.store.update uri text none).map (·.1))
  | .closed uri =>
    ({ server with store := server.store.remove uri },
     if server.config.enabled then [.diagnostics uri none []] else [])

/-! ### Requests -/

/-- Answers a query about a document; nothing when it is not open. -/
def ask (server : Server) (uri : Uri) (query : Query) : Server × Answer × List Outgoing :=
  match server.read uri with
  | (server, none) => (server, .nothing, [])
  | (server, some text) =>
    let answer := query.answer server.encoding uri text
    (server, answer, (query.summary? uri answer).toList.flatMap server.trace)

/-- Completes an item with its documentation, from the document it comes from. -/
def resolve (server : Server) (item : CompletionItem) : Server × CompletionItem :=
  match item.data? with
  | none => (server, item.resolve none)
  | some data =>
    let (server, text) := server.read data.uri
    (server, item.resolve (text.map lines))

/-- Answers a request. -/
def request (server : Server) : Request → Server × Answer × List Outgoing
  | .query uri query => server.ask uri query
  | .resolveCompletion item =>
    let (server, item) := server.resolve item
    (server, .completion item, [])
  | .symbols query =>
    (server,
     if server.config.enabled then .symbols (server.registry.search query) else .nothing, [])
  | .willSave _ => (server, .nothing, [])
  | .command _ => (server, .nothing, [])

end Server

end KotlinAssist
