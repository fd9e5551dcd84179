import KotlinAssist.Protocol.Message

/-!
# Sessions

A session runs from the first message of a client to the last.  The client starts the server once,
works with it, shuts it down and leaves.  A request at the wrong time, by an unknown name or with
parameters that do not fit is refused; a notification of that kind is passed over.

## Main definitions

* `Phase` — how far a session has come
* `Refusal` — why a request is refused
* `Session.request` — what a request does
* `Session.notify` — what a notification does
-/

namespace KotlinAssist

/-- How far a session has come. -/
inductive Phase where
  /-- The server has not been started. -/
  | fresh
  /-- The client works with the server. -/
  | running
  /-- The server has been shut down. -/
  | shutDown
  /-- The client has left. -/
  | exited
  deriving DecidableEq

/-- Why a request is refused. -/
inductive Refusal where
  | notStarted
  | invalidRequest
  | methodNotFound
  | invalidParams
  deriving DecidableEq

namespace Refusal

/-- The number of a refusal on the wire. -/
def code : Refusal → Int
  | .notStarted => -32002
  | .invalidRequest => -32600
  | .methodNotFound => -32601
  | .invalidParams => -32602

/-- The message of a refusal. -/
def message : Refusal → String
  | .notStarted => "Server not initialized"
  | .invalidRequest => "Invalid request"
  | .methodNotFound => "Method not found"
  | .invalidParams => "Invalid params"

end Refusal

/-- What a client gets for a message. -/
inductive Reply where
  | result (value : Json)
  | refused (refusal : Refusal)
  /-- Nothing comes back. -/
  | silence
  /-- The client has left before. -/
  | gone

/-- A server and how far the session with it has come. -/
structure Session where
  server : Server := {}
  phase : Phase := .fresh

namespace Session

/-- A session with a server of given limits. -/
def withLimits (maxDocuments maxBytes : Nat) : Session :=
  { server := { store := { maxDocuments := maxDocuments, maxBytes := maxBytes } } }

/-- Why a request that needs a running server is refused. -/
def refusal? (session : Session) : Option Refusal :=
  match session.phase with
  | .running => none
  | .fresh => some .notStarted
  | .shutDown | .exited => some .invalidRequest

/-- Starts the server. -/
def startServer (session : Session) (params : Option Json) : Session × Reply :=
  match session.phase with
  | .fresh =>
    match params.bind Params.start? with
    | some (options, encodings) =>
      let server := session.server.start options encodings
      ({ server := server, phase := .running }, .result server.welcome)
    | none => (session, .refused .invalidParams)
  | _ => (session, .refused .invalidRequest)

/-- Shuts the server down. -/
def shutDown (session : Session) (params : Option Json) : Session × Reply :=
  match session.refusal? with
  | some refusal => (session, .refused refusal)
  | none =>
    ({ session with phase := .shutDown },
     if params.isNone then .result .null else .refused .invalidParams)

/-- Answers a request that has been read by `read`. -/
def answer (session : Session) (read : Json → Option Request) (params : Option Json) :
    Session × Reply × List Outgoing :=
  match session.refusal?, params.bind read with
  | some refusal, _ => (session, .refused refusal, [])
  | none, none => (session, .refused .invalidParams, [])
  | none, some request =>
    let (server, answer, sent) := session.server.request request
    ({ session with server := server }, .result answer.toJson, sent)

/-- The notification by which a client gives up a request.  Requests are answered at once, so it has
no effect. -/
def cancellation : String :=
  "$/cancelRequest"

/-- Whether a method belongs to the layer below, whose unknown messages are passed over. -/
def isOptional (method : String) : Bool :=
  "$/".toList.isPrefixOf method.toList

/-- What a client gets for a request by a method that is not answered. -/
def refuse (session : Session) (method : String) (params : Option Json) : Reply :=
  match Schema.unoffered.lookup method with
  | some shape =>
    .refused (session.refusal?.getD
      (if (params.bind shape).isSome then .methodNotFound else .invalidParams))
  | none =>
    if method = cancellation then .refused .invalidRequest
    else if Notification.isKnown method then .refused (session.refusal?.getD .invalidRequest)
    else if isOptional method then .silence
    else .refused .methodNotFound

/-- What a request does. -/
def request (session : Session) (method : String) (params : Option Json) :
    Session × Reply × List Outgoing :=
  if session.phase = .exited then (session, .gone, [])
  else if method = "initialize" then
    let (session, reply) := session.startServer params
    (session, reply, [])
  else if method = "shutdown" then
    let (session, reply) := session.shutDown params
    (session, reply, [])
  else if method = "exit" then ({ session with phase := .exited }, .silence, [])
  else
    match Request.reader? method with
    | some read => session.answer read params
    | none => (session, session.refuse method params, [])

/-- What a notification does. -/
def notify (session : Session) (method : String) (params : Option Json) :
    Session × Reply × List Outgoing :=
  if session.phase = .exited then (session, .gone, [])
  else if method = "exit" then ({ session with phase := .exited }, .silence, [])
  else if session.phase ≠ .running then (session, .silence, [])
  else if method = "shutdown" then ({ session with phase := .shutDown }, .silence, [])
  else
    match (Notification.reader? method).bind fun read => params.bind read with
    | none => (session, .silence, [])
    | some notification =>
      let (server, sent) := session.server.notify notification
      ({ session with server := server }, .silence, sent)

/-- The session with another number of documents allowed. -/
def setMaxDocuments (session : Session) (limit : Nat) : Session :=
  { session with
    server := { session.server with store := session.server.store.setMaxDocuments limit } }

/-- The session with another number of bytes allowed. -/
def setMaxBytes (session : Session) (limit : Nat) : Session :=
  { session with
    server := { session.server with store := session.server.store.setMaxBytes limit } }

end Session

end KotlinAssist
