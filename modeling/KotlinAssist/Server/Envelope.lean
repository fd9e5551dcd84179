import KotlinAssist.Json.Printer
import KotlinAssist.Json.Reader
import KotlinAssist.Server.Session

/-!
# Envelopes of messages

A message that names a method is a request when it carries an identifier, and a notification when it
does not.  The answer to a request carries the same identifier.  Messages without a method answer
requests of the server, which sends none, and are passed over.
-/

namespace KotlinAssist

namespace Envelope

/-- The mark of the protocol that every message carries. -/
def version : String × Json :=
  ("jsonrpc", .str "2.0")

/-- The message that carries a result. -/
def ofResult (id result : Json) : Json :=
  .obj [version, ("id", id), ("result", result)]

/-- The message that carries an error. -/
def ofError (id : Json) (code : Int) (message : String) : Json :=
  .obj [version, ("id", id), ("error", .obj [("code", .int code), ("message", .str message)])]

/-- The answer to a text that is no message. -/
def parseError : Json :=
  ofError .null (-32700) "Parse error"

/-- The answer to a request; a client that has left gets none. -/
def ofReply? (id : Json) : Reply → Option Json
  | .result value => some (ofResult id value)
  | .refused refusal => some (ofError id refusal.code refusal.message)
  | .silence | .gone => none

/-- The message that the server sends on its own. -/
def ofOutgoing (outgoing : Outgoing) : Json :=
  .obj [version, ("method", .str outgoing.method), ("params", outgoing.params)]

end Envelope

namespace Session

/-- What a message does, and the messages sent for it: first those that the server sends on its own,
then the answer. -/
def receive (session : Session) (message : Json) : Session × List Json :=
  match message.require? Json.str? "method", message.field? "id" with
  | none, _ => (session, [])
  | some method, some id =>
    let (session, reply, sent) := session.request method (message.field? "params")
    (session, sent.map Envelope.ofOutgoing ++ (Envelope.ofReply? id reply).toList)
  | some method, none =>
    let (session, _, sent) := session.notify method (message.field? "params")
    (session, sent.map Envelope.ofOutgoing)

/-- What the text of a message does, and the texts of the messages sent for it. -/
def receiveText (session : Session) (text : String) : Session × List String :=
  match Json.ofText? text with
  | none => (session, [Envelope.parseError.toText])
  | some message =>
    let (session, sent) := session.receive message
    (session, sent.map Json.toText)

end Session

end KotlinAssist
