import KotlinAssist.Proofs.Run
import KotlinAssist.Proofs.Server.Effects
import KotlinAssist.Server.Session

/-!
# Runs of a session

A client sends one message after the other.  Messages that can be read as something about documents
reach the server and leave the phase of the session alone, so that a run of such messages is a run
of the server.

## Main definitions

* `Message` — a message of a client
* `Event` — what a message about documents says once it is read
* `Session.handle`, `Session.after` — what one message and a list of messages do
* `Session.steps` — the messages of a run, each with the session that it meets
* `Session.started` — the session after its first message

## Main statements

* `Session.handle_cases` — what any message can do to a session that has begun
* `Session.begun_handle`, `Session.config_handle` — what no message can do to it
-/

namespace KotlinAssist

/-- A message of a client: its method, and the parameters that came along. -/
inductive Message where
  | notify (method : String) (params : Option Json)
  | request (method : String) (params : Option Json)

/-- What a message about documents says. -/
inductive Event where
  /-- The client tells the server something. -/
  | told (notification : Notification)
  /-- The client asks about the text of a document. -/
  | asked (uri : Uri) (query : Query)

/-- The document that a notification is about. -/
def Notification.uri? : Notification → Option Uri
  | .ready => none
  | .opened document => some document.uri
  | .changed uri _ _ | .willSave uri | .saved uri _ | .closed uri => some uri

/-- The document that an event is about. -/
def Event.uri? : Event → Option Uri
  | .told notification => notification.uri?
  | .asked uri _ => some uri

/-- Reads a message about documents; nothing when it is of another kind or its parameters do not
fit. -/
def Message.event? : Message → Option Event
  | .notify method params =>
    ((Notification.reader? method).bind fun read => params.bind read).map .told
  | .request method params =>
    match (Request.reader? method).bind fun read => params.bind read with
    | some (.query uri query) => some (.asked uri query)
    | _ => none

/-- Reads a request that the server answers. -/
def Message.request? : Message → Option Request
  | .notify _ _ => none
  | .request method params => (Request.reader? method).bind fun read => params.bind read

namespace Session

/-- What a message does: the session after it, the reply, and what is sent besides. -/
def handle (session : Session) : Message → Session × Reply × List Outgoing
  | .notify method params => session.notify method params
  | .request method params => session.request method params

/-- The session after a list of messages. -/
def after (session : Session) (messages : List Message) : Session :=
  messages.foldl (fun session message => (session.handle message).1) session

@[simp] theorem after_nil (session : Session) : session.after [] = session := rfl

@[simp] theorem after_concat (session : Session) (messages : List Message) (message : Message) :
    session.after (messages ++ [message]) = ((session.after messages).handle message).1 := by
  simp [after]

/-- The messages of a run, each with the session that it meets. -/
def steps (session : Session) (messages : List Message) : List (Session × Message) :=
  visits (fun session message => (session.handle message).1) session messages

/-- The session of a server with given limits after its first message. -/
def started (maxDocuments maxBytes : Nat) (hello : Json) : Session :=
  ((withLimits maxDocuments maxBytes).request "initialize" (some hello)).1

/-- The settings and the unit of columns come from the first message, and no document is open. -/
theorem started_eq (maxDocuments maxBytes : Nat) {hello : Json} {options : Option Json}
    {encodings : Option (List String)} (read : Params.start? hello = some (options, encodings)) :
    started maxDocuments maxBytes hello =
      { server := (withLimits maxDocuments maxBytes).server.start options encodings
        phase := .running } := by
  simp [started, request, startServer, withLimits, read]

/-! ## Messages of a running session -/

/-- A notification that can be read reaches the server. -/
theorem handle_told {session : Session} {message : Message} {notification : Notification}
    (running : session.phase = .running) (read : message.event? = some (.told notification)) :
    session.handle message =
      ({ session with server := (session.server.notify notification).1 }, .silence,
        (session.server.notify notification).2) := by
  cases message with
  | request method params =>
    simp only [Message.event?] at read
    split at read <;> cases read
  | notify method params =>
    simp only [Message.event?, Option.map_eq_some_iff, Event.told.injEq,
      exists_eq_right] at read
    -- the methods that end a session have no reader
    have noExit : method ≠ "exit" := by
      rintro rfl
      cases read
    have noShutdown : method ≠ "shutdown" := by
      rintro rfl
      cases read
    simp [handle, notify, running, noExit, noShutdown, read]

/-- A question that can be read is answered by the server. -/
theorem handle_asked {session : Session} {message : Message} {uri : Uri} {query : Query}
    (running : session.phase = .running) (read : message.event? = some (.asked uri query)) :
    session.handle message =
      ({ session with server := (session.server.ask uri query).1 },
        .result (session.server.ask uri query).2.1.toJson,
        (session.server.ask uri query).2.2) := by
  cases message with
  | notify method params =>
    obtain ⟨notification, -, same⟩ := Option.map_eq_some_iff.mp read
    cases same
  | request method params =>
    simp only [Message.event?] at read
    split at read
    · next asked readBy =>
      cases read
      obtain ⟨reader, known, fits⟩ := Option.bind_eq_some_iff.mp readBy
      -- the methods of the life cycle have no reader
      have noInitialize : method ≠ "initialize" := by
        rintro rfl
        cases known
      have noShutdown : method ≠ "shutdown" := by
        rintro rfl
        cases known
      have noExit : method ≠ "exit" := by
        rintro rfl
        cases known
      simp [handle, request, running, noInitialize, noShutdown, noExit, known, answer, refusal?,
        fits, Server.request]
    · cases read

/-- Messages about documents do not end a session. -/
theorem running_handle {session : Session} {message : Message} {event : Event}
    (running : session.phase = .running) (read : message.event? = some event) :
    (session.handle message).1.phase = .running := by
  cases event with
  | told notification => rw [handle_told running read]; exact running
  | asked uri query => rw [handle_asked running read]; exact running

/-- A message that a session has no use for leaves the server alone: it is of no known kind, does not
fit, or comes at the wrong time. -/
structure Passes (session : Session) (message : Message) : Prop where
  server : (session.handle message).1.server = session.server
  sent : (session.handle message).2.2 = []
  begun : (session.handle message).1.phase ≠ .fresh
  running : (session.handle message).1.phase = .running → session.phase = .running
  unread : session.phase = .running → message.event? = none

theorem event?_of_request?_eq_none {method : String} {params : Option Json}
    (unread : (Message.request method params).request? = none) :
    (Message.request method params).event? = none := by
  simp only [Message.request?] at unread
  simp only [Message.event?, unread]

/-- A session that stays as it was has no use for a message that cannot be read while it runs. -/
theorem Passes.of_same {session : Session} (begun : session.phase ≠ .fresh) {message : Message}
    {reply : Reply} (handled : session.handle message = (session, reply, []))
    (unread : session.phase = .running → message.event? = none) : session.Passes message where
  server := by rw [handled]
  sent := by rw [handled]
  begun := by rw [handled]; exact begun
  running := by rw [handled]; exact id
  unread := unread

/-- So does a session that ends. -/
theorem Passes.of_end {session : Session} {message : Message} {reply : Reply} {phase : Phase}
    (handled : session.handle message = ({ session with phase := phase }, reply, []))
    (ends : phase = .shutDown ∨ phase = .exited) (unread : message.event? = none) :
    session.Passes message where
  server := by rw [handled]
  sent := by rw [handled]
  begun := by rw [handled]; rcases ends with rfl | rfl <;> exact fun same => nomatch same
  running := by rw [handled]; rcases ends with rfl | rfl <;> exact fun same => nomatch same
  unread := fun _ => unread

/-- A notification passes, or the server runs and can read it. -/
theorem passes_or_told {session : Session} (begun : session.phase ≠ .fresh) (method : String)
    (params : Option Json) :
    session.Passes (.notify method params) ∨ session.phase = .running ∧
      ∃ notification, (Message.notify method params).event? = some (.told notification) := by
  by_cases gone : session.phase = .exited
  · have handled : session.handle (.notify method params) = (session, .gone, []) := by
      simp [handle, notify, gone]
    exact .inl (.of_same begun handled (by simp [gone]))
  by_cases exits : method = "exit"
  · subst exits
    have handled : session.handle (.notify "exit" params) =
        ({ session with phase := .exited }, .silence, []) := by
      simp [handle, notify, gone]
    exact .inl (.of_end handled (.inr rfl) rfl)
  by_cases running : session.phase = .running
  · by_cases shuts : method = "shutdown"
    · subst shuts
      have handled : session.handle (.notify "shutdown" params) =
          ({ session with phase := .shutDown }, .silence, []) := by
        simp [handle, notify, running]
      exact .inl (.of_end handled (.inl rfl) rfl)
    · cases read : (Notification.reader? method).bind fun read => params.bind read with
      | none =>
        have handled : session.handle (.notify method params) = (session, .silence, []) := by
          simp [handle, notify, running, exits, shuts, read]
        exact .inl (.of_same begun handled fun _ => by simp [Message.event?, read])
      | some notification =>
        exact .inr ⟨running, notification, by simp [Message.event?, read]⟩
  · have handled : session.handle (.notify method params) = (session, .silence, []) := by
      simp [handle, notify, gone, exits, running]
    exact .inl (.of_same begun handled fun now => absurd now running)

theorem refusal?_eq_none_iff (session : Session) :
    session.refusal? = none ↔ session.phase = .running := by
  unfold refusal?
  cases session.phase <;> simp

/-- A request passes, or the server runs and answers it. -/
theorem passes_or_answered {session : Session} (begun : session.phase ≠ .fresh) (method : String)
    (params : Option Json) :
    session.Passes (.request method params) ∨ session.phase = .running ∧
      ∃ request, (Message.request method params).request? = some request ∧
        session.handle (.request method params) =
          ({ session with server := (session.server.request request).1 },
            .result (session.server.request request).2.1.toJson,
            (session.server.request request).2.2) := by
  by_cases gone : session.phase = .exited
  · have handled : session.handle (.request method params) = (session, .gone, []) := by
      simp [handle, request, gone]
    exact .inl (.of_same begun handled (by simp [gone]))
  by_cases initializes : method = "initialize"
  · subst initializes
    have handled : session.handle (.request "initialize" params) =
        (session, .refused .invalidRequest, []) := by
      simp only [handle, request, if_neg gone, if_true, startServer]
    exact .inl (.of_same begun handled fun _ => rfl)
  by_cases shuts : method = "shutdown"
  · subst shuts
    cases refused : session.refusal? with
    | some refusal =>
      have handled : session.handle (.request "shutdown" params) =
          (session, .refused refusal, []) := by
        simp [handle, request, gone, shutDown, refused]
      exact .inl (.of_same begun handled fun _ => rfl)
    | none =>
      have handled : session.handle (.request "shutdown" params) =
          ({ session with phase := .shutDown },
            if params.isNone then .result .null else .refused .invalidParams, []) := by
        simp [handle, request, gone, shutDown, refused]
      exact .inl (.of_end handled (.inl rfl) rfl)
  by_cases exits : method = "exit"
  · subst exits
    have handled : session.handle (.request "exit" params) =
        ({ session with phase := .exited }, .silence, []) := by
      simp [handle, request, gone]
    exact .inl (.of_end handled (.inr rfl) rfl)
  cases known : Request.reader? method with
  | none =>
    have handled : session.handle (.request method params) =
        (session, session.refuse method params, []) := by
      simp [handle, request, gone, initializes, shuts, exits, known]
    refine .inl (.of_same begun handled fun _ => event?_of_request?_eq_none ?_)
    simp [Message.request?, known]
  | some read =>
    have handled : session.handle (.request method params) = session.answer read params := by
      simp [handle, request, gone, initializes, shuts, exits, known]
    cases refused : session.refusal? with
    | some refusal =>
      have notRunning : session.phase ≠ .running := by
        rw [Ne, ← refusal?_eq_none_iff, refused]
        exact fun same => nomatch same
      rw [answer, refused] at handled
      exact .inl (.of_same begun handled fun now => absurd now notRunning)
    | none =>
      cases fits : params.bind read with
      | none =>
        rw [answer, refused, fits] at handled
        refine .inl (.of_same begun handled fun _ => event?_of_request?_eq_none ?_)
        simp [Message.request?, known, fits]
      | some asked =>
        rw [answer, refused, fits] at handled
        refine .inr ⟨(refusal?_eq_none_iff session).mp refused, asked, ?_, handled⟩
        simp [Message.request?, known, fits]

/-- **What any message can do to a session that has begun**: it is read as a notification or a
request, and the server deals with it, or it passes. -/
theorem handle_cases {session : Session} (begun : session.phase ≠ .fresh) (message : Message) :
    (session.phase = .running ∧ ∃ notification, message.event? = some (.told notification) ∧
      session.handle message =
        ({ session with server := (session.server.notify notification).1 }, .silence,
          (session.server.notify notification).2)) ∨
    (session.phase = .running ∧ ∃ request, message.request? = some request ∧
      session.handle message =
        ({ session with server := (session.server.request request).1 },
          .result (session.server.request request).2.1.toJson,
          (session.server.request request).2.2)) ∨
    session.Passes message := by
  cases message with
  | notify method params =>
    rcases passes_or_told begun method params with passes | ⟨running, notification, read⟩
    · exact .inr (.inr passes)
    · exact .inl ⟨running, notification, read, handle_told running read⟩
  | request method params =>
    rcases passes_or_answered begun method params with passes | answered
    · exact .inr (.inr passes)
    · exact .inr (.inl answered)

/-- A session does not begin a second time, -/
theorem begun_handle {session : Session} (begun : session.phase ≠ .fresh) (message : Message) :
    (session.handle message).1.phase ≠ .fresh := by
  obtain ⟨-, notification, -, told⟩ | ⟨-, request, -, answered⟩ | passes :=
    handle_cases begun message
  · rw [told]
    exact begun
  · rw [answered]
    exact begun
  · exact passes.begun

/-- and keeps its settings. -/
theorem config_handle {session : Session} (begun : session.phase ≠ .fresh) (message : Message) :
    (session.handle message).1.server.config = session.server.config := by
  obtain ⟨-, notification, -, told⟩ | ⟨-, request, -, answered⟩ | passes :=
    handle_cases begun message
  · rw [told]
    exact session.server.config_notify notification
  · rw [answered]
    exact session.server.config_request request
  · rw [passes.server]

end Session

end KotlinAssist
