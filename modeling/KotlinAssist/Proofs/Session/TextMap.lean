import KotlinAssist.Proofs.Server.Conversion
import KotlinAssist.Proofs.Session.Run
import Mathlib.Data.List.Dedup
import Mathlib.Data.List.Induction
import Mathlib.Data.List.Perm.Subperm

/-!
# A server is a map from names to texts

As long as the documents of a session are no more than the store may hold, nothing that the store
keeps besides the texts can be seen by a client: the answers to all questions, and all that is sent
on its own, are those of a server that has only the text of every document, and that text is the
last one that was accepted since the document was closed.

## Main definitions

* `textAfter` — the text of a document after a history of events
* `Server.Reflects` — the relation between a server and the texts it has accepted
* `Notification.sends`, `Event.Served` — what a server that has only texts does

## Main statements

* `Server.Reflects.notify`, `Server.Reflects.ask` — one event keeps a server and its texts related,
  and does what the texts say
* `session_reflects_texts` — so does every event of a session
-/

namespace KotlinAssist

open Text

/-! ## The text of a document -/

/-- What an event decides about the text of a document: a text of at most `limit` bytes that is sent
for it becomes its text, and closing it leaves it without one.  No other event decides anything. -/
def Event.decides? (limit : Nat) (uri : Uri) : Event → Option (Option String)
  | .told (.closed closed) => if closed = uri then some none else none
  | .told notification =>
    match notification.sentText? with
    | some (sent, text) =>
      if sent = uri ∧ text.utf8ByteSize ≤ limit then some (some text) else none
    | none => none
  | .asked _ _ => none

/-- The text of a document after a history of events: what the latest event that decides about it
has left. -/
def textAfter (limit : Nat) (events : List Event) (uri : Uri) : Option String :=
  (events.reverse.findSome? (Event.decides? limit uri)).join

@[simp] theorem textAfter_nil (limit : Nat) (uri : Uri) : textAfter limit [] uri = none := rfl

/-- The last event decides, or else those before it. -/
theorem textAfter_concat (limit : Nat) (events : List Event) (event : Event) (uri : Uri) :
    textAfter limit (events ++ [event]) uri =
      (event.decides? limit uri).getD (textAfter limit events uri) := by
  rw [textAfter, List.reverse_append, List.reverse_singleton, List.singleton_append,
    List.findSome?_cons]
  cases event.decides? limit uri <;> rfl

/-! ## A server that has only texts -/

/-- A message to the client without the version of the document. -/
def Outgoing.unversioned : Outgoing → Outgoing
  | .diagnostics uri _ found => .diagnostics uri none found
  | message => message

/-- Lines of the log have no version. -/
theorem Server.unversioned_trace (server : Server) (message : String) :
    (server.trace message).map Outgoing.unversioned = server.trace message := by
  unfold trace
  split <;> rfl

/-- Of a question nothing is sent but lines of the log. -/
theorem Server.unversioned_ask (server : Server) (uri : Uri) (query : Query) :
    (server.ask uri query).2.2.map Outgoing.unversioned = (server.ask uri query).2.2 := by
  unfold ask
  split
  · rfl
  · simp only [List.map_flatMap, unversioned_trace]

/-- The diagnostics of a document that has a text, with ranges in the columns of the client. -/
def publication (encoding : Encoding) (uri : Uri) (text : Option String) : List Outgoing :=
  text.toList.map fun text => .diagnostics uri none <| (diagnostics (lines text)).map fun found =>
    { found with range := encoding.rangeFromChars (lines text) found.range }

/-- What a server whose documents have the given texts sends when it is told something, without
versions.  Of the server only its settings, the unit of columns and the size of the largest text are
looked at. -/
def Notification.sends (server : Server) (texts : Uri → Option String) :
    Notification → List Outgoing
  | .ready => server.trace s!"{serverName} {serverVersion} ready"
  | .willSave _ => []
  | .closed uri => [.diagnostics uri none []]
  | .saved uri none => publication server.encoding uri (texts uri)
  | notification =>
    match notification.sentText? with
    | none => []
    | some (uri, text) =>
      if text.utf8ByteSize ≤ server.store.maxBytes then
        publication server.encoding uri (some text)
      else [Server.report ⟨uri, text.utf8ByteSize, server.store.maxBytes⟩]

/-- What a server whose documents have the given texts replies at an event, and what it sends
besides, without versions.  A question about a document with a text is answered from the text, and
one about any other document with `null`. -/
inductive Event.Served (server : Server) (texts : Uri → Option String) :
    Event → Reply → List Outgoing → Prop
  | told (notification : Notification) :
    Served server texts (.told notification) .silence (notification.sends server texts)
  | unknown {uri : Uri} (query : Query) (absent : texts uri = none) :
    Served server texts (.asked uri query) (.result .null) []
  | answered {uri : Uri} {query : Query} {text : String} {answer : Answer}
    (present : texts uri = some text) (answers : query.AnsweredBy server.encoding uri text answer) :
    Served server texts (.asked uri query) (.result answer.toJson)
      ((query.summary? uri answer).toList.flatMap server.trace)

/-- A question about a document with a text is answered from the text. -/
theorem Event.Served.of_asked {server : Server} {texts : Uri → Option String} {uri : Uri}
    {query : Query} {text : String} {reply : Reply} {sent : List Outgoing}
    (served : (Event.asked uri query).Served server texts reply sent)
    (present : texts uri = some text) :
    ∃ answer, query.AnsweredBy server.encoding uri text answer ∧ reply = .result answer.toJson := by
  cases served with
  | unknown _ absent => rw [absent] at present; cases present
  | answered known answers =>
    rw [known] at present
    cases present
    exact ⟨_, answers, rfl⟩

/-! ## The relation between a server and its texts -/

namespace Server

/-- A server reflects texts when each document that has a text is stored with it, and only
documents among those `named` are stored.  The settings, the unit of columns and the limits are
those with which the server was started. -/
structure Reflects (server start : Server) (named : List Uri) (texts : Uri → Option String) :
    Prop where
  config : server.config = start.config
  encoding : server.encoding = start.encoding
  maxBytes : server.store.maxBytes = start.store.maxBytes
  maxDocuments : server.store.maxDocuments = start.store.maxDocuments
  distinct : server.store.Distinct
  uris_named : ∀ uri ∈ server.store.uris, uri ∈ named
  text : ∀ uri, (server.store.find? uri).map (·.text) = texts uri

namespace Reflects

variable {server start : Server} {named : List Uri} {texts : Uri → Option String}

/-- When no more documents are named than may be stored, nothing has to give way for one of
them: the stored ones and a new one are distinct and all named. -/
theorem hasRoomFor (reflects : server.Reflects start named texts)
    (few : named.dedup.length ≤ start.store.maxDocuments) {uri : Uri} (isNamed : uri ∈ named) :
    server.store.HasRoomFor uri := by
  by_cases present : uri ∈ server.store.uris
  · exact .inl present
  · right
    have distinct : (uri :: server.store.uris).Nodup :=
      List.nodup_cons.mpr ⟨present, reflects.distinct⟩
    have covered : (uri :: server.store.uris) ⊆ named.dedup := by
      intro other member
      rw [List.mem_dedup]
      rcases List.mem_cons.mp member with rfl | stored
      · exact isNamed
      · exact reflects.uris_named other stored
    have bound := (List.Nodup.subperm distinct covered).length_le
    rw [reflects.maxDocuments]
    simp only [List.length_cons, Store.uris, List.length_map] at bound
    exact Nat.lt_of_lt_of_le (Nat.lt_of_succ_le bound) few

/-- Reading a document changes nothing that is reflected. -/
theorem snapshot (reflects : server.Reflects start named texts) (uri : Uri) :
    ({ server with store := (server.store.snapshot uri).1 } : Server).Reflects start named texts where
  config := reflects.config
  encoding := reflects.encoding
  maxBytes := by simpa using reflects.maxBytes
  maxDocuments := by simpa using reflects.maxDocuments
  distinct := reflects.distinct.snapshot uri
  uris_named := fun other stored => reflects.uris_named other (Store.mem_uris_snapshot stored)
  text := fun other => by simpa using reflects.text other

/-- Closing a document takes its text away. -/
theorem remove (reflects : server.Reflects start named texts) (closed : Uri) :
    ({ server with store := server.store.remove closed } : Server).Reflects start named
      (fun uri => if closed = uri then none else texts uri) where
  config := reflects.config
  encoding := reflects.encoding
  maxBytes := reflects.maxBytes
  maxDocuments := reflects.maxDocuments
  distinct := reflects.distinct.remove closed
  uris_named := by
    intro uri stored
    change uri ∈ (server.store.remove closed).uris at stored
    rw [Store.uris_remove] at stored
    exact reflects.uris_named uri (List.mem_of_mem_filter stored)
  text := by
    intro uri
    change ((server.store.remove closed).find? uri).map _ = _
    rw [Store.find?_remove]
    split
    · rfl
    · exact reflects.text uri

/-- Putting a document gives it its text. -/
theorem put (reflects : server.Reflects start named texts)
    (few : named.dedup.length ≤ start.store.maxDocuments) {document : Document}
    (isNamed : document.uri ∈ named) :
    ({ server with store := server.store.put document } : Server).Reflects start named
      (fun uri => if document.uri = uri then some document.text else texts uri) where
  config := reflects.config
  encoding := reflects.encoding
  maxBytes := by simpa using reflects.maxBytes
  maxDocuments := by simpa using reflects.maxDocuments
  distinct := reflects.distinct.put document
  uris_named := by
    intro uri stored
    rcases Store.mem_uris_put (reflects.hasRoomFor few isNamed) stored with rfl | before
    · exact isNamed
    · exact reflects.uris_named uri before
  text := by
    intro uri
    change ((server.store.put document).find? uri).map _ = _
    rw [Store.find?_put _ _ _ (reflects.hasRoomFor few isNamed)]
    split
    · rfl
    · exact reflects.text uri

/-- Publishing sends the diagnostics of the reflected text, and changes nothing. -/
theorem publish (reflects : server.Reflects start named texts)
    (enabled : start.config.enabled = true) (uri : Uri) :
    (server.publish uri).1.Reflects start named texts ∧
      (server.publish uri).2.map Outgoing.unversioned =
        publication start.encoding uri (texts uri) := by
  have switchedOn : server.config.enabled = true := by rw [reflects.config]; exact enabled
  simp only [Server.publish, if_pos switchedOn]
  refine ⟨reflects.snapshot uri, ?_⟩
  rw [Store.snapshot_snd, ← reflects.text uri, ← reflects.encoding]
  cases server.store.find? uri <;> rfl

/-- A text for a named document is put and its diagnostics are sent, or it is reported. -/
theorem accept (reflects : server.Reflects start named texts)
    (enabled : start.config.enabled = true)
    (few : named.dedup.length ≤ start.store.maxDocuments) {uri : Uri} {text : String}
    {version : Int} {language : String} (isNamed : uri ∈ named)
    {result : Except TooLarge Store}
    (outcome : result =
      if server.store.maxBytes < text.utf8ByteSize then
        .error ⟨uri, text.utf8ByteSize, server.store.maxBytes⟩
      else .ok (server.store.put ⟨uri, text, version, language⟩)) :
    (server.accept uri result).1.Reflects start named
        (fun other => if uri = other ∧ text.utf8ByteSize ≤ start.store.maxBytes then some text
          else texts other) ∧
      (server.accept uri result).2.map Outgoing.unversioned =
        if text.utf8ByteSize ≤ start.store.maxBytes then
          publication start.encoding uri (some text)
        else [Server.report ⟨uri, text.utf8ByteSize, start.store.maxBytes⟩] := by
  rw [reflects.maxBytes] at outcome
  subst outcome
  by_cases fits : text.utf8ByteSize ≤ start.store.maxBytes
  · have document : (⟨uri, text, version, language⟩ : Document).uri ∈ named := isNamed
    have published := (reflects.put few document).publish enabled uri
    simp only [if_neg (Nat.not_lt.mpr fits), fits, and_true, Server.accept]
    simpa using published
  · simp only [if_pos (Nat.lt_of_not_le fits), fits, and_false, if_false, Server.accept]
    exact ⟨reflects, rfl⟩

/-- **One notification keeps the relation**, and sends what the texts say. -/
theorem notify (reflects : server.Reflects start named texts)
    (enabled : start.config.enabled = true)
    (few : named.dedup.length ≤ start.store.maxDocuments) (notification : Notification)
    (isNamed : ∀ uri ∈ notification.uri?, uri ∈ named) :
    (server.notify notification).1.Reflects start named
        (fun uri => ((Event.told notification).decides? start.store.maxBytes uri).getD
          (texts uri)) ∧
      (server.notify notification).2.map Outgoing.unversioned =
        notification.sends start texts := by
  have switchedOn : server.config.enabled = true := by rw [reflects.config]; exact enabled
  cases notification with
  | ready =>
    refine ⟨reflects, ?_⟩
    rw [Server.notify, Server.unversioned_trace]
    simp only [Notification.sends, Server.trace, reflects.config]
  | willSave uri => exact ⟨reflects, rfl⟩
  | closed uri =>
    simp only [Server.notify, if_pos switchedOn]
    refine ⟨?_, rfl⟩
    convert reflects.remove uri using 2 with other
    simp only [Event.decides?]
    split <;> rfl
  | opened document =>
    have accepted := reflects.accept enabled few (isNamed document.uri rfl)
      (Store.openDocument_eq server.store document.uri document.text document.version
        document.language)
    simp only [Server.notify, if_pos switchedOn]
    refine ⟨?_, accepted.2⟩
    convert accepted.1 using 2 with other
    simp only [Event.decides?, Notification.sentText?]
    split <;> rfl
  | changed uri version sent =>
    cases last : sent.getLast? with
    | none =>
      simp only [Server.notify, Event.decides?, Notification.sends, Notification.sentText?, last,
        Option.map_none]
      exact ⟨reflects, rfl⟩
    | some text =>
      have accepted := reflects.accept enabled few (isNamed uri rfl)
        (Store.map_fst_update_eq server.store uri text (some version))
      simp only [Server.notify, if_pos switchedOn, Event.decides?, Notification.sends,
        Notification.sentText?, last, Option.map_some]
      refine ⟨?_, accepted.2⟩
      convert accepted.1 using 2 with other
      split <;> rfl
  | saved uri text =>
    cases text with
    | none => exact reflects.publish enabled uri
    | some text =>
      have accepted := reflects.accept enabled few (isNamed uri rfl)
        (Store.map_fst_update_eq server.store uri text none)
      refine ⟨?_, accepted.2⟩
      simp only [Server.notify]
      convert accepted.1 using 2 with other
      simp only [Event.decides?, Notification.sentText?, Option.map_some]
      split <;> rfl

/-- **One question keeps the relation**, and is answered from the reflected text. -/
theorem ask (reflects : server.Reflects start named texts)
    (enabled : start.config.enabled = true) (uri : Uri) (query : Query) :
    (server.ask uri query).1.Reflects start named texts ∧
      (Event.asked uri query).Served start texts (.result (server.ask uri query).2.1.toJson)
        (server.ask uri query).2.2 := by
  have switchedOn : server.config.enabled = true := by rw [reflects.config]; exact enabled
  have kept := reflects.snapshot uri
  have text := reflects.text uri
  have traced (other : Server) (same : other.config = server.config) :
      other.trace = start.trace := by
    funext message
    simp only [Server.trace, same, reflects.config]
  simp only [Server.ask, Server.read, if_pos switchedOn, Store.snapshot_snd]
  cases found : server.store.find? uri with
  | none =>
    rw [found] at text
    exact ⟨kept, .unknown query text.symm⟩
  | some document =>
    rw [found] at text
    refine ⟨kept, ?_⟩
    simp only [Option.map_some, reflects.encoding, traced]
    exact .answered text.symm (query.answeredBy_answer start.encoding uri document.text)

end Reflects

end Server

/-! ## Whole sessions -/

namespace Session

variable {session : Session} {start : Server} {named : List Uri}

/-- One message keeps the relation, and is answered as the texts say. -/
theorem handle_reflects {texts : Uri → Option String} {message : Message} {event : Event}
    (running : session.phase = .running) (reflects : session.server.Reflects start named texts)
    (enabled : start.config.enabled = true)
    (few : named.dedup.length ≤ start.store.maxDocuments)
    (read : message.event? = some event) (isNamed : ∀ uri ∈ event.uri?, uri ∈ named) :
    (session.handle message).1.server.Reflects start named
        (fun uri => (event.decides? start.store.maxBytes uri).getD (texts uri)) ∧
      event.Served start texts (session.handle message).2.1
        ((session.handle message).2.2.map Outgoing.unversioned) := by
  cases event with
  | told notification =>
    rw [handle_told running read]
    obtain ⟨kept, sent⟩ := reflects.notify enabled few notification isNamed
    exact ⟨kept, sent ▸ .told notification⟩
  | asked uri query =>
    rw [handle_asked running read, Server.unversioned_ask]
    exact reflects.ask enabled uri query

/-- The relation holds after every list of messages about named documents. -/
theorem after_reflects (running : session.phase = .running)
    (reflects : session.server.Reflects start named fun _ => none)
    (enabled : start.config.enabled = true)
    (few : named.dedup.length ≤ start.store.maxDocuments) (messages : List Message)
    (readable : ∀ message ∈ messages, message.event?.isSome = true)
    (isNamed : ∀ message ∈ messages, ∀ uri ∈ message.event?.bind Event.uri?, uri ∈ named) :
    (session.after messages).phase = .running ∧
      (session.after messages).server.Reflects start named
        (textAfter start.store.maxBytes (messages.filterMap Message.event?)) := by
  induction messages using List.reverseRecOn with
  | nil => exact ⟨running, reflects⟩
  | append_singleton messages message ih =>
    simp only [List.forall_mem_append, List.forall_mem_singleton] at readable isNamed
    obtain ⟨runningBefore, reflectsBefore⟩ := ih readable.1 isNamed.1
    obtain ⟨event, read⟩ := Option.isSome_iff_exists.mp readable.2
    rw [after_concat]
    refine ⟨running_handle runningBefore read, ?_⟩
    have named := isNamed.2
    rw [read] at named
    have kept := (handle_reflects runningBefore reflectsBefore enabled few read named).1
    have events : (messages ++ [message]).filterMap Message.event? =
        messages.filterMap Message.event? ++ [event] := by
      simp [read]
    convert kept using 2 with uri
    rw [events]
    exact textAfter_concat _ _ _ _

end Session

/-- **A session is a map from names to texts.**  A session is started with settings that leave the
server switched on, and is then about no more documents than the store may hold.  After any history
of messages, the reply to the next message, and what is sent besides it, are those of a server that
knows nothing but the text of every document: the last one sent for it, since it was closed, that is
no larger than the limit. -/
theorem session_reflects_texts (maxDocuments maxBytes : Nat) (hello : Json)
    (options : Option Json) (encodings : Option (List String))
    (readHello : Params.start? hello = some (options, encodings))
    (enabled : ((Config.ofOptions options).toOption.getD {}).enabled = true)
    (history : List Message) (next : Message) (event : Event)
    (readable : ∀ message ∈ history, message.event?.isSome = true)
    (readNext : next.event? = some event)
    (few : ((history ++ [next]).filterMap fun message =>
      message.event?.bind Event.uri?).dedup.length ≤ maxDocuments) :
    let start := Session.started maxDocuments maxBytes hello
    let texts := textAfter maxBytes (history.filterMap Message.event?)
    event.Served start.server texts ((start.after history).handle next).2.1
      (((start.after history).handle next).2.2.map Outgoing.unversioned) := by
  intro start texts
  have started : start = _ := Session.started_eq maxDocuments maxBytes readHello
  have running : start.phase = .running := by rw [started]
  have limit : start.server.store.maxBytes = maxBytes := by rw [started]; rfl
  have switchedOn : start.server.config.enabled = true := by rw [started]; exact enabled
  generalize namedIs : ((history ++ [next]).filterMap fun message =>
    message.event?.bind Event.uri?) = named at few
  have isNamed : ∀ message ∈ history ++ [next],
      ∀ uri ∈ message.event?.bind Event.uri?, uri ∈ named := by
    intro message sent uri about
    rw [← namedIs]
    exact List.mem_filterMap.mpr ⟨message, sent, about⟩
  have empty : start.server.Reflects start.server named fun _ => none := by
    constructor <;> simp [started, Server.start, Session.withLimits, Store.Distinct, Store.uris,
      Store.find?]
  have room : named.dedup.length ≤ start.server.store.maxDocuments := by
    rw [started]
    exact few
  simp only [List.forall_mem_append, List.forall_mem_singleton, readNext] at isNamed
  obtain ⟨runningBefore, reflects⟩ :=
    Session.after_reflects running empty switchedOn room history readable isNamed.1
  rw [limit] at reflects
  exact (Session.handle_reflects runningBefore reflects switchedOn room readNext isNamed.2).2

/-- A text that is too large is refused, and the question after it is answered from the text before:
nothing but the last change counts, although the first would have fitted. -/
theorem session_reflects_texts_after_refusal :
    let uri : Uri := "file:///a.kt"
    let named : String × Json := ("uri", .str uri)
    let opened : Message := .notify "textDocument/didOpen" (some (.obj
      [("textDocument", .obj [named, ("languageId", .str "kotlin"), ("version", .int 1),
        ("text", .str "val a")])]))
    let changed : Message := .notify "textDocument/didChange" (some (.obj
      [("textDocument", .obj [named, ("version", .int 2)]),
       ("contentChanges", .arr [.obj [("text", .str "a")], .obj [("text", .str "val abc")]])]))
    let asked : Message := .request "textDocument/documentSymbol" (some (.obj
      [("textDocument", .obj [named])]))
    let start := Session.started 1 5 (.obj [("capabilities", .obj [])])
    ((start.after [opened, changed]).handle asked).2.1 =
      .result (Answer.outline
        [⟨"a", "val a", .property, .onLine 0 0 5, .onLine 0 4 5⟩]).toJson := by
  intro uri named opened changed asked start
  have readOpened : opened.event? =
      some (.told (.opened ⟨uri, "val a", 1, "kotlin"⟩)) := by
    simp only [opened, named, uri]
    rfl
  have readChanged : changed.event? = some (.told (.changed uri 2 ["a", "val abc"])) := by
    simp only [changed, named, uri]
    rfl
  have readAsked : asked.event? = some (.asked uri .outline) := by
    simp only [asked, named, uri]
    rfl
  have readable : ∀ message ∈ [opened, changed], message.event?.isSome = true := by
    simp [readOpened, readChanged]
  have few : (([opened, changed] ++ [asked]).filterMap fun message =>
      message.event?.bind Event.uri?).dedup.length ≤ 1 := by
    simp [readOpened, readChanged, readAsked, Event.uri?, Notification.uri?]
  have kept : textAfter 5 ([opened, changed].filterMap Message.event?) uri = some "val a" := by
    simp only [List.filterMap_cons, List.filterMap_nil, readOpened, readChanged]
    decide
  have served := session_reflects_texts 1 5 (.obj [("capabilities", .obj [])]) none none rfl rfl
    [opened, changed] asked (.asked uri .outline) readable readAsked few
  obtain ⟨answer, ⟨question, same, shown⟩, replied⟩ := served.of_asked kept
  have entries : DocumentSymbol.outline (lines "val a") =
      [⟨"a", "val a", .property, .onLine 0 0 5, .onLine 0 4 5⟩] := by decide +kernel
  cases same
  rw [Query.answerInChars, entries] at shown
  rw [replied, shown.eq_mapRange]
  rfl

end KotlinAssist
