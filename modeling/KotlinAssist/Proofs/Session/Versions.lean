import KotlinAssist.Proofs.Session.Run
import KotlinAssist.Proofs.Store.Numbering

/-!
# Versions of diagnostics

Diagnostics are sent with the version of the stored document.  That version comes from the texts that
were accepted since the document was last put into the store: it is the one that the client sent
with the latest of them, as long as none of them came without a version.  The text of a saved
document does, and counts the stored version up; from then on the server is ahead of its client until
the client has caught up.

## Main definitions

* `sentVersions` — the versions that a client sends for a document
* `suppliedVersions` — what came with the texts that are accepted for a document
* `clientVersion?` — the version of the latest accepted text that came with one
* `Session.StoredSince` — the messages since a document was put into the store

## Main statements

* `Session.SwitchedOn.numbered_after` — where the version of a stored document comes from
* `published_version_follows_client` — how the version of diagnostics relates to that of the client
* `published_version_ahead_of_client` — the two can differ
-/

namespace KotlinAssist

/-! ## Versions that a client sends -/

/-- The version that an event sends for a document, whether or not its text is accepted. -/
def Event.sentVersion? (uri : Uri) : Event → Option Int
  | .told notification => if notification.uri? = some uri then notification.version? else none
  | .asked _ _ => none

/-- What comes with a text of at most `limit` bytes for a document: a version, or none if the
document is saved. -/
def Event.supplied? (limit : Nat) (uri : Uri) : Event → Option (Option Int)
  | .told notification =>
    match notification.sentText? with
    | some (sent, text) =>
      if sent = uri ∧ text.utf8ByteSize ≤ limit then some notification.version? else none
    | none => none
  | .asked _ _ => none

/-- The versions that messages send for a document. -/
def sentVersions (messages : List Message) (uri : Uri) : List Int :=
  messages.filterMap fun message => message.event?.bind (Event.sentVersion? uri)

/-- What comes with the texts of at most `limit` bytes that messages bring for a document. -/
def suppliedVersions (limit : Nat) (messages : List Message) (uri : Uri) : List (Option Int) :=
  messages.filterMap fun message => message.event?.bind (Event.supplied? limit uri)

/-- The version of the latest text of at most `limit` bytes that came with a version. -/
def clientVersion? (limit : Nat) (messages : List Message) (uri : Uri) : Option Int :=
  (suppliedVersions limit messages uri).reduceOption.getLast?

section Supplied

variable {limit : Nat} {uri : Uri}

theorem suppliedVersions_append (limit : Nat) (before during : List Message) (uri : Uri) :
    suppliedVersions limit (before ++ during) uri =
      suppliedVersions limit before uri ++ suppliedVersions limit during uri := by
  simp [suppliedVersions]

theorem suppliedVersions_singleton (limit : Nat) (message : Message) (uri : Uri) :
    suppliedVersions limit [message] uri =
      (message.event?.bind (Event.supplied? limit uri)).toList := by
  simp only [suppliedVersions, List.filterMap_cons, List.filterMap_nil]
  cases message.event?.bind (Event.supplied? limit uri) <;> rfl

/-- Earlier messages do not matter once a later one sent a version. -/
theorem clientVersion?_append {before during : List Message} {client : Int}
    (later : clientVersion? limit during uri = some client) :
    clientVersion? limit (before ++ during) uri = some client := by
  rw [clientVersion?] at later ⊢
  rw [suppliedVersions_append, List.reduceOption_append, List.getLast?_append, later,
    Option.some_or]

theorem Notification.uri?_of_sentText? {notification : Notification} {text : String}
    (sent : notification.sentText? = some (uri, text)) : notification.uri? = some uri := by
  cases notification with
  | ready => cases sent
  | opened document => cases sent; rfl
  | changed other version texts =>
    obtain ⟨last, -, same⟩ := Option.map_eq_some_iff.mp sent
    cases same
    rfl
  | willSave other => cases sent
  | saved other saved =>
    obtain ⟨last, -, same⟩ := Option.map_eq_some_iff.mp sent
    cases same
    rfl
  | closed other => cases sent

theorem Event.supplied?_eq_some_iff {notification : Notification} {supplied : Option Int} :
    (Event.told notification).supplied? limit uri = some supplied ↔
      ∃ text, notification.sentText? = some (uri, text) ∧ text.utf8ByteSize ≤ limit ∧
        notification.version? = supplied := by
  simp only [supplied?]
  cases notification.sentText? with
  | none => simp
  | some sent =>
    obtain ⟨other, text⟩ := sent
    by_cases same : other = uri <;> simp [same]

/-- A version that is taken over was sent. -/
theorem Event.sentVersion?_of_supplied? {event : Event} {version : Int}
    (supplied : event.supplied? limit uri = some (some version)) :
    event.sentVersion? uri = some version := by
  cases event with
  | asked other query => cases supplied
  | told notification =>
    obtain ⟨text, sent, -, same⟩ := supplied?_eq_some_iff.mp supplied
    rw [sentVersion?, if_pos (Notification.uri?_of_sentText? sent), same]

/-- Requests bring no texts. -/
theorem supplied?_of_request? {message : Message} {request : Request}
    (read : message.request? = some request) :
    message.event?.bind (Event.supplied? limit uri) = none := by
  cases message with
  | notify method params => cases read
  | request method params =>
    simp only [Message.event?]
    split <;> rfl

/-- The versions that are taken over are some of those that were sent, in the same order. -/
theorem suppliedVersions_sublist (limit : Nat) (messages : List Message) (uri : Uri) :
    (suppliedVersions limit messages uri).reduceOption.Sublist (sentVersions messages uri) := by
  induction messages with
  | nil => exact List.Sublist.refl _
  | cons message messages ih =>
    rw [← List.singleton_append, suppliedVersions_append, List.reduceOption_append,
      sentVersions, List.filterMap_append]
    refine List.Sublist.append ?_ ih
    rw [suppliedVersions_singleton]
    match found : message.event?.bind (Event.supplied? limit uri) with
    | none => exact List.nil_sublist _
    | some none => exact List.nil_sublist _
    | some (some version) =>
      obtain ⟨event, read, supplied⟩ := Option.bind_eq_some_iff.mp found
      simp [read, Event.sentVersion?_of_supplied? supplied]

end Supplied

/-! ## Versions that can be read -/

theorem Json.le_of_int32? {json : Json} {value : Int} (read : json.int32? = some value) :
    value ≤ Document.maxVersion := by
  unfold int32? at read
  split at read
  · split at read
    · cases read
      unfold Document.maxVersion
      omega
    · cases read
  · cases read

namespace Notification

/-- Versions are numbers of 32 bits, whichever method brings them. -/
theorem version_le_of_mem_methods {method : String} {shape : Shape}
    {read : Json → Option Notification} (follows : (method, shape, read) ∈ methods)
    {params : Json} {notification : Notification} (fits : read params = some notification)
    {version : Int} (sent : notification.version? = some version) :
    version ≤ Document.maxVersion := by
  simp only [methods, List.mem_cons, Prod.mk.injEq, List.not_mem_nil, or_false] at follows
  obtain ⟨-, -, rfl⟩ | ⟨-, -, rfl⟩ | ⟨-, -, rfl⟩ | ⟨-, -, rfl⟩ | ⟨-, -, rfl⟩ | ⟨-, -, rfl⟩ := follows
  · cases fits
    cases sent
  · simp only [opened?, Json.require?, Option.bind_eq_bind, Option.bind_eq_some_iff] at fits
    obtain ⟨document, -, uri, -, text, -, number, ⟨field, -, isNumber⟩, language, -, same⟩ := fits
    cases same
    cases sent
    exact Json.le_of_int32? isNumber
  · simp only [changed?, Json.require?, Option.bind_eq_bind, Option.bind_eq_some_iff] at fits
    obtain ⟨document, -, number, ⟨field, -, isNumber⟩, uri, -, texts, -, same⟩ := fits
    cases same
    cases sent
    exact Json.le_of_int32? isNumber
  · obtain ⟨uri, -, same⟩ := Option.map_eq_some_iff.mp fits
    cases same
    cases sent
  · simp only [saved?, Option.bind_eq_bind, Option.bind_eq_some_iff] at fits
    obtain ⟨uri, -, text, -, same⟩ := fits
    cases same
    cases sent
  · obtain ⟨uri, -, same⟩ := Option.map_eq_some_iff.mp fits
    cases same
    cases sent

end Notification

theorem Message.version_le {message : Message} {notification : Notification} {version : Int}
    (read : message.event? = some (.told notification))
    (sent : notification.version? = some version) : version ≤ Document.maxVersion := by
  cases message with
  | request method params =>
    simp only [event?] at read
    split at read <;> cases read
  | notify method params =>
    obtain ⟨other, fits, same⟩ := Option.map_eq_some_iff.mp read
    cases same
    obtain ⟨reader, known, fits⟩ := Option.bind_eq_some_iff.mp fits
    obtain ⟨json, -, fits⟩ := Option.bind_eq_some_iff.mp fits
    obtain ⟨⟨shape, reads⟩, listed, rfl⟩ := Option.map_eq_some_iff.mp known
    obtain ⟨plain, -, fits⟩ := Option.bind_eq_some_iff.mp fits
    obtain ⟨front, back, methods, -⟩ := List.lookup_eq_some_iff.mp listed
    have follows : (method, shape, reads) ∈ Notification.methods := by
      rw [methods]
      exact List.mem_append_right _ (List.mem_cons_self ..)
    exact Notification.version_le_of_mem_methods follows fits sent

/-- Every version that a client sends is a number of 32 bits. -/
theorem le_of_mem_sentVersions {messages : List Message} {uri : Uri} {version : Int}
    (sent : version ∈ sentVersions messages uri) : version ≤ Document.maxVersion := by
  obtain ⟨message, -, sends⟩ := List.mem_filterMap.mp sent
  obtain ⟨event, read, sends⟩ := Option.bind_eq_some_iff.mp sends
  cases event with
  | asked other query => cases sends
  | told notification =>
    obtain ⟨-, sends⟩ := Option.ite_none_right_eq_some.mp sends
    exact Message.version_le read sends

/-! ## One notification -/

namespace Server

variable {server : Server}

/-- A document that is found after a notification has got a text by it, or was there before. -/
theorem find?_notify_cases (enabled : server.config.enabled = true)
    (distinct : server.store.Distinct) {notification : Notification} {uri : Uri}
    {document : Document}
    (found : (server.notify notification).1.store.find? uri = some document) :
    (∃ supplied, (Event.told notification).supplied? server.store.maxBytes uri = some supplied ∧
      document.version = server.store.versionAfter uri supplied) ∨
    ((Event.told notification).supplied? server.store.maxBytes uri = none ∧
      server.store.find? uri = some document) := by
  have effect := server.effect_notify notification
  generalize server.notify notification = result at effect found
  cases effect with
  | stored put sent heeded fits version =>
    rw [publish_fst (by exact enabled)] at found
    simp only [Store.find?_snapshot] at found
    by_cases same : put.uri = uri
    · subst same
      rw [Store.find?_put_self distinct] at found
      cases found
      exact .inl ⟨_, Event.supplied?_eq_some_iff.mpr ⟨_, sent, fits, rfl⟩, version⟩
    · -- another document may have given way, but this one was found
      right
      refine ⟨?_, Store.find?_of_find?_put distinct same found⟩
      simp [Event.supplied?, sent, same]
  | refused other text sent heeded large =>
    right
    refine ⟨?_, found⟩
    simp [Event.supplied?, sent, large]
  | published other isSave =>
    right
    rw [publish_fst enabled] at found
    simp only [Store.find?_snapshot] at found
    exact ⟨by rw [isSave]; rfl, found⟩
  | closed other isClose =>
    right
    refine ⟨by rw [isClose]; rfl, ?_⟩
    rw [Store.find?_remove] at found
    split at found
    · cases found
    · exact found
  | ignored sent unheeded =>
    right
    have nothing := unheeded.resolve_right (not_not_intro (.inl enabled))
    exact ⟨by simp [Event.supplied?, nothing], found⟩

theorem stored_notify (enabled : server.config.enabled = true) (distinct : server.store.Distinct)
    (notification : Notification) :
    (server.notify notification).1.store.Distinct ∧
      (server.notify notification).1.store.maxBytes = server.store.maxBytes := by
  have effect := server.effect_notify notification
  generalize server.notify notification = result at effect ⊢
  cases effect with
  | stored document =>
    rw [publish_fst (by exact enabled)]
    exact ⟨(distinct.put document).snapshot document.uri, by simp⟩
  | refused uri text => exact ⟨distinct, rfl⟩
  | published uri =>
    rw [publish_fst enabled]
    exact ⟨distinct.snapshot uri, by simp⟩
  | closed uri => exact ⟨distinct.remove uri, rfl⟩
  | ignored messages => exact ⟨distinct, rfl⟩

/-- Diagnostics with a version are those of a document that is stored with it. -/
theorem stored_of_published (enabled : server.config.enabled = true) {notification : Notification}
    {uri : Uri} {version : Int} {found : List Diagnostic}
    (sent : .diagnostics uri (some version) found ∈ (server.notify notification).2) :
    ∃ document, (server.notify notification).1.store.find? uri = some document ∧
      document.version = version := by
  have effect := server.effect_notify notification
  generalize server.notify notification = result at effect sent ⊢
  cases effect with
  | stored put =>
    obtain ⟨document, stored, same⟩ := (mem_publish_iff (by exact enabled) put.uri _).mp sent
    cases same
    refine ⟨document, ?_, rfl⟩
    rw [publish_fst (by exact enabled)]
    simpa using stored
  | refused other text => cases List.mem_singleton.mp sent
  | published other =>
    obtain ⟨document, stored, same⟩ := (mem_publish_iff enabled other _).mp sent
    cases same
    refine ⟨document, ?_, rfl⟩
    rw [publish_fst enabled]
    simpa using stored
  | closed other =>
    rw [if_pos enabled] at sent
    cases List.mem_singleton.mp sent
  | ignored messages _ logs =>
    obtain ⟨line, isLog⟩ := logs _ sent
    cases isLog

end Server

/-! ## Whole sessions -/

namespace Session

/-- A session has begun with a server that is switched on and accepts texts of `limit` bytes. -/
structure SwitchedOn (limit : Nat) (session : Session) : Prop where
  begun : session.phase ≠ .fresh
  enabled : session.server.config.enabled = true
  distinct : session.server.store.Distinct
  maxBytes : session.server.store.maxBytes = limit

/-- The document is not stored after the messages `before`, and is stored from then on, after every
one of the messages `during`. -/
structure StoredSince (start : Session) (before during : List Message) (uri : Uri) : Prop where
  absent : uri ∉ (start.after before).server.store.uris
  present : ∀ part, part ≠ [] → part <+: during →
    uri ∈ (start.after (before ++ part)).server.store.uris

variable {limit : Nat} {session start : Session} {uri : Uri}

theorem StoredSince.concat {before during : List Message} {message : Message}
    (since : start.StoredSince before during uri)
    (stored : uri ∈ (start.after (before ++ (during ++ [message]))).server.store.uris) :
    start.StoredSince before (during ++ [message]) uri where
  absent := since.absent
  present := by
    intro part nonempty isPart
    rcases List.prefix_concat_iff.mp isPart with rfl | isPart
    · exact stored
    · exact since.present part nonempty isPart

namespace SwitchedOn

variable (on : session.SwitchedOn limit)

include on

/-- A message keeps the names of the documents apart, and the size of the largest text. -/
theorem stored_handle (message : Message) :
    (session.handle message).1.server.store.Distinct ∧
      (session.handle message).1.server.store.maxBytes = session.server.store.maxBytes := by
  obtain ⟨-, notification, -, told⟩ | ⟨-, request, -, answered⟩ | passes :=
    handle_cases on.begun message
  · rw [told]
    exact Server.stored_notify on.enabled on.distinct notification
  · rw [answered]
    obtain ⟨same | ⟨-, uri, read⟩, -⟩ := session.server.request_cases request
    · rw [same]
      exact ⟨on.distinct, rfl⟩
    · rw [read]
      exact ⟨on.distinct.snapshot uri, by simp⟩
  · rw [passes.server]
    exact ⟨on.distinct, rfl⟩

theorem handle (message : Message) : (session.handle message).1.SwitchedOn limit where
  begun := begun_handle on.begun message
  enabled := by
    rw [config_handle on.begun message]
    exact on.enabled
  distinct := (on.stored_handle message).1
  maxBytes := (on.stored_handle message).2.trans on.maxBytes

theorem after (messages : List Message) : (session.after messages).SwitchedOn limit := by
  induction messages using List.reverseRecOn with
  | nil => exact on
  | append_singleton messages message ih =>
    rw [after_concat]
    exact ih.handle message

/-- A document that is found after a message of a running session has got a text by it, or was there
before. -/
theorem find?_handle_cases {message : Message} {document : Document}
    (running : (session.handle message).1.phase = .running)
    (found : (session.handle message).1.server.store.find? uri = some document) :
    session.phase = .running ∧
      ((∃ supplied, message.event?.bind (Event.supplied? limit uri) = some supplied ∧
          document.version = session.server.store.versionAfter uri supplied) ∨
        (message.event?.bind (Event.supplied? limit uri) = none ∧
          session.server.store.find? uri = some document)) := by
  obtain ⟨runs, notification, read, told⟩ | ⟨runs, request, read, answered⟩ | passes :=
    handle_cases on.begun message
  · refine ⟨runs, ?_⟩
    rw [told] at found
    rw [read, Option.bind_some, ← on.maxBytes]
    exact Server.find?_notify_cases on.enabled on.distinct found
  · refine ⟨runs, .inr ⟨supplied?_of_request? read, ?_⟩⟩
    rw [answered] at found
    obtain ⟨same | ⟨-, other, reads⟩, -⟩ := session.server.request_cases request
    · simpa only [same] using found
    · simpa only [reads, Store.find?_snapshot] using found
  · have runs := passes.running running
    rw [passes.server] at found
    exact ⟨runs, .inr ⟨by rw [passes.unread runs]; rfl, found⟩⟩

theorem stored_of_published {message : Message} {version : Int} {found : List Diagnostic}
    (sent : .diagnostics uri (some version) found ∈ (session.handle message).2.2) :
    (session.handle message).1.phase = .running ∧
      ∃ document, (session.handle message).1.server.store.find? uri = some document ∧
        document.version = version := by
  obtain ⟨running, notification, -, told⟩ | ⟨running, request, -, answered⟩ | passes :=
    handle_cases on.begun message
  · rw [told] at sent ⊢
    exact ⟨running, Server.stored_of_published on.enabled sent⟩
  · rw [answered] at sent
    obtain ⟨line, isLog⟩ := (session.server.request_cases request).2 _ sent
    cases isLog
  · rw [passes.sent] at sent
    cases sent

/-- **Where the version of a stored document comes from**, in a session that starts without
documents: from the texts that were accepted since it was put into the store. -/
theorem numbered_after (empty : session.server.store.documents = []) (uri : Uri)
    (history : List Message) (running : (session.after history).phase = .running) :
    ∃ before during, history = before ++ during ∧ session.StoredSince before during uri ∧
      Document.numbered (suppliedVersions limit during uri) =
        ((session.after history).server.store.find? uri).map (·.version) := by
  induction history using List.reverseRecOn with
  | nil =>
    refine ⟨[], [], rfl, ⟨?_, ?_⟩, ?_⟩
    · simp [Store.uris, empty]
    · intro part nonempty isPart
      exact absurd (List.prefix_nil.mp isPart) nonempty
    · simp [suppliedVersions, Store.find?, empty]
  | append_singleton history message ih =>
    rw [after_concat] at running ⊢
    cases found : ((session.after history).handle message).1.server.store.find? uri with
    | none =>
      -- the document is gone, and whatever puts it into the store again comes later
      refine ⟨history ++ [message], [], by simp, ⟨?_, ?_⟩, rfl⟩
      · rw [after_concat, ← Store.find?_eq_none_iff]
        exact found
      · intro part nonempty isPart
        exact absurd (List.prefix_nil.mp isPart) nonempty
    | some document =>
      obtain ⟨runs, cases⟩ := (on.after history).find?_handle_cases running found
      obtain ⟨before, during, rfl, since, numbered⟩ := ih runs
      refine ⟨before, during ++ [message], by simp, since.concat ?_, ?_⟩
      · rw [← List.append_assoc, after_concat, ← Store.contains_iff, Store.contains, found]
        rfl
      · rw [suppliedVersions_append, suppliedVersions_singleton]
        rcases cases with ⟨supplied, supplies, version⟩ | ⟨nothing, stored⟩
        · rw [supplies, Option.toList_some, Document.numbered_concat, numbered,
            ← Store.versionAfter_eq_renumbered, ← version]
          rfl
        · rw [nothing, Option.toList_none, List.append_nil, numbered, stored]

end SwitchedOn

theorem switchedOn_started (maxDocuments maxBytes : Nat) {hello : Json} {options : Option Json}
    {encodings : Option (List String)}
    (readHello : Params.start? hello = some (options, encodings))
    (enabled : ((Config.ofOptions options).toOption.getD {}).enabled = true) :
    (started maxDocuments maxBytes hello).SwitchedOn maxBytes ∧
      (started maxDocuments maxBytes hello).server.store.documents = [] := by
  rw [started_eq maxDocuments maxBytes readHello]
  refine ⟨⟨?_, enabled, List.nodup_nil, rfl⟩, rfl⟩
  intro fresh
  cases fresh

end Session

/-- **The version of diagnostics follows that of the client.**  A session is started with settings
that leave the server switched on, and for every document the versions that the client sends
increase.  Diagnostics that are sent with a version are sent with the one that the texts accepted
since the document was put into the store give it.  If all of these came with a version, it is the
client's version: that of the latest accepted text that came with one.  If at least the first did, it
is ahead of the client's version by no more than the number of texts that came without one. -/
theorem published_version_follows_client (maxDocuments maxBytes : Nat) (hello : Json)
    (options : Option Json) (encodings : Option (List String))
    (readHello : Params.start? hello = some (options, encodings))
    (enabled : ((Config.ofOptions options).toOption.getD {}).enabled = true)
    (history : List Message) (next : Message)
    (increasing : ∀ uri, (sentVersions (history ++ [next]) uri).Pairwise (· < ·))
    (uri : Uri) (version : Int) (found : List Diagnostic)
    (sent : .diagnostics uri (some version) found ∈
      (((Session.started maxDocuments maxBytes hello).after history).handle next).2.2) :
    ∃ before during, history ++ [next] = before ++ during ∧
      (Session.started maxDocuments maxBytes hello).StoredSince before during uri ∧
      let supplied := suppliedVersions maxBytes during uri
      Document.numbered supplied = some version ∧
      (none ∉ supplied → clientVersion? maxBytes (history ++ [next]) uri = some version) ∧
      (supplied.head? ≠ some none →
        ∃ client, clientVersion? maxBytes (history ++ [next]) uri = some client ∧
          client ≤ version ∧ version ≤ client + supplied.count none) := by
  obtain ⟨on, empty⟩ := Session.switchedOn_started maxDocuments maxBytes readHello enabled
  obtain ⟨running, document, stored, rfl⟩ := (on.after history).stored_of_published sent
  rw [← Session.after_concat] at running stored
  obtain ⟨before, during, split, since, numbered⟩ :=
    on.numbered_after empty uri (history ++ [next]) running
  rw [stored, Option.map_some] at numbered
  have sublist : (suppliedVersions maxBytes during uri).reduceOption.Sublist
      (sentVersions (history ++ [next]) uri) := by
    refine (suppliedVersions_sublist maxBytes during uri).trans ?_
    rw [split, sentVersions, sentVersions, List.filterMap_append]
    exact List.sublist_append_right _ _
  have bounds (first : (suppliedVersions maxBytes during uri).head? ≠ some none) :
      ∃ client, clientVersion? maxBytes (history ++ [next]) uri = some client ∧
        client ≤ document.version ∧
        document.version ≤ client + (suppliedVersions maxBytes during uri).count none := by
    obtain ⟨client, last, close⟩ := Document.numbered_bounds numbered first
      ((increasing uri).sublist sublist)
      fun version supplied => le_of_mem_sentVersions (sublist.subset supplied)
    rw [split]
    exact ⟨client, clientVersion?_append last, close⟩
  refine ⟨before, during, split, since, numbered, ?_, bounds⟩
  intro allNumbered
  obtain ⟨client, latest, lower, upper⟩ := bounds fun first =>
    allNumbered (List.mem_of_mem_head? first)
  rw [List.count_eq_zero_of_not_mem allNumbered] at upper
  rw [latest]
  congr 1
  omega

/-- A document is opened, saved with its text and changed: the stored version is counted up by the
save, so that the change does not reach it and counts it up once more. -/
theorem published_version_follows_client_after_save :
    let uri : Uri := "file:///a.kt"
    let named : String × Json := ("uri", .str uri)
    let opened : Message := .notify "textDocument/didOpen" (some (.obj
      [("textDocument", .obj [named, ("languageId", .str "kotlin"), ("version", .int 1),
        ("text", .str "val a")])]))
    let saved : Message := .notify "textDocument/didSave" (some (.obj
      [("textDocument", .obj [named]), ("text", .str "val b")]))
    let changed : Message := .notify "textDocument/didChange" (some (.obj
      [("textDocument", .obj [named, ("version", .int 2)]),
       ("contentChanges", .arr [.obj [("text", .str "val c")]])]))
    let start := Session.started 1 5 (.obj [("capabilities", .obj [])])
    .diagnostics uri (some 3) (Server.clientDiagnostics .utf16 "val c") ∈
        ((start.after [opened, saved]).handle changed).2.2 ∧
      ∃ before during, [opened, saved, changed] = before ++ during ∧
        start.StoredSince before during uri ∧
        Document.numbered (suppliedVersions 5 during uri) = some 3 := by
  intro uri named opened saved changed start
  have readOpened : opened.event? = some (.told (.opened ⟨uri, "val a", 1, "kotlin"⟩)) := by
    simp only [opened, named, uri]
    rfl
  have readSaved : saved.event? = some (.told (.saved uri (some "val b"))) := by
    simp only [saved, named, uri]
    rfl
  have readChanged : changed.event? = some (.told (.changed uri 2 ["val c"])) := by
    simp only [changed, named, uri]
    rfl
  have increasing : ∀ uri,
      (sentVersions ([opened, saved] ++ [changed]) uri).Pairwise (· < ·) := by
    intro other
    by_cases same : uri = other <;>
      simp [sentVersions, readOpened, readSaved, readChanged, Event.sentVersion?,
        Notification.uri?, Notification.version?, same]
  have runsOpened : (start.handle opened).1.phase = .running :=
    Session.running_handle rfl readOpened
  have answer : ((start.after [opened, saved]).handle changed).2.2 =
      [.diagnostics uri (some 3) (Server.clientDiagnostics .utf16 "val c")] := by
    have runsSaved := Session.running_handle runsOpened readSaved
    simp only [Session.after, List.foldl_cons, List.foldl_nil]
    rw [Session.handle_told runsSaved readChanged, Session.handle_told runsOpened readSaved,
      Session.handle_told rfl readOpened]
    rfl
  have sent : .diagnostics uri (some 3) (Server.clientDiagnostics .utf16 "val c") ∈
      ((start.after [opened, saved]).handle changed).2.2 := by
    rw [answer]
    exact List.mem_singleton_self _
  obtain ⟨before, during, split, since, numbered, -⟩ := published_version_follows_client 1 5
    (.obj [("capabilities", .obj [])]) none none rfl rfl [opened, saved] changed increasing uri 3 _
    sent
  exact ⟨sent, before, during, split, since, numbered⟩

/-- A document that is opened with version 1 and saved with its text has diagnostics of version 2. -/
theorem published_version_ahead_of_client :
    let uri : Uri := "file:///a.kt"
    let named : String × Json := ("uri", .str uri)
    let opened : Message := .notify "textDocument/didOpen" (some (.obj
      [("textDocument", .obj [named, ("languageId", .str "kotlin"), ("version", .int 1),
        ("text", .str "val a")])]))
    let saved : Message := .notify "textDocument/didSave" (some (.obj
      [("textDocument", .obj [named]), ("text", .str "val b")]))
    let start := Session.started 1 5 (.obj [("capabilities", .obj [])])
    start.server.config.enabled = true ∧
      (∀ uri, (sentVersions [opened, saved] uri).Pairwise (· < ·)) ∧
      clientVersion? 5 [opened, saved] uri = some 1 ∧
      ((start.after [opened]).handle saved).2.2 =
        [.diagnostics uri (some 2) (Server.clientDiagnostics .utf16 "val b")] := by
  intro uri named opened saved start
  have readOpened : opened.event? = some (.told (.opened ⟨uri, "val a", 1, "kotlin"⟩)) := by
    simp only [opened, named, uri]
    rfl
  have readSaved : saved.event? = some (.told (.saved uri (some "val b"))) := by
    simp only [saved, named, uri]
    rfl
  have runsOpened : (start.handle opened).1.phase = .running :=
    Session.running_handle rfl readOpened
  refine ⟨rfl, ?_, ?_, ?_⟩
  · intro other
    by_cases same : uri = other <;>
      simp [sentVersions, readOpened, readSaved, Event.sentVersion?, Notification.uri?,
        Notification.version?, same]
  · simp only [clientVersion?, suppliedVersions, List.filterMap_cons, List.filterMap_nil,
      readOpened, readSaved, Option.bind_some]
    decide
  · simp only [Session.after, List.foldl_cons, List.foldl_nil]
    rw [Session.handle_told runsOpened readSaved, Session.handle_told rfl readOpened]
    rfl

end KotlinAssist
