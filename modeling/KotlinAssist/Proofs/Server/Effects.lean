import KotlinAssist.Proofs.Store.Eviction
import KotlinAssist.Server.Basic

/-!
# What a message can do to a server

A notification puts a text into the store, is refused because its text is too large, publishes what
is stored, closes a document, or does nothing; a request reads at most one document.  The settings
stay in all cases.  All that is proved about runs of a server comes from these two lists.

## Main definitions

* `Notification.sentText?`, `Notification.version?` — the text and the version that a client sends

## Main statements

* `Server.effect_notify` — all that a notification can do
* `Server.request_cases` — all that a request can do
* `Server.mem_publish_iff` — what is published is the document that is stored
-/

namespace KotlinAssist

/-- The text that a notification sends, and the document it is for.  Of several changes the last
counts. -/
def Notification.sentText? : Notification → Option (Uri × String)
  | .opened document => some (document.uri, document.text)
  | .changed uri _ texts => texts.getLast?.map (uri, ·)
  | .saved uri text => text.map (uri, ·)
  | .ready | .willSave _ | .closed _ => none

/-- The version that a client gives a document.  A document that is saved gets none. -/
def Notification.version? : Notification → Option Int
  | .opened document => some document.version
  | .changed _ version _ => some version
  | .ready | .willSave _ | .saved _ _ | .closed _ => none

/-- A message that is only a line of the log. -/
def Outgoing.IsLog (outgoing : Outgoing) : Prop :=
  ∃ line, outgoing = .log line

namespace Server

theorem isLog_of_mem_trace {server : Server} {message : String} {outgoing : Outgoing}
    (sent : outgoing ∈ server.trace message) : outgoing.IsLog := by
  unfold trace at sent
  split at sent
  · exact ⟨message, List.mem_singleton.mp sent⟩
  · cases sent

/-! ## Publishing -/

theorem publish_of_disabled {server : Server} (disabled : server.config.enabled = false)
    (uri : Uri) : server.publish uri = (server, []) := by
  simp [publish, disabled]

/-- Publishing reads the document, -/
theorem publish_fst {server : Server} (enabled : server.config.enabled = true) (uri : Uri) :
    (server.publish uri).1 = { server with store := (server.store.snapshot uri).1 } := by
  simp [publish, enabled]

/-- and sends the diagnostics of its text with its version. -/
theorem mem_publish_iff {server : Server} (enabled : server.config.enabled = true) (uri : Uri)
    (outgoing : Outgoing) :
    outgoing ∈ (server.publish uri).2 ↔ ∃ document, server.store.find? uri = some document ∧
      outgoing = .diagnostics uri (some document.version)
        (clientDiagnostics server.encoding document.text) := by
  simp only [publish, enabled, if_true, Store.snapshot_snd, Option.mem_toList,
    Option.map_eq_some_iff]
  simp only [eq_comm]

/-! ## Notifications -/

/-- Whether a server looks at the text that a notification sends.  One that is switched off looks
only at the texts of saved documents. -/
def heeds (server : Server) (notification : Notification) : Prop :=
  server.config.enabled = true ∨ ∃ uri text, notification = .saved uri (some text)

/-- What a notification can do: the server after it, and what is sent. -/
inductive Effect (server : Server) (notification : Notification) : Server × List Outgoing → Prop
  /-- The text is stored and published. -/
  | stored (document : Document)
      (sent : notification.sentText? = some (document.uri, document.text))
      (heeded : server.heeds notification)
      (fits : document.text.utf8ByteSize ≤ server.store.maxBytes)
      (version : document.version =
        server.store.versionAfter document.uri notification.version?) :
      Effect server notification
        (({ server with store := server.store.put document } : Server).publish document.uri)
  /-- The text is too large. -/
  | refused (uri : Uri) (text : String) (sent : notification.sentText? = some (uri, text))
      (heeded : server.heeds notification)
      (large : server.store.maxBytes < text.utf8ByteSize) :
      Effect server notification
        (server, [report ⟨uri, text.utf8ByteSize, server.store.maxBytes⟩])
  /-- What is stored is published. -/
  | published (uri : Uri) (isSave : notification = .saved uri none) :
      Effect server notification (server.publish uri)
  | closed (uri : Uri) (isClose : notification = .closed uri) :
      Effect server notification
        ({ server with store := server.store.remove uri },
          if server.config.enabled then [.diagnostics uri none []] else [])
  /-- At most a line of the log is sent. -/
  | ignored (sent : List Outgoing)
      (unheeded : notification.sentText? = none ∨ ¬ server.heeds notification)
      (logs : ∀ outgoing ∈ sent, outgoing.IsLog) :
      Effect server notification (server, sent)

/-- A text that is looked at is stored or refused, by its size. -/
theorem effect_accept {server : Server} {notification : Notification} (document : Document)
    (sent : notification.sentText? = some (document.uri, document.text))
    (heeded : server.heeds notification)
    (version : document.version = server.store.versionAfter document.uri notification.version?)
    {result : Except TooLarge Store}
    (outcome : result =
      if server.store.maxBytes < document.text.utf8ByteSize then
        .error ⟨document.uri, document.text.utf8ByteSize, server.store.maxBytes⟩
      else .ok (server.store.put document)) :
    server.Effect notification (server.accept document.uri result) := by
  subst outcome
  split
  · next large => exact .refused document.uri document.text sent heeded large
  · next fits => exact .stored document sent heeded (Nat.not_lt.mp fits) version

/-- **All that a notification can do.** -/
theorem effect_notify (server : Server) (notification : Notification) :
    server.Effect notification (server.notify notification) := by
  cases notification with
  | ready => exact .ignored _ (.inl rfl) fun _ sent => isLog_of_mem_trace sent
  | willSave uri => exact .ignored [] (.inl rfl) fun _ sent => absurd sent List.not_mem_nil
  | closed uri => exact .closed uri rfl
  | opened document =>
    simp only [notify]
    split
    · next enabled =>
      exact effect_accept ⟨document.uri, document.text,
          server.store.versionAfter document.uri (some document.version), document.language⟩
        rfl (.inl enabled) rfl (Store.openDocument_eq ..)
    · next disabled =>
      have unheeded : ¬ server.heeds (.opened document) := by simp [heeds, disabled]
      exact .ignored [] (.inr unheeded) fun _ sent => absurd sent List.not_mem_nil
  | changed uri version texts =>
    cases last : texts.getLast? with
    | none =>
      simp only [notify, last]
      have nothing : (Notification.changed uri version texts).sentText? = none := by
        simp [Notification.sentText?, last]
      exact .ignored [] (.inl nothing) fun _ sent => absurd sent List.not_mem_nil
    | some text =>
      simp only [notify, last]
      split
      · next enabled =>
        have sent : (Notification.changed uri version texts).sentText? = some (uri, text) := by
          simp [Notification.sentText?, last]
        exact effect_accept ⟨_, _, _, _⟩ sent (.inl enabled) rfl (Store.map_fst_update_eq ..)
      · next disabled =>
        have unheeded : ¬ server.heeds (.changed uri version texts) := by simp [heeds, disabled]
        exact .ignored [] (.inr unheeded) fun _ sent => absurd sent List.not_mem_nil
  | saved uri text =>
    cases text with
    | none => exact .published uri rfl
    | some text =>
      exact effect_accept ⟨_, _, _, _⟩ rfl (.inr ⟨uri, text, rfl⟩) rfl
        (Store.map_fst_update_eq ..)

/-! ## Requests -/

/-- A server that is switched on reads a document; any other leaves the store alone. -/
theorem read_fst (server : Server) (uri : Uri) :
    (server.read uri).1 =
      if server.config.enabled then { server with store := (server.store.snapshot uri).1 }
      else server := by
  unfold read
  split <;> rfl

theorem ask_of_disabled {server : Server} (disabled : server.config.enabled = false) (uri : Uri)
    (query : Query) : server.ask uri query = (server, .nothing, []) := by
  simp [ask, read, disabled]

theorem ask_fst (server : Server) (uri : Uri) (query : Query) :
    (server.ask uri query).1 = (server.read uri).1 := by
  unfold ask
  split <;> next found => rw [found]

theorem isLog_of_mem_ask {server : Server} {uri : Uri} {query : Query} {outgoing : Outgoing}
    (sent : outgoing ∈ (server.ask uri query).2.2) : outgoing.IsLog := by
  unfold ask at sent
  split at sent
  · cases sent
  · obtain ⟨line, -, logged⟩ := List.mem_flatMap.mp sent
    exact isLog_of_mem_trace logged

theorem resolve_fst (server : Server) (item : CompletionItem) :
    (server.resolve item).1 = server ∨ ∃ uri, (server.resolve item).1 = (server.read uri).1 := by
  unfold resolve
  cases item.data? with
  | none => exact .inl rfl
  | some data => exact .inr ⟨data.uri, rfl⟩

/-- **All that a request can do**: one document is read by a server that is switched on, and nothing
but lines of the log are sent besides the answer. -/
theorem request_cases (server : Server) (request : Request) :
    ((server.request request).1 = server ∨ server.config.enabled = true ∧ ∃ uri,
        (server.request request).1 = { server with store := (server.store.snapshot uri).1 }) ∧
      ∀ outgoing ∈ (server.request request).2.2, outgoing.IsLog := by
  have reads (uri : Uri) : (server.read uri).1 = server ∨ server.config.enabled = true ∧ ∃ other,
      (server.read uri).1 = { server with store := (server.store.snapshot other).1 } := by
    rw [read_fst]
    split
    · next enabled => exact .inr ⟨enabled, uri, rfl⟩
    · exact .inl rfl
  cases request with
  | query uri query =>
    refine ⟨?_, fun _ sent => isLog_of_mem_ask sent⟩
    rw [Server.request, ask_fst]
    exact reads uri
  | resolveCompletion item =>
    refine ⟨?_, fun _ sent => absurd sent List.not_mem_nil⟩
    rcases server.resolve_fst item with same | ⟨uri, read⟩
    · exact .inl same
    · simp only [Server.request, read]
      exact reads uri
  | symbols query => exact ⟨.inl rfl, fun _ sent => absurd sent List.not_mem_nil⟩
  | willSave uri => exact ⟨.inl rfl, fun _ sent => absurd sent List.not_mem_nil⟩
  | command name => exact ⟨.inl rfl, fun _ sent => absurd sent List.not_mem_nil⟩

/-! ## What stays -/

@[simp] theorem config_publish (server : Server) (uri : Uri) :
    (server.publish uri).1.config = server.config := by
  unfold publish
  split <;> rfl

/-- No message changes the settings of a server. -/
@[simp] theorem config_notify (server : Server) (notification : Notification) :
    (server.notify notification).1.config = server.config := by
  have effect := server.effect_notify notification
  generalize server.notify notification = result at effect ⊢
  cases effect <;> simp

@[simp] theorem config_request (server : Server) (request : Request) :
    (server.request request).1.config = server.config := by
  obtain ⟨same | ⟨-, uri, read⟩, -⟩ := server.request_cases request
  · rw [same]
  · rw [read]

end Server

end KotlinAssist
