import KotlinAssist.Proofs.Session.Run

/-!
# Servers that are switched off

A client can switch the server off when it starts it.  Such a server never sends diagnostics and has
no answer to any question about a document.  It stores nothing and reports nothing either, with one
exception: the text that comes along with a saved document is stored, or reported when it is too
large, as if the server were switched on.

## Main definitions

* `Message.savesText` — whether a message brings the text of a saved document

## Main statements

* `Session.SwitchedOff.handle` — a server that is switched off stays so
* `switched_off_server_inert_iff` — what such a server does, and when it does nothing at all
* `switched_off_server_stores_saved_text` — the exception
-/

namespace KotlinAssist

/-- Whether a message brings the text of a saved document. -/
def Message.savesText (message : Message) : Bool :=
  match message.event? with
  | some (.told (.saved _ (some _))) => true
  | _ => false

theorem Message.savesText_iff (message : Message) :
    message.savesText = true ↔ ∃ uri text, message.event? = some (.told (.saved uri (some text))) := by
  unfold savesText
  split
  · next uri text read => simp [read]
  · next other =>
    simp only [Bool.false_eq_true, false_iff, not_exists]
    exact fun uri text read => other uri text read

namespace Server

variable {server : Server}

/-! ## Notifications -/

/-- A server that is switched off sends no diagnostics. -/
theorem not_diagnostics_of_disabled (disabled : server.config.enabled = false)
    (notification : Notification) (uri : Uri) (version : Option Int) (found : List Diagnostic) :
    .diagnostics uri version found ∉ (server.notify notification).2 := by
  have effect := server.effect_notify notification
  generalize server.notify notification = result at effect ⊢
  intro sent
  cases effect with
  | stored document =>
    rw [publish_of_disabled (by exact disabled)] at sent
    cases sent
  | refused uri text => cases List.mem_singleton.mp sent
  | published uri =>
    rw [publish_of_disabled disabled] at sent
    cases sent
  | closed uri =>
    rw [disabled] at sent
    cases sent
  | ignored messages _ logs =>
    obtain ⟨line, isLog⟩ := logs _ sent
    cases isLog

/-- Only the text of a saved document has an effect on a server that is switched off. -/
theorem quiet_of_disabled (disabled : server.config.enabled = false)
    (empty : server.store.documents = []) {notification : Notification}
    (noText : ∀ uri text, notification ≠ .saved uri (some text)) :
    (server.notify notification).1.store.documents = [] ∧
      ∀ text, .alert text ∉ (server.notify notification).2 := by
  have unheeded : ¬ server.heeds notification := by
    rintro (enabled | ⟨uri, text, isSave⟩)
    · rw [disabled] at enabled
      cases enabled
    · exact noText uri text isSave
  have effect := server.effect_notify notification
  generalize server.notify notification = result at effect ⊢
  cases effect with
  | stored document _ heeded => exact absurd heeded unheeded
  | refused uri text _ heeded => exact absurd heeded unheeded
  | published uri =>
    rw [publish_of_disabled disabled]
    exact ⟨empty, fun _ => List.not_mem_nil⟩
  | closed uri =>
    refine ⟨by simp [Store.remove, empty], fun text => ?_⟩
    rw [disabled]
    exact List.not_mem_nil
  | ignored messages _ logs =>
    refine ⟨empty, fun text sent => ?_⟩
    obtain ⟨line, isLog⟩ := logs _ sent
    cases isLog

/-- The text of a saved document is stored, or reported when it is too large. -/
theorem not_quiet_of_saved_text (disabled : server.config.enabled = false) (uri : Uri)
    (text : String) :
    uri ∈ (server.notify (.saved uri (some text))).1.store.uris ∨
      ∃ line, .alert line ∈ (server.notify (.saved uri (some text))).2 := by
  have heeded : server.heeds (.saved uri (some text)) := .inr ⟨uri, text, rfl⟩
  have effect := server.effect_notify (.saved uri (some text))
  generalize server.notify (.saved uri (some text)) = result at effect ⊢
  cases effect with
  | stored document sent =>
    cases sent
    rw [publish_of_disabled (by exact disabled)]
    exact .inl (List.mem_map_of_mem (server.store.mem_documents_put_self document))
  | refused other long => exact .inr ⟨_, List.mem_singleton_self _⟩
  | published other isSave => cases isSave
  | closed other isClose => cases isClose
  | ignored messages unheeded =>
    rcases unheeded with nothing | unheeded
    · cases nothing
    · exact absurd heeded unheeded

end Server

/-! ## Whole sessions -/

namespace Session

/-- A session has begun with a server that is switched off. -/
structure SwitchedOff (session : Session) : Prop where
  begun : session.phase ≠ .fresh
  disabled : session.server.config.enabled = false

/-- No message switches a server on. -/
theorem SwitchedOff.handle {session : Session} (off : session.SwitchedOff) (message : Message) :
    (session.handle message).1.SwitchedOff where
  begun := begun_handle off.begun message
  disabled := by
    rw [config_handle off.begun message]
    exact off.disabled

variable {session : Session} (off : session.SwitchedOff)

include off

theorem SwitchedOff.not_diagnostics (message : Message) (uri : Uri) (version : Option Int)
    (found : List Diagnostic) : .diagnostics uri version found ∉ (session.handle message).2.2 := by
  obtain ⟨running, notification, -, told⟩ | ⟨running, request, -, answered⟩ | passes :=
    handle_cases off.begun message
  · rw [told]
    exact Server.not_diagnostics_of_disabled off.disabled notification uri version found
  · rw [answered]
    intro sent
    obtain ⟨line, isLog⟩ := (session.server.request_cases request).2 _ sent
    cases isLog
  · rw [passes.sent]
    exact List.not_mem_nil

/-- A message that brings no text of a saved document leaves an empty store empty, and no report is
sent. -/
theorem SwitchedOff.quiet (empty : session.server.store.documents = []) {message : Message}
    (noText : session.phase = .running → message.savesText = false) :
    (session.handle message).1.server.store.documents = [] ∧
      ∀ text, .alert text ∉ (session.handle message).2.2 := by
  obtain ⟨running, notification, read, told⟩ | ⟨running, request, -, answered⟩ | passes :=
    handle_cases off.begun message
  · rw [told]
    refine Server.quiet_of_disabled off.disabled empty ?_
    rintro uri text rfl
    have saves := (message.savesText_iff).mpr ⟨uri, text, read⟩
    rw [noText running] at saves
    cases saves
  · obtain ⟨same | ⟨enabled, -⟩, logs⟩ := session.server.request_cases request
    · rw [answered]
      constructor
      · show (session.server.request request).1.store.documents = []
        rw [same]
        exact empty
      · intro text sent
        obtain ⟨line, isLog⟩ := logs _ sent
        cases isLog
    · rw [off.disabled] at enabled
      cases enabled
  · rw [passes.server, passes.sent]
    exact ⟨empty, fun _ => List.not_mem_nil⟩

/-- One that does is stored, or reported. -/
theorem SwitchedOff.not_quiet {message : Message} (running : session.phase = .running)
    (saves : message.savesText = true) :
    (session.handle message).1.server.store.documents ≠ [] ∨
      ∃ line, .alert line ∈ (session.handle message).2.2 := by
  obtain ⟨uri, text, read⟩ := (message.savesText_iff).mp saves
  rw [handle_told running read]
  rcases Server.not_quiet_of_saved_text off.disabled uri text with stored | reported
  · left
    intro empty
    rw [Store.uris, empty] at stored
    cases stored
  · exact .inr reported

variable {messages : List Message}

theorem SwitchedOff.of_mem_steps {met : Session} {message : Message}
    (visited : (met, message) ∈ session.steps messages) : met.SwitchedOff := by
  refine And.left (forall_visits _ off ?_) met message visited
  intro met message _ metOff
  exact metOff.handle message

/-- A store that is empty at first is empty as long as no text of a saved document comes. -/
theorem SwitchedOff.empty_of_mem_steps (empty : session.server.store.documents = [])
    (noText : ∀ met message, (met, message) ∈ session.steps messages → met.phase = .running →
      message.savesText = false) :
    ∀ met message, (met, message) ∈ session.steps messages →
      met.server.store.documents = [] := by
  refine And.left (forall_visits _ empty ?_)
  intro met message visited stillEmpty
  exact ((off.of_mem_steps visited).quiet stillEmpty (noText met message visited)).1

omit off

/-- The settings of the first message decide, and no document is open then. -/
theorem switchedOff_started (maxDocuments maxBytes : Nat) {hello : Json} {options : Option Json}
    {encodings : Option (List String)} {config : Config}
    (readHello : Params.start? hello = some (options, encodings))
    (settings : Config.ofOptions options = .ok config) (disabled : config.enabled = false) :
    (started maxDocuments maxBytes hello).SwitchedOff ∧
      (started maxDocuments maxBytes hello).server.store.documents = [] := by
  rw [started_eq maxDocuments maxBytes readHello]
  refine ⟨⟨?_, ?_⟩, rfl⟩
  · intro fresh
    cases fresh
  · simp [Server.start, settings, Except.toOption, disabled]

end Session

/-- **What a server does that is switched off.**  In every session that switches the server off, no
message makes it send diagnostics, and every question about a document is answered with `null`.  The
store stays empty and nothing is reported as too large throughout the session if and only if no
message brings the text of a saved document. -/
theorem switched_off_server_inert_iff (maxDocuments maxBytes : Nat) (hello : Json)
    (options : Option Json) (encodings : Option (List String)) (config : Config)
    (readHello : Params.start? hello = some (options, encodings))
    (settings : Config.ofOptions options = .ok config) (disabled : config.enabled = false)
    (messages : List Message) :
    let steps := (Session.started maxDocuments maxBytes hello).steps messages
    (∀ met message, (met, message) ∈ steps →
      (∀ uri version found, .diagnostics uri version found ∉ (met.handle message).2.2) ∧
      ∀ uri query, met.phase = .running → message.event? = some (.asked uri query) →
        (met.handle message).2.1 = .result .null) ∧
    ((∀ met message, (met, message) ∈ steps →
        (met.handle message).1.server.store.documents = [] ∧
        ∀ text, .alert text ∉ (met.handle message).2.2) ↔
      ∀ met message, (met, message) ∈ steps → met.phase = .running →
        message.savesText = false) := by
  intro steps
  obtain ⟨off, empty⟩ :=
    Session.switchedOff_started maxDocuments maxBytes readHello settings disabled
  refine ⟨?_, ?_, ?_⟩
  · intro met message visited
    have metOff := off.of_mem_steps visited
    refine ⟨metOff.not_diagnostics message, ?_⟩
    intro uri query running read
    rw [Session.handle_asked running read, Server.ask_of_disabled metOff.disabled]
    rfl
  · intro quiet met message visited running
    obtain ⟨stillEmpty, silent⟩ := quiet met message visited
    by_contra saves
    rcases (off.of_mem_steps visited).not_quiet running (by simpa using saves) with
      stored | ⟨line, reported⟩
    · exact stored stillEmpty
    · exact silent line reported
  · intro noText met message visited
    have stillEmpty := off.empty_of_mem_steps empty noText met message visited
    exact (off.of_mem_steps visited).quiet stillEmpty (noText met message visited)

/-- A document that is opened, saved without its text and asked about is not stored, and there is no
answer. -/
theorem switched_off_server_inert_iff_at_save_without_text :
    let named : String × Json := ("uri", .str "file:///a.kt")
    let opened : Message := .notify "textDocument/didOpen" (some (.obj
      [("textDocument", .obj [named, ("languageId", .str "kotlin"), ("version", .int 1),
        ("text", .str "val a")])]))
    let saved : Message := .notify "textDocument/didSave" (some (.obj
      [("textDocument", .obj [named])]))
    let asked : Message := .request "textDocument/documentSymbol" (some (.obj
      [("textDocument", .obj [named])]))
    let hello : Json := .obj
      [("capabilities", .obj []), ("initializationOptions", .obj [("enabled", .bool false)])]
    let start := Session.started 1 5 hello
    ((start.after [opened, saved]).handle asked).2.1 = .result .null ∧
      ∀ met message, (met, message) ∈ start.steps [opened, saved, asked] →
        (met.handle message).1.server.store.documents = [] ∧
          ∀ text, .alert text ∉ (met.handle message).2.2 := by
  intro named opened saved asked hello start
  have readOpened : opened.event? =
      some (.told (.opened ⟨"file:///a.kt", "val a", 1, "kotlin"⟩)) := rfl
  have readSaved : saved.event? = some (.told (.saved "file:///a.kt" none)) := rfl
  have readAsked : asked.event? = some (.asked "file:///a.kt" .outline) := rfl
  have running : (start.after [opened, saved]).phase = .running :=
    Session.running_handle (Session.running_handle rfl readOpened) readSaved
  have noText : ∀ met message, (met, message) ∈ start.steps [opened, saved, asked] →
      met.phase = .running → message.savesText = false := by
    intro met message visited _
    simp only [Session.steps, visits, List.mem_cons, List.not_mem_nil, or_false,
      Prod.mk.injEq] at visited
    obtain ⟨-, rfl⟩ | ⟨-, rfl⟩ | ⟨-, rfl⟩ := visited
    · simp [Message.savesText, readOpened]
    · simp [Message.savesText, readSaved]
    · simp [Message.savesText, readAsked]
  obtain ⟨unanswered, inert⟩ := switched_off_server_inert_iff 1 5 hello
    (some (.obj [("enabled", .bool false)])) none { enabled := false } rfl rfl rfl
    [opened, saved, asked]
  have visited : (start.after [opened, saved], asked) ∈ start.steps [opened, saved, asked] :=
    (mem_visits_iff _).mpr ⟨[opened, saved], [], rfl, rfl⟩
  exact ⟨(unanswered _ _ visited).2 _ _ running readAsked, inert.mpr noText⟩

/-- A text that comes along with a saved document is stored although the server is switched off, and
one that is too large is reported. -/
theorem switched_off_server_stores_saved_text :
    let saved (text : String) : Message := .notify "textDocument/didSave" (some (.obj
      [("textDocument", .obj [("uri", .str "file:///a.kt")]), ("text", .str text)]))
    let hello : Json := .obj
      [("capabilities", .obj []), ("initializationOptions", .obj [("enabled", .bool false)])]
    let start := Session.started 1 5 hello
    start.server.config.enabled = false ∧
      (start.handle (saved "val a")).1.server.store.uris = ["file:///a.kt"] ∧
      ∃ line, (start.handle (saved "val abc")).2.2 = [.alert line] := by
  intro saved hello start
  have readSmall : (saved "val a").event? =
      some (.told (.saved "file:///a.kt" (some "val a"))) := rfl
  have readLarge : (saved "val abc").event? =
      some (.told (.saved "file:///a.kt" (some "val abc"))) := rfl
  have readHello : Params.start? hello =
      some (some (.obj [("enabled", .bool false)]), none) := rfl
  have started : start = _ := Session.started_eq 1 5 readHello
  have running : start.phase = .running := by rw [started]
  rw [Session.handle_told running readSmall, Session.handle_told running readLarge, started]
  exact ⟨rfl, rfl, _, rfl⟩

end KotlinAssist
