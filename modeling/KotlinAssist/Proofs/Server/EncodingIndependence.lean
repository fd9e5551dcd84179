import KotlinAssist.Proofs.Diagnostic.Ranges
import KotlinAssist.Proofs.Highlight.Order
import KotlinAssist.Proofs.Server.Conversion
import KotlinAssist.Proofs.Store.Lookup
import KotlinAssist.Server.Basic

/-!
# Answers do not depend on the unit of columns

A client that counts code units and one that counts characters look at the same document.  When the
first asks the same question as the second, in its own columns, it gets the same answer, in its own
columns.  The ranges of the two answers differ by conversion, wherever they stand in them, and all
else is equal, as `Answer.Converted` says field by field; for tokens, which are sent as differences,
it is a correspondence of the tokens that the clients decode.

## Main definitions

* `Query.Inside` — the questions about places of a document
* `Server.Serves` — a server that has a document open for a client with a given unit

## Main statements

* `Query.answer_utf16` — an answer in code units is the converted answer in characters
* `answers_independent_of_encoding` — two servers with the same document and different units
-/

namespace KotlinAssist

open Text

/-! ## Answers that need no conversion -/

theorem Encoding.rangeFromChars_utf32 (document : List Line) :
    Encoding.utf32.rangeFromChars document = id := rfl

theorem Diagnostic.mapRange_id : Diagnostic.mapRange id = id := rfl

theorem TextEdit.mapRange_id : TextEdit.mapRange id = id := rfl

theorem WorkspaceEdit.mapRange_id (edit : WorkspaceEdit) : edit.mapRange id = edit := by
  obtain ⟨changes⟩ := edit
  refine congrArg mk ?_
  conv_rhs => rw [← List.map_id changes]
  refine List.map_congr_left fun change _ => ?_
  exact congrArg (Prod.mk change.1) (List.map_id change.2)

theorem CodeAction.mapRange_id (action : CodeAction) : action.mapRange id = action := by
  obtain ⟨title, kind, diagnostics, edit, isPreferred, command⟩ := action
  have sameDiagnostics : (diagnostics.map fun found => found.map (·.mapRange id)) = diagnostics := by
    cases diagnostics with
    | none => rfl
    | some found => exact congrArg some (List.map_id found)
  have sameEdit : edit.map (·.mapRange id) = edit := by
    cases edit with
    | none => rfl
    | some edit => rw [Option.map_some, WorkspaceEdit.mapRange_id]
  rw [mapRange, sameDiagnostics, sameEdit]

/-- An answer whose ranges stay as they are stays as it is. -/
theorem Answer.mapRange_id (answer : Answer) : answer.mapRange id = answer := by
  cases answer with
  | locations places => exact congrArg _ (List.map_id places)
  | outline entries => exact congrArg _ (List.map_id entries)
  | edits made => exact congrArg _ (List.map_id made)
  | actions offered =>
    simp only [mapRange, CodeAction.mapRange_id, List.map_id']
  | workspaceEdit edit => simp only [mapRange, WorkspaceEdit.mapRange_id]
  | _ => rfl

namespace Query

/-- A client that counts characters gets the answer in characters. -/
theorem answer_utf32 (uri : Uri) (text : String) (query : Query) :
    query.answer .utf32 uri text = query.answerInChars .utf32 uri text := by
  have asked : query.map (Encoding.utf32.toChars (lines text))
      (Encoding.utf32.rangeToChars (lines text)) = query := by
    cases query with
    | codeAction range diagnostics => exact congrArg _ (List.map_id diagnostics)
    | _ => rfl
  rw [answer, asked, Encoding.rangeFromChars_utf32, Answer.mapRange_id]

/-! ## Questions about places of a document -/

/-- A question about a place of the document, or about all of it.  With a request for code actions,
a client sends back diagnostics that were published to it. -/
def Inside (document : List Line) (published : List Diagnostic) : Query → Prop
  | .completion place | .hover place | .definition place | .references place
  | .prepareRename place | .rename place _ => place.Fits document
  | .codeAction _ sent => ∀ diagnostic ∈ sent, diagnostic ∈ published
  | .outline | .format | .folding => True
  | .tokens | .tokensIn _ => False

end Query

/-- Of the range for which code actions are asked, only the lines matter. -/
theorem CodeAction.all_of_lines_eq (uri : Uri) (document : List Line) {left right : Range}
    (diagnostics : List Diagnostic) (start : left.start.line = right.start.line)
    (stop : left.stop.line = right.stop.line) :
    all uri document left diagnostics = all uri document right diagnostics := by
  rw [all, all, start, stop]

namespace Query

/-- **An answer in code units is the converted answer in characters**, when the question is asked in
code units too. -/
theorem answer_utf16 (uri : Uri) {text : String}
    (short : units text.toList < Encoding.columnLimit) {query : Query}
    (inside : query.Inside (lines text) (diagnostics (lines text))) :
    (query.map (Encoding.utf16.fromChars (lines text))
        (Encoding.utf16.rangeFromChars (lines text))).answer .utf16 uri text =
      (query.answer .utf32 uri text).mapRange (Encoding.utf16.rangeFromChars (lines text)) := by
  have shortLines : ∀ line ∈ lines text, units line < Encoding.columnLimit :=
    fun line member => Nat.lt_of_le_of_lt (units_le_of_mem_splitLines member) short
  have found {place : Position} (fits : place.Fits (lines text)) :
      Encoding.utf16.toChars (lines text) (Encoding.utf16.fromChars (lines text) place) = place :=
    Encoding.utf16.toChars_fromChars shortLines fits
  rw [answer_utf32, answer]
  congr 1
  cases query with
  | completion place | hover place | definition place | references place | prepareRename place
  | rename place newName =>
    simp only [map, found inside]
    rfl
  | codeAction range sent =>
    have restored : (sent.map (·.mapRange (Encoding.utf16.rangeFromChars (lines text)))).map
        (·.mapRange (Encoding.utf16.rangeToChars (lines text))) = sent := by
      rw [List.map_map]
      conv_rhs => rw [← List.map_id sent]
      refine List.map_congr_left fun diagnostic member => ?_
      -- a published range lies in the document, so it survives the way to the client and back
      have fits := fits_of_mem_diagnostics (inside diagnostic member)
      have range := Encoding.utf16.rangeToChars_rangeFromChars shortLines fits
      simp only [Function.comp_apply, Diagnostic.mapRange, range, id_eq]
    simp only [map, answerInChars, restored]
    -- the selected range may reach behind the end of a line, but its lines are kept
    refine congrArg _ (CodeAction.all_of_lines_eq uri _ _ ?_ ?_)
    · simp [Encoding.rangeToChars, Encoding.rangeFromChars]
    · simp [Encoding.rangeToChars, Encoding.rangeFromChars]
  | outline | format | folding => rfl
  | tokens | tokensIn range => exact absurd inside id

end Query

/-! ## Code actions and the diagnostics they fix -/

/-- The diagnostics attached to the code actions are those sent for which there is a fix. -/
theorem CodeAction.diagnostics_all (uri : Uri) (document : List Line) (range : Range)
    (sent : List Diagnostic) :
    (all uri document range sent).filterMap (·.diagnostics) =
      (sent.filter fun diagnostic => (ofDiagnostic? uri document diagnostic).isSome).map
        fun diagnostic => [diagnostic] := by
  have offered : (all uri document range sent).filterMap (·.diagnostics) =
      (sent.filterMap (ofDiagnostic? uri document)).filterMap (·.diagnostics) := by
    rw [all, List.filterMap_append, List.filterMap_append]
    split <;> simp [ofCommand]
  have attached (diagnostic : Diagnostic) (action : CodeAction)
      (made : ofDiagnostic? uri document diagnostic = some action) :
      action.diagnostics = some [diagnostic] := by
    obtain ⟨fix, -, made⟩ := Option.bind_eq_some_iff.mp made
    obtain ⟨⟨title, edit⟩, -, made⟩ := Option.bind_eq_some_iff.mp made
    cases made
    rfl
  rw [offered, List.filterMap_filterMap]
  clear offered
  induction sent with
  | nil => rfl
  | cons diagnostic sent ih =>
    cases made : ofDiagnostic? uri document diagnostic with
    | none => simpa [made] using ih
    | some action => simpa [made, attached diagnostic action made] using ih

/-- The diagnostics attached to code actions are converted with them. -/
theorem CodeAction.diagnostics_of_converted {convert : Range → Range} {left right : List CodeAction}
    (same : List.Forall₂ (CodeAction.Converted convert) left right)
    {fixed : List (Diagnostic × Diagnostic)}
    (pairs : ∀ pair ∈ fixed, pair.1.Converted convert pair.2)
    (attached : left.filterMap (·.diagnostics) = fixed.map fun pair => [pair.1]) :
    right.filterMap (·.diagnostics) = fixed.map fun pair => [pair.2] := by
  have converted := congrArg (List.map (List.map (Diagnostic.mapRange convert))) attached
  rw [List.map_filterMap, List.map_map] at converted
  rw [(forall₂_iff_eq_map (CodeAction.converted_iff convert)).mp same, List.filterMap_map]
  refine converted.trans (List.map_congr_left fun pair member => ?_)
  rw [(Diagnostic.converted_iff convert _ _).mp (pairs pair member)]
  rfl

/-! ## Two servers -/

/-- A server that is switched on and has a document open, for a client with the given unit of
columns. -/
structure Server.Serves (server : Server) (encoding : Encoding) (uri : Uri) (document : Document) :
    Prop where
  unit : server.encoding = encoding
  enabled : server.config.enabled = true
  present : server.store.find? uri = some document

namespace Server.Serves

variable {server : Server} {encoding : Encoding} {uri : Uri} {document : Document}

/-- The server answers a query about the text of the document. -/
theorem ask (serves : server.Serves encoding uri document) (query : Query) :
    (server.ask uri query).2.1 = query.answer encoding uri document.text := by
  simp only [Server.ask, Server.read, if_pos serves.enabled, Store.snapshot_snd, serves.present,
    Option.map_some, serves.unit]

/-- The server publishes the diagnostics of the text of the document. -/
theorem publish (serves : server.Serves encoding uri document) :
    (server.publish uri).2 =
      [.diagnostics uri (some document.version) (clientDiagnostics encoding document.text)] := by
  simp only [Server.publish, if_pos serves.enabled, Store.snapshot_snd, serves.present,
    Option.map_some, serves.unit, Option.toList_some]

end Server.Serves

/-- Two servers with the same document answer a question, each in the columns of its client, alike
up to the conversion of ranges. -/
theorem Server.Serves.converted_ask {wide narrow : Server} {uri : Uri} {document : Document}
    (wideServes : wide.Serves .utf32 uri document)
    (narrowServes : narrow.Serves .utf16 uri document)
    (short : units document.text.toList < Encoding.columnLimit) {query : Query}
    (inside : query.Inside (lines document.text) (diagnostics (lines document.text))) :
    (wide.ask uri query).2.1.Converted (Encoding.utf16.rangeFromChars (lines document.text))
      (narrow.ask uri (query.map (Encoding.utf16.fromChars (lines document.text))
        (Encoding.utf16.rangeFromChars (lines document.text)))).2.1 := by
  rw [narrowServes.ask, wideServes.ask, Query.answer_utf16 uri short inside, Query.answer_utf32]
  exact Query.converted_answerInChars _ .utf32 uri document.text query

/-- **Answers do not depend on the unit of columns.**  Two servers have a document open, one for a
client that counts characters and one for a client that counts UTF-16 code units.  Then the
diagnostics that they publish, and their answers to the same questions, each asked in the columns of
its client, differ by the conversion of ranges only.  When each client sends back diagnostics that
were published to it, those attached to the code actions are the ones that it has sent.  Folding
regions are equal, and both clients decode the same tokens. -/
theorem answers_independent_of_encoding (wide narrow : Server) (uri : Uri) (document : Document)
    (wideServes : wide.Serves .utf32 uri document)
    (narrowServes : narrow.Serves .utf16 uri document)
    (short : units document.text.toList < Encoding.columnLimit) :
    let text := lines document.text
    let place := Encoding.utf16.fromChars text
    let range := Encoding.utf16.rangeFromChars text
    ∃ version inChars inUnits,
      (wide.publish uri).2 = [.diagnostics uri version inChars] ∧
      (narrow.publish uri).2 = [.diagnostics uri version inUnits] ∧
      List.Forall₂ (Diagnostic.Converted range) inChars inUnits ∧
      (∀ position newName, position.Fits text →
        ∀ ask ∈ [Query.completion, .hover, .definition, .references, .prepareRename,
          (.rename · newName)],
          (wide.ask uri (ask position)).2.1.Converted range
            (narrow.ask uri (ask (place position))).2.1) ∧
      (∀ query ∈ [Query.outline, .format],
        (wide.ask uri query).2.1.Converted range (narrow.ask uri query).2.1) ∧
      (∀ selected, ∀ sent ⊆ inChars.zip inUnits,
        let fixed := sent.filter fun diagnostic =>
          (CodeAction.ofDiagnostic? uri text diagnostic.1).isSome
        ∃ left right,
          (wide.ask uri (.codeAction selected (sent.map Prod.fst))).2.1 = .actions left ∧
          (narrow.ask uri (.codeAction (range selected) (sent.map Prod.snd))).2.1 =
            .actions right ∧
          List.Forall₂ (CodeAction.Converted range) left right ∧
          left.filterMap (·.diagnostics) = fixed.map (fun diagnostic => [diagnostic.1]) ∧
          right.filterMap (·.diagnostics) = fixed.map fun diagnostic => [diagnostic.2]) ∧
      (narrow.ask uri .folding).2.1 = (wide.ask uri .folding).2.1 ∧
      (∃ left right,
        (wide.ask uri .tokens).2.1 = .tokens left ∧
        (narrow.ask uri .tokens).2.1 = .tokens right ∧
        List.Forall₂ (Token.Corresponds text) (Token.decode left 0) (Token.decode right 0)) ∧
      ∀ asked, ∃ left right,
        (wide.ask uri (.tokensIn asked)).2.1 = .tokens left ∧
        (narrow.ask uri (.tokensIn (range asked))).2.1 = .tokens right ∧
        List.Forall₂ (Token.Corresponds text) (Token.decode left asked.start.line)
          (Token.decode right asked.start.line) := by
  intro text place range
  have sameFinding (found : List Diagnostic) :
      List.Forall₂ (Diagnostic.Converted range) found (found.map (·.mapRange range)) :=
    (forall₂_iff_eq_map (Diagnostic.converted_iff range)).mpr rfl
  have asked (query : Query) (inside : query.Inside text (diagnostics text)) :
      (wide.ask uri query).2.1.Converted range
        (narrow.ask uri (query.map place range)).2.1 :=
    wideServes.converted_ask narrowServes short inside
  refine ⟨some document.version, diagnostics text, _, ?_, narrowServes.publish,
    sameFinding _, ?_, ?_, ?_, ?_, ?_, ?_⟩
  · rw [wideServes.publish, Server.clientDiagnostics]
    exact congrArg (fun found => [Outgoing.diagnostics uri _ found]) (List.map_id _)
  · intro position newName fits
    simp only [List.forall_mem_cons, List.not_mem_nil, false_imp_iff, implies_true, and_true]
    exact ⟨asked (.completion position) fits, asked (.hover position) fits,
      asked (.definition position) fits, asked (.references position) fits,
      asked (.prepareRename position) fits, asked (.rename position newName) fits⟩
  · simp only [List.forall_mem_cons, List.not_mem_nil, false_imp_iff, implies_true, and_true]
    exact ⟨asked .outline trivial, asked .format trivial⟩
  · intro selected sent published fixed
    have converted (pair : Diagnostic × Diagnostic) (member : pair ∈ sent) :
        pair.1.Converted range pair.2 :=
      List.forall₂_zip (sameFinding _) (published member)
    have sentInUnits : sent.map Prod.snd = (sent.map Prod.fst).map (·.mapRange range) := by
      rw [List.map_map]
      exact List.map_congr_left fun pair member =>
        (Diagnostic.converted_iff range _ _).mp (converted pair member)
    have known : ∀ diagnostic ∈ sent.map Prod.fst, diagnostic ∈ diagnostics text := by
      intro diagnostic member
      obtain ⟨pair, among, rfl⟩ := List.mem_map.mp member
      exact (List.of_mem_zip (published among)).1
    have inChars : (wide.ask uri (.codeAction selected (sent.map Prod.fst))).2.1 =
        .actions (CodeAction.all uri text selected (sent.map Prod.fst)) := by
      rw [wideServes.ask, Query.answer_utf32]
      rfl
    have inUnits := asked (.codeAction selected (sent.map Prod.fst)) known
    rw [inChars, Query.map, ← sentInUnits] at inUnits
    obtain ⟨right, answer, same⟩ := inUnits.of_actions
    have attached := CodeAction.diagnostics_all uri text selected (sent.map Prod.fst)
    rw [List.filter_map, List.map_map] at attached
    refine ⟨_, right, inChars, answer, same, attached, ?_⟩
    exact CodeAction.diagnostics_of_converted same
      (fun pair member => converted pair (List.mem_of_mem_filter member)) attached
  · rw [narrowServes.ask, wideServes.ask]
    rfl
  · refine ⟨Token.full .utf32 text, Token.full .utf16 text, wideServes.ask .tokens,
      narrowServes.ask .tokens, ?_⟩
    rw [Token.decode_full, Token.decode_full]
    exact Token.forall₂_corresponds fun _ member => member
  · intro selected
    refine ⟨Token.inRange .utf32 text selected, Token.inRange .utf16 text selected,
      wideServes.ask (.tokensIn selected), ?_, ?_⟩
    · rw [narrowServes.ask]
      refine congrArg Answer.tokens (Token.inRange_of_lines_eq .utf16 text ?_ ?_)
      · exact Encoding.line_fromChars .utf16 text selected.start
      · exact Encoding.line_fromChars .utf16 text selected.stop
    · rw [Token.decode_inRange, Token.decode_inRange]
      exact Token.forall₂_corresponds fun _ member => List.mem_of_mem_filter member

/-- Behind a character of two code units, the edits that rename a word move by one column. -/
theorem answers_independent_of_encoding_astral :
    let uri := "file:///a.kt"
    let document : Document := ⟨uri, "😀ab ab", 1, "kotlin"⟩
    let wide := ((({} : Server).start none (some ["utf-32"])).notify (.opened document)).1
    let narrow := ((({} : Server).start none none).notify (.opened document)).1
    wide.Serves .utf32 uri document ∧ narrow.Serves .utf16 uri document ∧
      units document.text.toList < Encoding.columnLimit ∧
      (wide.ask uri (.rename ⟨0, 1⟩ "c")).2.1 =
        .workspaceEdit ⟨[(uri, [⟨.onLine 0 1 3, "c"⟩, ⟨.onLine 0 4 6, "c"⟩])]⟩ ∧
      (narrow.ask uri (.rename ⟨0, 2⟩ "c")).2.1 =
        .workspaceEdit ⟨[(uri, [⟨.onLine 0 2 4, "c"⟩, ⟨.onLine 0 5 7, "c"⟩])]⟩ := by
  intro uri document wide narrow
  have wideServes : wide.Serves .utf32 uri document := ⟨by decide, by decide, by decide⟩
  have narrowServes : narrow.Serves .utf16 uri document := ⟨by decide, by decide, by decide⟩
  have short : units document.text.toList < Encoding.columnLimit := by decide
  obtain ⟨version, inChars, inUnits, -, -, -, atPosition, -⟩ :=
    answers_independent_of_encoding wide narrow uri document wideServes narrowServes short
  have fits : (⟨0, 1⟩ : Position).Fits (lines document.text) := by decide
  have renamed : rename? uri (lines document.text) ⟨0, 1⟩ "c" =
      some ⟨[(uri, [⟨.onLine 0 1 3, "c"⟩, ⟨.onLine 0 4 6, "c"⟩])]⟩ := by decide +kernel
  have answer : (wide.ask uri (.rename ⟨0, 1⟩ "c")).2.1 =
      .workspaceEdit ⟨[(uri, [⟨.onLine 0 1 3, "c"⟩, ⟨.onLine 0 4 6, "c"⟩])]⟩ := by
    rw [wideServes.ask, Query.answer_utf32, Query.answerInChars, renamed]
    rfl
  have converted := atPosition ⟨0, 1⟩ "c" fits (.rename · "c") (by simp)
  have place : Encoding.utf16.fromChars (lines document.text) ⟨0, 1⟩ = ⟨0, 2⟩ := by decide
  rw [place, answer] at converted
  refine ⟨wideServes, narrowServes, short, answer, converted.eq_mapRange.trans ?_⟩
  have first : Encoding.utf16.rangeFromChars (lines document.text) (.onLine 0 1 3) =
      .onLine 0 2 4 := by decide
  have second : Encoding.utf16.rangeFromChars (lines document.text) (.onLine 0 4 6) =
      .onLine 0 5 7 := by decide
  simp only [Answer.mapRange, WorkspaceEdit.mapRange, TextEdit.mapRange, List.map_cons,
    List.map_nil, first, second]

end KotlinAssist
