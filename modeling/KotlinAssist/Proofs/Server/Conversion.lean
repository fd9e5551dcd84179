import KotlinAssist.Server.Query
import Mathlib.Data.List.Forall2

/-!
# Questions and answers in other columns

Positions and ranges stand deep inside of questions and answers: a code action has the edits of
several documents, each of them a list of edits with a range each, and it repeats the diagnostics
that it fixes, which have ranges too.  Here the same question and the same answer in other columns
are described field by field.  What is a range is converted, and what is none stays, without a word
about how a server goes through its answers; that the server of this library converts its answers in
this way, leaving out no field, is what has to be proved.

Nothing is left open by the description: an answer has only one converted form.

## Main definitions

* `Query.Converted` — two questions that differ by the conversion of positions and ranges
* `Answer.Converted` — two answers that differ by the conversion of ranges
* `Query.AnsweredBy` — an answer to a client, described through the answer in characters

## Main statements

* `Query.converted_map`, `Query.converted_answerInChars` — what the server converts
* `Answer.Converted.eq_mapRange` — an answer has one converted form
* `Query.answeredBy_answer` — the answers of the server are as described
-/

namespace KotlinAssist

open Text

/-! ## Lists and options -/

/-- Two lists are related by a function if it gives the members of one from those of the other. -/
theorem forall₂_iff_eq_map {α β : Type} {related : α → β → Prop} {change : α → β}
    (each : ∀ left right, related left right ↔ right = change left) {left : List α}
    {right : List β} : List.Forall₂ related left right ↔ right = left.map change := by
  have same : related = fun left right => change left = right := by
    funext left right
    exact propext ((each left right).trans eq_comm)
  rw [same, ← List.forall₂_map_left_iff, List.forall₂_eq_eq_eq, eq_comm]

theorem rel_iff_eq_map {α β : Type} {related : α → β → Prop} {change : α → β}
    (each : ∀ left right, related left right ↔ right = change left) {left : Option α}
    {right : Option β} : Option.Rel related left right ↔ right = left.map change := by
  cases left <;> cases right <;> simp [each]

/-! ## Values with ranges -/

section Values

variable (place : Position → Position) (convert : Range → Range)

/-- The same diagnostic with its range converted. -/
structure Diagnostic.Converted (left right : Diagnostic) : Prop where
  range : right.range = convert left.range
  severity : right.severity = left.severity
  code : right.code = left.code
  source : right.source = left.source
  message : right.message = left.message
  data : right.data = left.data
  carried : right.carried = left.carried

/-- The same hover text with its range converted. -/
structure Hover.Converted (left right : Hover) : Prop where
  value : right.value = left.value
  range : right.range = convert left.range

/-- The same location with its range converted. -/
structure Location.Converted (left right : Location) : Prop where
  uri : right.uri = left.uri
  range : right.range = convert left.range

/-- The same entry of an outline with both ranges converted. -/
structure DocumentSymbol.Converted (left right : DocumentSymbol) : Prop where
  name : right.name = left.name
  detail : right.detail = left.detail
  kind : right.kind = left.kind
  range : right.range = convert left.range
  selection : right.selection = convert left.selection

/-- The same edit with its range converted. -/
structure TextEdit.Converted (left right : TextEdit) : Prop where
  range : right.range = convert left.range
  newText : right.newText = left.newText

/-- The edits of the same documents, in the same order, with the range of each edit converted. -/
structure WorkspaceEdit.Converted (left right : WorkspaceEdit) : Prop where
  changes : List.Forall₂ (fun left right =>
    right.1 = left.1 ∧ List.Forall₂ (TextEdit.Converted convert) left.2 right.2)
    left.changes right.changes

/-- The same code action with the ranges converted in the diagnostics that it fixes and in the edits
that it makes. -/
structure CodeAction.Converted (left right : CodeAction) : Prop where
  title : right.title = left.title
  kind : right.kind = left.kind
  diagnostics : Option.Rel (List.Forall₂ (Diagnostic.Converted convert)) left.diagnostics
    right.diagnostics
  edit : Option.Rel (WorkspaceEdit.Converted convert) left.edit right.edit
  isPreferred : right.isPreferred = left.isPreferred
  command : right.command = left.command

/-- The same word to be renamed with its range converted. -/
structure RenameTarget.Converted (left right : RenameTarget) : Prop where
  range : right.range = convert left.range
  placeholder : right.placeholder = left.placeholder

/-- The same answer about a document with every range converted.  Completions and folding regions
have no columns, and tokens are put in the columns of the client before they become differences. -/
inductive Answer.Converted : Answer → Answer → Prop
  | nothing : Converted .nothing .nothing
  | completions (items : List CompletionItem) : Converted (.completions items) (.completions items)
  | hover {left right : Hover} (same : left.Converted convert right) :
    Converted (.hover left) (.hover right)
  | location {left right : Location} (same : left.Converted convert right) :
    Converted (.location left) (.location right)
  | locations {left right : List Location}
    (same : List.Forall₂ (Location.Converted convert) left right) :
    Converted (.locations left) (.locations right)
  | outline {left right : List DocumentSymbol}
    (same : List.Forall₂ (DocumentSymbol.Converted convert) left right) :
    Converted (.outline left) (.outline right)
  | actions {left right : List CodeAction}
    (same : List.Forall₂ (CodeAction.Converted convert) left right) :
    Converted (.actions left) (.actions right)
  | edits {left right : List TextEdit}
    (same : List.Forall₂ (TextEdit.Converted convert) left right) :
    Converted (.edits left) (.edits right)
  | renameTarget {left right : RenameTarget} (same : left.Converted convert right) :
    Converted (.renameTarget left) (.renameTarget right)
  | workspaceEdit {left right : WorkspaceEdit} (same : left.Converted convert right) :
    Converted (.workspaceEdit left) (.workspaceEdit right)
  | folds (ranges : List FoldingRange) : Converted (.folds ranges) (.folds ranges)
  | tokens (tokens : List DeltaToken) : Converted (.tokens tokens) (.tokens tokens)

/-- The same question with its position or range converted, and with the diagnostics that come with
it.  Tokens are asked for by lines, which stay. -/
inductive Query.Converted : Query → Query → Prop
  | completion (position : Position) :
    Converted (.completion position) (.completion (place position))
  | hover (position : Position) : Converted (.hover position) (.hover (place position))
  | definition (position : Position) :
    Converted (.definition position) (.definition (place position))
  | references (position : Position) :
    Converted (.references position) (.references (place position))
  | outline : Converted .outline .outline
  | codeAction (range : Range) {left right : List Diagnostic}
    (same : List.Forall₂ (Diagnostic.Converted convert) left right) :
    Converted (.codeAction range left) (.codeAction (convert range) right)
  | format : Converted .format .format
  | prepareRename (position : Position) :
    Converted (.prepareRename position) (.prepareRename (place position))
  | rename (position : Position) (newName : String) :
    Converted (.rename position newName) (.rename (place position) newName)
  | folding : Converted .folding .folding
  | tokens : Converted .tokens .tokens
  | tokensIn (range : Range) : Converted (.tokensIn range) (.tokensIn range)

variable {convert}

/-- Code actions are converted one by one. -/
theorem Answer.Converted.of_actions {left : List CodeAction} {answer : Answer}
    (same : (Answer.actions left).Converted convert answer) :
    ∃ right, answer = .actions right ∧ List.Forall₂ (CodeAction.Converted convert) left right := by
  cases same with
  | actions same => exact ⟨_, rfl, same⟩

end Values

/-! ## What the server converts -/

section Server

variable (convert : Range → Range)

theorem Diagnostic.converted_iff (left right : Diagnostic) :
    left.Converted convert right ↔ right = left.mapRange convert := by
  constructor
  · rintro ⟨range, severity, code, source, message, data, carried⟩
    rw [mapRange, ← range, ← severity, ← code, ← source, ← message, ← data, ← carried]
  · rintro rfl
    exact ⟨rfl, rfl, rfl, rfl, rfl, rfl, rfl⟩

theorem Hover.converted_iff (left right : Hover) :
    left.Converted convert right ↔ right = left.mapRange convert := by
  constructor
  · rintro ⟨value, range⟩
    rw [mapRange, ← value, ← range]
  · rintro rfl
    exact ⟨rfl, rfl⟩

theorem Location.converted_iff (left right : Location) :
    left.Converted convert right ↔ right = left.mapRange convert := by
  constructor
  · rintro ⟨uri, range⟩
    rw [mapRange, ← uri, ← range]
  · rintro rfl
    exact ⟨rfl, rfl⟩

theorem DocumentSymbol.converted_iff (left right : DocumentSymbol) :
    left.Converted convert right ↔ right = left.mapRange convert := by
  constructor
  · rintro ⟨name, detail, kind, range, selection⟩
    rw [mapRange, ← name, ← detail, ← kind, ← range, ← selection]
  · rintro rfl
    exact ⟨rfl, rfl, rfl, rfl, rfl⟩

theorem TextEdit.converted_iff (left right : TextEdit) :
    left.Converted convert right ↔ right = left.mapRange convert := by
  constructor
  · rintro ⟨range, newText⟩
    rw [mapRange, ← range, ← newText]
  · rintro rfl
    exact ⟨rfl, rfl⟩

theorem RenameTarget.converted_iff (left right : RenameTarget) :
    left.Converted convert right ↔ right = left.mapRange convert := by
  constructor
  · rintro ⟨range, placeholder⟩
    rw [mapRange, ← range, ← placeholder]
  · rintro rfl
    exact ⟨rfl, rfl⟩

theorem WorkspaceEdit.converted_iff (left right : WorkspaceEdit) :
    left.Converted convert right ↔ right = left.mapRange convert := by
  have each (left right : Uri × List TextEdit) :
      right.1 = left.1 ∧ List.Forall₂ (TextEdit.Converted convert) left.2 right.2 ↔
        right = (left.1, left.2.map (·.mapRange convert)) := by
    rw [forall₂_iff_eq_map (TextEdit.converted_iff convert), Prod.ext_iff]
  obtain ⟨changes⟩ := right
  constructor
  · rintro ⟨same⟩
    exact congrArg mk ((forall₂_iff_eq_map each).mp same)
  · intro same
    exact ⟨(forall₂_iff_eq_map each).mpr (congrArg WorkspaceEdit.changes same)⟩

theorem CodeAction.converted_iff (left right : CodeAction) :
    left.Converted convert right ↔ right = left.mapRange convert := by
  have diagnostics (left right : List Diagnostic) :
      List.Forall₂ (Diagnostic.Converted convert) left right ↔
        right = left.map (·.mapRange convert) :=
    forall₂_iff_eq_map (Diagnostic.converted_iff convert)
  have edits := WorkspaceEdit.converted_iff convert
  constructor
  · rintro ⟨title, kind, attached, made, isPreferred, command⟩
    rw [rel_iff_eq_map diagnostics] at attached
    rw [rel_iff_eq_map edits] at made
    rw [mapRange, ← title, ← kind, ← attached, ← made, ← isPreferred, ← command]
  · rintro rfl
    exact ⟨rfl, rfl, (rel_iff_eq_map diagnostics).mpr rfl, (rel_iff_eq_map edits).mpr rfl, rfl, rfl⟩

/-- **An answer has one converted form**, which is that of the server. -/
theorem Answer.Converted.eq_mapRange {convert : Range → Range} {left right : Answer}
    (same : left.Converted convert right) : right = left.mapRange convert := by
  cases same with
  | nothing | completions | folds | tokens => rfl
  | hover same => exact congrArg _ ((Hover.converted_iff _ _ _).mp same)
  | location same => exact congrArg _ ((Location.converted_iff _ _ _).mp same)
  | renameTarget same => exact congrArg _ ((RenameTarget.converted_iff _ _ _).mp same)
  | workspaceEdit same => exact congrArg _ ((WorkspaceEdit.converted_iff _ _ _).mp same)
  | locations same =>
    exact congrArg _ ((forall₂_iff_eq_map (Location.converted_iff convert)).mp same)
  | outline same =>
    exact congrArg _ ((forall₂_iff_eq_map (DocumentSymbol.converted_iff convert)).mp same)
  | actions same =>
    exact congrArg _ ((forall₂_iff_eq_map (CodeAction.converted_iff convert)).mp same)
  | edits same =>
    exact congrArg _ ((forall₂_iff_eq_map (TextEdit.converted_iff convert)).mp same)

namespace Query

/-- An answer that may be missing is converted if it is converted when it is there. -/
theorem converted_orNothing {α : Type} {answer : α → Answer}
    (each : ∀ value, (answer value).Converted convert ((answer value).mapRange convert))
    (value : Option α) :
    (orNothing answer value).Converted convert ((orNothing answer value).mapRange convert) := by
  cases value with
  | none => exact .nothing
  | some value => exact each value

/-- **The server converts its answers**: each feature gives an answer of a kind of its own, and no
range in it is left out. -/
theorem converted_answerInChars (encoding : Encoding) (uri : Uri) (text : String)
    (query : Query) :
    (query.answerInChars encoding uri text).Converted convert
      ((query.answerInChars encoding uri text).mapRange convert) := by
  unfold answerInChars
  cases query with
  | completion | folding | tokens | tokensIn => constructor
  | hover =>
    exact converted_orNothing _ (fun _ => .hover ((Hover.converted_iff _ _ _).mpr rfl)) _
  | definition =>
    refine converted_orNothing _ (fun _ => .location ?_) _
    exact (Location.converted_iff _ _ _).mpr rfl
  | references =>
    exact .locations ((forall₂_iff_eq_map (Location.converted_iff convert)).mpr rfl)
  | outline =>
    exact .outline ((forall₂_iff_eq_map (DocumentSymbol.converted_iff convert)).mpr rfl)
  | codeAction =>
    exact .actions ((forall₂_iff_eq_map (CodeAction.converted_iff convert)).mpr rfl)
  | format =>
    refine converted_orNothing _ (fun _ => .edits ?_) _
    exact (forall₂_iff_eq_map (TextEdit.converted_iff convert)).mpr rfl
  | prepareRename =>
    refine converted_orNothing _ (fun _ => .renameTarget ?_) _
    exact (RenameTarget.converted_iff _ _ _).mpr rfl
  | rename =>
    refine converted_orNothing _ (fun _ => .workspaceEdit ?_) _
    exact (WorkspaceEdit.converted_iff _ _ _).mpr rfl

/-- The server converts questions. -/
theorem converted_map (place : Position → Position) (query : Query) :
    query.Converted place convert (query.map place convert) := by
  cases query with
  | codeAction range diagnostics =>
    exact .codeAction range ((forall₂_iff_eq_map (Diagnostic.converted_iff convert)).mpr rfl)
  | _ => constructor

end Query

end Server

/-! ## Answers to a client -/

namespace Query

/-- An answer to a client's question about a text: the question is converted to characters and
answered there, and the ranges of the answer are converted to the client's columns. -/
def AnsweredBy (encoding : Encoding) (uri : Uri) (text : String) (query : Query)
    (answer : Answer) : Prop :=
  ∃ question : Query,
    query.Converted (encoding.toChars (lines text)) (encoding.rangeToChars (lines text)) question ∧
    (question.answerInChars encoding uri text).Converted (encoding.rangeFromChars (lines text))
      answer

/-- The answers of the server are as described. -/
theorem answeredBy_answer (encoding : Encoding) (uri : Uri) (text : String) (query : Query) :
    query.AnsweredBy encoding uri text (query.answer encoding uri text) :=
  ⟨_, converted_map _ _ query, converted_answerInChars _ encoding uri text _⟩

end Query

end KotlinAssist
