import KotlinAssist.Proofs.Server.EncodingIndependence

/-!
# Positions outside of a document

A client can ask about any line and column.  A line that the document does not have is left as it is
when a position is converted, and a column behind the end of its line keeps its distance from that
end; so a position lies outside of the document in characters exactly if it does in the columns of
the client.  All features look up the word, or what has been typed of it, at the position in
characters, and find none there.

## Main definitions

* `Encoding.width` — the length of a line in the columns of a client
* `Encoding.Outside` — a client's position that is not in the document

## Main statements

* `Encoding.length_lt_toChars_iff` — conversion keeps columns behind the end of their line
* `Encoding.outside_iff` — conversion keeps positions inside and outside apart
* `outside_positions_answer_empty` — the answers of a server
-/

namespace KotlinAssist

open Text

/-! ## Positions -/

namespace Encoding

/-- The length of a line in the columns of a client. -/
def width : Encoding → Line → Nat
  | .utf16, line => units line
  | .utf32, line => line.length

/-- A position of a client on a line that does not exist, or behind the end of its line. -/
def Outside (encoding : Encoding) (document : List Line) (position : Position) : Prop :=
  document.length ≤ position.line ∨
    ∃ line, document[position.line]? = some line ∧ encoding.width line < position.character

/-- A column on an existing line is behind its end in characters exactly if it is for the client.
The cut to 32 bits changes no column that a client can send, because conversion to characters never
makes a column larger. -/
theorem length_lt_toChars_iff (encoding : Encoding) {document : List Line} {position : Position}
    {line : Line} (present : document[position.line]? = some line)
    (onWire : position.character < columnLimit) :
    line.length < (encoding.toChars document position).character ↔
      encoding.width line < position.character := by
  cases encoding with
  | utf32 => exact Iff.rfl
  | utf16 =>
    have kept : charOfUnit line position.character % columnLimit =
        charOfUnit line position.character :=
      Nat.mod_eq_of_lt (Nat.lt_of_le_of_lt (charOfUnit_le line _) onWire)
    simp only [toChars, convert, present, kept]
    exact length_lt_charOfUnit_iff line position.character

/-- **Conversion keeps positions inside and outside apart.** -/
theorem outside_iff (encoding : Encoding) (document : List Line) {position : Position}
    (onWire : position.character < columnLimit) :
    encoding.Outside document position ↔
      inDocument document (encoding.toChars document position) = false := by
  rw [Outside, inDocument, line_toChars, ← List.getElem?_eq_none_iff]
  cases present : document[position.line]? with
  | none => simp
  | some line =>
    rw [Option.any_some, decide_eq_false_iff_not, Nat.not_le,
      encoding.length_lt_toChars_iff present onWire]
    simp

end Encoding

/-! ## Features -/

section Features

variable {document : List Line} {position : Position}
  (outside : inDocument document position = false)

include outside

theorem wordAtPosition?_of_outside : wordAtPosition? document position = none := by
  rw [inDocument] at outside
  rw [wordAtPosition?]
  cases present : document[position.line]? with
  | none => rfl
  | some line =>
    rw [present, Option.any_some, decide_eq_false_iff_not, Nat.not_le] at outside
    rw [Option.bind_some, wordAt?, if_pos (.inl outside)]

theorem completions_of_outside (uri : Uri) : completions uri document position = [] := by
  rw [inDocument] at outside
  have nothing : document[position.line]?.bind (typedAt? · position.character) = none := by
    cases present : document[position.line]? with
    | none => rfl
    | some line =>
      rw [present, Option.any_some, decide_eq_false_iff_not, Nat.not_le] at outside
      rw [Option.bind_some, typedAt?, if_pos outside]
  rw [completions, nothing]

theorem renameableAt?_of_outside : renameableAt? document position = none := by
  rw [renameableAt?, wordAtPosition?_of_outside outside, Option.filter_none]

end Features

/-- There are no tokens below the last line. -/
theorem Token.inRange_of_outside (encoding : Encoding) {document : List Line} {range : Range}
    (below : document.length ≤ range.start.line) : inRange encoding document range = [] := by
  have nothing : within range document = [] := by
    refine List.filter_eq_nil_iff.mpr fun token member => ?_
    have above := line_lt_of_mem_ofLines member
    rw [Bool.and_eq_true, decide_eq_true_eq]
    omega
  show encode ((within range document).map (convert encoding document)) range.start.line = []
  rw [nothing]
  rfl

/-! ## A server -/

/-- **Positions outside of a document give empty answers**, whatever the unit of columns.  A
position that a client can send lies outside of the document in its own columns exactly if it does
in characters.  There, a server that has the document open answers nothing to a request for a hover
text, a definition or a renaming, and lists no references and no completions; and it sends no tokens
for a range that starts below the last line. -/
theorem outside_positions_answer_empty (server : Server) (encoding : Encoding) (uri : Uri)
    (document : Document) (serves : server.Serves encoding uri document) :
    (∀ position : Position, position.character < Encoding.columnLimit →
      (encoding.Outside (lines document.text) position ↔
        inDocument (lines document.text) (encoding.toChars (lines document.text) position) =
          false)) ∧
    (∀ position : Position, position.character < Encoding.columnLimit →
      encoding.Outside (lines document.text) position →
        (server.ask uri (.hover position)).2.1 = .nothing ∧
        (server.ask uri (.definition position)).2.1 = .nothing ∧
        (server.ask uri (.prepareRename position)).2.1 = .nothing ∧
        (∀ newName, (server.ask uri (.rename position newName)).2.1 = .nothing) ∧
        (server.ask uri (.references position)).2.1 = .locations [] ∧
        (server.ask uri (.completion position)).2.1 = .completions []) ∧
    ∀ range : Range, (lines document.text).length ≤ range.start.line →
      (server.ask uri (.tokensIn range)).2.1 = .tokens [] := by
  refine ⟨fun position => encoding.outside_iff _, ?_, ?_⟩
  · intro position onWire outside
    have outsideInChars := (encoding.outside_iff _ onWire).mp outside
    have noWord := wordAtPosition?_of_outside outsideInChars
    have noTarget := renameableAt?_of_outside outsideInChars
    have noCompletion := completions_of_outside outsideInChars uri
    simp only [serves.ask, Query.answer, Query.map, Query.answerInChars, Hover.at?, definition?,
      RenameTarget.at?, rename?, references, noWord, noTarget, noCompletion]
    exact ⟨rfl, rfl, rfl, fun _ => rfl, rfl, rfl⟩
  · intro range below
    rw [serves.ask]
    show Answer.tokens (Token.inRange encoding (lines document.text) range) = .tokens []
    rw [Token.inRange_of_outside encoding below]

/-- Behind the end of a line of four code units and three characters. -/
theorem outside_positions_answer_empty_astral :
    let uri := "file:///a.kt"
    let document : Document := ⟨uri, "😀ab", 1, "kotlin"⟩
    let server := ((({} : Server).start none none).notify (.opened document)).1
    server.Serves .utf16 uri document ∧
      (⟨0, 5⟩ : Position).character < Encoding.columnLimit ∧
      Encoding.utf16.Outside (lines document.text) ⟨0, 5⟩ ∧
      ¬ Encoding.utf16.Outside (lines document.text) ⟨0, 4⟩ ∧
      (server.ask uri (.references ⟨0, 5⟩)).2.1 = .locations [] ∧
      (lines document.text).length ≤ (Range.onLine 1 0 2).start.line ∧
      (server.ask uri (.tokensIn (.onLine 1 0 2))).2.1 = .tokens [] := by
  intro uri document server
  have serves : server.Serves .utf16 uri document := ⟨by decide, by decide, by decide⟩
  have onWire : (⟨0, 5⟩ : Position).character < Encoding.columnLimit := by decide
  have outside : Encoding.utf16.Outside (lines document.text) ⟨0, 5⟩ :=
    .inr ⟨"😀ab".toList, by decide, by decide⟩
  have below : (lines document.text).length ≤ (Range.onLine 1 0 2).start.line := by decide
  obtain ⟨sameSide, empty, noTokens⟩ :=
    outside_positions_answer_empty server .utf16 uri document serves
  have atEnd : ¬ Encoding.utf16.Outside (lines document.text) ⟨0, 4⟩ := by
    rw [sameSide ⟨0, 4⟩ (by decide)]
    decide
  obtain ⟨-, -, -, -, noReferences, -⟩ := empty ⟨0, 5⟩ onWire outside
  exact ⟨serves, onWire, outside, atEnd, noReferences, below, noTokens _ below⟩

end KotlinAssist
