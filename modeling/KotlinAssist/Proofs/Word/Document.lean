import KotlinAssist.Proofs.Text.Lines
import KotlinAssist.Proofs.Word.Line
import KotlinAssist.Reference

/-!
# Words of a document

Positions are ordered as they are read.  The ranges of the words with a given text are found line by
line, so they are in this order and have a gap between any two; and a position touches one of them
exactly if the word under the cursor has that text.

## Main statements

* `mem_wordRanges_iff`, `pairwise_wordRanges` — the words with a given text, in order
* `wordAtPosition?_eq_some_iff` — the word under the cursor
* `references_agree_with_cursor` — references and the cursor find the same words
-/

namespace KotlinAssist

open Text

/-! ## The order of positions -/

namespace Position

/-- A position comes before another when it is on an earlier line, or earlier on the same line. -/
instance : LT Position :=
  ⟨fun left right =>
    left.line < right.line ∨ left.line = right.line ∧ left.character < right.character⟩

instance : LE Position :=
  ⟨fun left right =>
    left.line < right.line ∨ left.line = right.line ∧ left.character ≤ right.character⟩

instance (left right : Position) : Decidable (left < right) :=
  inferInstanceAs (Decidable (left.line < right.line ∨
    left.line = right.line ∧ left.character < right.character))

instance (left right : Position) : Decidable (left ≤ right) :=
  inferInstanceAs (Decidable (left.line < right.line ∨
    left.line = right.line ∧ left.character ≤ right.character))

theorem le_iff (left right : Position) :
    left ≤ right ↔
      left.line < right.line ∨ left.line = right.line ∧ left.character ≤ right.character :=
  Iff.rfl

theorem lt_irrefl (position : Position) : ¬ position < position := by
  rintro (above | ⟨-, before⟩)
  · exact Nat.lt_irrefl _ above
  · exact Nat.lt_irrefl _ before

end Position

namespace Range

/-- Whether a position lies in a range or at one of its ends. -/
def Touches (range : Range) (position : Position) : Prop :=
  range.start ≤ position ∧ position ≤ range.stop

instance (range : Range) (position : Position) : Decidable (range.Touches position) :=
  inferInstanceAs (Decidable (range.start ≤ position ∧ position ≤ range.stop))

theorem touches_start {range : Range} (ordered : range.start < range.stop) :
    range.Touches range.start := by
  refine ⟨.inr ⟨rfl, Nat.le_refl _⟩, ?_⟩
  rcases ordered with earlier | ⟨same, before⟩
  · exact .inl earlier
  · exact .inr ⟨same, Nat.le_of_lt before⟩

/-- A range on one line is touched on that line only, between its columns. -/
theorem touches_onLine_iff (line start stop : Nat) (position : Position) :
    (Range.onLine line start stop).Touches position ↔
      position.line = line ∧ start ≤ position.character ∧ position.character ≤ stop := by
  simp only [Touches, onLine, Position.le_iff]
  omega

end Range

/-! ## Words with a given text -/

theorem mem_wordRanges_iff {document : List Line} {word : List Char} {range : Range} :
    range ∈ wordRanges document word ↔
      ∃ index line span, document[index]? = some line ∧ span ∈ wordSpans line word ∧
        range = .onLine index span.start span.stop := by
  simp only [wordRanges, List.mem_flatMap, List.mem_map, Prod.exists, List.mem_zipIdx_iff_getElem?]
  constructor
  · rintro ⟨line, index, present, span, found, rfl⟩
    exact ⟨index, line, span, present, found, rfl⟩
  · rintro ⟨index, line, span, present, found, rfl⟩
    exact ⟨line, index, present, span, found, rfl⟩

/-- The words with a given text are found in document order, and do not touch each other. -/
theorem pairwise_wordRanges {document : List Line} {word : List Char} (isWord : IsWord word) :
    (wordRanges document word).Pairwise fun left right => left.stop < right.start := by
  refine List.pairwise_flatMap.mpr ⟨?_, (pairwise_zipIdx document).imp ?_⟩
  · rintro ⟨line, index⟩ -
    refine List.pairwise_map.mpr ((pairwise_wordSpans isWord).imp ?_)
    intro left right apart
    exact .inr ⟨rfl, apart⟩
  · rintro ⟨_, index⟩ ⟨_, index'⟩ earlier left foundLeft right foundRight
    obtain ⟨_, -, rfl⟩ := List.mem_map.mp foundLeft
    obtain ⟨_, -, rfl⟩ := List.mem_map.mp foundRight
    exact .inl earlier

theorem start_lt_stop_of_mem_wordRanges {document : List Line} {word : List Char} {range : Range}
    (isWord : IsWord word) (found : range ∈ wordRanges document word) :
    range.start < range.stop := by
  obtain ⟨index, line, span, -, inLine, rfl⟩ := mem_wordRanges_iff.mp found
  obtain ⟨front, back, -, rfl⟩ := (mem_wordSpans_iff isWord).mp inLine
  exact .inr ⟨rfl, Nat.lt_add_of_pos_right (List.length_pos_of_ne_nil isWord.nonempty)⟩

/-! ## The word under the cursor -/

theorem wordAtPosition?_eq_some_iff {document : List Line} {position : Position} {word : Word} :
    wordAtPosition? document position = some word ↔
      ∃ line, document[position.line]? = some line ∧
        wordAt? line position.character = some word :=
  Option.bind_eq_some_iff

theorem isWord_of_wordAtPosition? {document : List Line} {position : Position} {word : Word}
    (here : wordAtPosition? document position = some word) :
    IsWord word.text.toList := by
  obtain ⟨line, -, found⟩ := wordAtPosition?_eq_some_iff.mp here
  obtain ⟨front, back, cut, -⟩ := wordAt?_eq_some_iff.mp found
  exact cut.toIsWord

/-- **A position touches a word with a given text exactly if that word is under the cursor there.**
-/
theorem touches_wordRanges_iff {document : List Line} {text : String} {range : Range}
    {position : Position} (isWord : IsWord text.toList) :
    range ∈ wordRanges document text.toList ∧ range.Touches position ↔
      ∃ word, wordAtPosition? document position = some word ∧ word.text = text ∧
        word.range position.line = range := by
  simp only [mem_wordRanges_iff, mem_wordSpans_iff isWord,
    wordAtPosition?_eq_some_iff, wordAt?_eq_some_iff]
  constructor
  · rintro ⟨⟨index, line, _, present, ⟨front, back, cut, rfl⟩, rfl⟩, touched⟩
    obtain ⟨rfl, above, below⟩ := (Range.touches_onLine_iff _ _ _ _).mp touched
    exact ⟨⟨text, Span.after front text.toList⟩, ⟨line, present, front, back, cut, rfl, above, below⟩,
      rfl, rfl⟩
  · rintro ⟨word, ⟨line, present, front, back, cut, placed, above, below⟩, rfl, rfl⟩
    refine ⟨⟨position.line, line, word.span, present, ⟨front, back, cut, placed⟩, rfl⟩, ?_⟩
    exact (Range.touches_onLine_iff _ _ _ _).mpr ⟨rfl, above, below⟩

theorem references_of_word {uri : Uri} {document : List Line} {position : Position} {word : Word}
    (here : wordAtPosition? document position = some word) :
    references uri document position =
      (wordRanges document word.text.toList).map (Location.mk uri) := by
  rw [references, here]

/-- **References and the cursor agree everywhere.**  From a position on a word, the references are
ranges of the document in order and apart from each other; a position touches one of them exactly if
the word under the cursor there has the same text, and then that word has that range.  So the word
itself is among its references, and each of them has the same references. -/
theorem references_agree_with_cursor (uri : Uri) (text : String) (position : Position)
    (word : Word) (here : wordAtPosition? (lines text) position = some word) :
    let found := references uri (lines text) position
    (∀ location ∈ found, location.uri = uri ∧ location.range.start < location.range.stop) ∧
    found.Pairwise (fun left right => left.range.stop < right.range.start) ∧
    (∀ place, ((∃ other, wordAtPosition? (lines text) place = some other ∧
          other.text = word.text) ↔
        ∃ location ∈ found, location.range.Touches place) ∧
      ∀ other, wordAtPosition? (lines text) place = some other → other.text = word.text →
        ∀ location ∈ found, location.range.Touches place →
          other.range place.line = location.range) ∧
    ⟨uri, word.range position.line⟩ ∈ found ∧
    ∀ location ∈ found, ∀ place, location.range.Touches place →
      references uri (lines text) place = found := by
  have isWord := isWord_of_wordAtPosition? here
  intro found
  have isFound : found = (wordRanges (lines text) word.text.toList).map (Location.mk uri) :=
    references_of_word here
  have touched (place : Position) : ∀ location ∈ found, location.range.Touches place →
      ∃ other, wordAtPosition? (lines text) place = some other ∧ other.text = word.text ∧
        other.range place.line = location.range := by
    intro location member touches
    rw [isFound] at member
    obtain ⟨range, listed, rfl⟩ := List.mem_map.mp member
    exact (touches_wordRanges_iff isWord).mp ⟨listed, touches⟩
  have listed (place : Position) (other : Word)
      (there : wordAtPosition? (lines text) place = some other) (same : other.text = word.text) :
      ⟨uri, other.range place.line⟩ ∈ found ∧ (other.range place.line).Touches place := by
    obtain ⟨member, touches⟩ :=
      (touches_wordRanges_iff isWord).mpr ⟨other, there, same, rfl⟩
    exact ⟨isFound ▸ List.mem_map_of_mem member, touches⟩
  refine ⟨?_, ?_, fun place => ⟨⟨?_, ?_⟩, ?_⟩, ?_, ?_⟩
  · intro location member
    rw [isFound] at member
    obtain ⟨range, present, rfl⟩ := List.mem_map.mp member
    exact ⟨rfl, start_lt_stop_of_mem_wordRanges isWord present⟩
  · rw [isFound]
    exact List.pairwise_map.mpr (pairwise_wordRanges isWord)
  · rintro ⟨other, there, same⟩
    obtain ⟨member, touches⟩ := listed place other there same
    exact ⟨_, member, touches⟩
  · rintro ⟨location, member, touches⟩
    obtain ⟨other, there, same, -⟩ := touched place location member touches
    exact ⟨other, there, same⟩
  · intro other there same location member touches
    obtain ⟨other', there', -, range⟩ := touched place location member touches
    rw [there] at there'
    cases there'
    exact range
  · exact (listed position word here rfl).1
  · intro location member place touches
    obtain ⟨other, there, same, -⟩ := touched place location member touches
    rw [references_of_word there, same, isFound]

/-- The word at the end of the second line is also the first and the last of the first line, and not
part of the longer word between them. -/
theorem references_agree_with_cursor_accented :
    let document := "éa aéa éa\r\néa"
    let word : Word := ⟨"éa", ⟨0, 2⟩⟩
    wordAtPosition? (lines document) ⟨1, 2⟩ = some word ∧
      ⟨"file:///a.kt", word.range 1⟩ ∈ references "file:///a.kt" (lines document) ⟨1, 2⟩ ∧
      references "file:///a.kt" (lines document) ⟨0, 7⟩ =
        references "file:///a.kt" (lines document) ⟨1, 2⟩ := by
  intro document word
  have here : wordAtPosition? (lines document) ⟨1, 2⟩ = some word := by decide
  obtain ⟨-, -, -, own, same⟩ :=
    references_agree_with_cursor "file:///a.kt" document ⟨1, 2⟩ word here
  have listed : ⟨"file:///a.kt", .onLine 0 7 9⟩ ∈
      references "file:///a.kt" (lines document) ⟨1, 2⟩ := by decide
  exact ⟨here, own, same _ listed ⟨0, 7⟩ (by decide)⟩

end KotlinAssist
