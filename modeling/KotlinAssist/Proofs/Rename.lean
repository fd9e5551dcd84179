import KotlinAssist.Proofs.Edit
import KotlinAssist.Proofs.Word.Document
import KotlinAssist.Proofs.Word.Pieces
import KotlinAssist.Rename

/-!
# Renaming is a substitution

The words with a given text are searched line by line, and their ranges are lines and columns.  Line
endings are no identifier characters, so the words of the lines are the words of the whole text, and
the ranges name exactly the pieces of the text that are the word.  Applying the edits of a renaming
is therefore the substitution of the word.

## Main statements

* `wordRanges_splitLines` — the ranges found in the lines are the places of the word in the text
* `applyAll_wordRanges` — writing a name over these ranges substitutes the word
* `rename_substitutes_word` — what renaming does to a text, and how it is undone
-/

namespace KotlinAssist

open Text

/-! ## Words of lines and words of a text -/

theorem isIdentifierChar_feed : isIdentifierChar '\n' = false := by decide

theorem isIdentifierChar_return : isIdentifierChar '\r' = false := by decide

section Lines

variable {word : List Char}

/-- The search passes over a character that is no identifier character. -/
theorem spansOf_singleton_cons (isWord : IsWord word) {c : Char}
    (other : isIdentifierChar c = false) (offset : Nat) (rest : List (List Char)) :
    spansOf word offset ([c] :: rest) = spansOf word (offset + 1) rest := by
  have differ : [c] ≠ word := by
    rintro rfl
    have identifier := isWord.identifier c List.mem_cons_self
    rw [other] at identifier
    cases identifier
  rw [spansOf, if_neg differ, List.length_singleton]

/-- The words of a text with a character that is no identifier character are those before it and
those after it. -/
theorem wordSpans_append_cons (isWord : IsWord word) {c : Char}
    (other : isIdentifierChar c = false) (front rest : List Char) :
    wordSpans (front ++ c :: rest) word =
      wordSpans front word ++ (wordSpans rest word).map (Span.shift (front.length + 1)) := by
  simp only [wordSpans_eq_spansOf isWord]
  rw [pieces_append_cons other, spansOf_append, spansOf_singleton_cons isWord other,
    flatten_pieces, Nat.zero_add, ← spansOf_add, Nat.add_zero]

/-- A carriage return before a line feed belongs to no word. -/
theorem wordSpans_dropReturn (isWord : IsWord word) (front : List Char) :
    wordSpans (dropReturn front) word = wordSpans front word := by
  have noWord : wordSpans [] word = [] := by
    rw [wordSpans_eq_spansOf isWord]
    rfl
  rcases eq_dropReturn_or front with same | longer
  · rw [← same]
  · conv_rhs => rw [longer]
    rw [wordSpans_append_cons isWord isIdentifierChar_return, noWord, List.map_nil,
      List.append_nil]

/-- A word lies within its line. -/
theorem wordSpans_bound (isWord : IsWord word) {line : List Char} {span : Span}
    (found : span ∈ wordSpans line word) : span.start < span.stop ∧ span.stop ≤ line.length := by
  obtain ⟨front, back, cut, rfl⟩ := (mem_wordSpans_iff isWord).mp found
  have length := List.length_pos_of_ne_nil isWord.nonempty
  rw [cut.whole]
  simp only [Span.after, List.length_append]
  omega

/-- The range of the characters of a text that a span names. -/
def Text.Span.rangeIn (text : List Char) (span : Span) : Range :=
  ⟨.after (text.take span.start), .after (text.take span.stop)⟩

theorem offsets_rangeIn {text : List Char} {span : Span} (ordered : span.start ≤ span.stop)
    (inside : span.stop ≤ text.length) : (span.rangeIn text).offsets text = span := by
  have back (count : Nat) (few : count ≤ text.length) :
      offsetOf text (.after (text.take count)) = count := by
    have offset := offsetOf_after (text.take count) (text.drop count)
    rw [List.take_append_drop, List.length_take] at offset
    omega
  rw [Range.offsets, Span.rangeIn, back _ (Nat.le_trans ordered inside), back _ inside]

/-- The same columns, one line further down. -/
def Range.below (range : Range) : Range :=
  ⟨range.start.below, range.stop.below⟩

theorem rangeIn_shift {front : List Char} (noFeed : '\n' ∉ front) (rest : List Char)
    (span : Span) :
    (span.shift (front.length + 1)).rangeIn (front ++ '\n' :: rest) =
      (span.rangeIn rest).below := by
  have cut (count : Nat) : (front ++ '\n' :: rest).take (front.length + 1 + count) =
      front ++ '\n' :: rest.take count := by
    rw [Nat.add_assoc, List.take_length_add_append, Nat.add_comm 1, List.take_succ_cons]
  simp only [Span.rangeIn, Span.shift, cut, Position.after_append_feed noFeed, Range.below]

theorem rangeIn_of_no_feed {line rest : List Char} (noFeed : '\n' ∉ line) {span : Span}
    (ordered : span.start ≤ span.stop) (inside : span.stop ≤ line.length) :
    span.rangeIn (line ++ rest) = .onLine 0 span.start span.stop := by
  have here (count : Nat) (few : count ≤ line.length) :
      Position.after ((line ++ rest).take count) = ⟨0, count⟩ := by
    have noFeed' : '\n' ∉ line.take count := fun member => noFeed (List.mem_of_mem_take member)
    rw [List.take_append_of_le_length few, Position.after_of_no_feed noFeed', List.length_take,
      Nat.min_eq_left few]
  rw [Span.rangeIn, here _ (Nat.le_trans ordered inside), here _ inside, Range.onLine]

theorem wordRanges_cons (line : Line) (rest : List Line) (word : List Char) :
    wordRanges (line :: rest) word =
      (wordSpans line word).map (fun span => .onLine 0 span.start span.stop) ++
        (wordRanges rest word).map Range.below := by
  rw [wordRanges, wordRanges, List.zipIdx_cons', List.flatMap_cons, List.flatMap_map,
    List.map_flatMap]
  simp only [List.map_map]
  rfl

/-- **The ranges found in the lines of a text are the places of the word in the text.** -/
theorem wordRanges_splitLines (isWord : IsWord word) (text : List Char) :
    wordRanges (splitLines text) word = (wordSpans text word).map (Span.rangeIn text) := by
  have onFirst (line rest : List Char) (noFeed : '\n' ∉ line) :
      (wordSpans line word).map (fun span => Range.onLine 0 span.start span.stop) =
        (wordSpans line word).map (Span.rangeIn (line ++ rest)) := by
    refine List.map_congr_left fun span found => ?_
    obtain ⟨ordered, inside⟩ := wordSpans_bound isWord found
    rw [rangeIn_of_no_feed noFeed (Nat.le_of_lt ordered) inside]
  induction text using line_induction with
  | single line noFeed =>
    rw [splitLines_of_no_feed noFeed]
    split
    · next empty =>
      rw [empty, wordSpans_eq_spansOf isWord]
      rfl
    · rw [wordRanges_cons, onFirst line [] noFeed, List.append_nil]
      exact List.append_nil _
  | more front rest noFeed ih =>
    -- the words of the first line keep their columns, and those of the rest move down with it
    have behind : (Span.rangeIn (front ++ '\n' :: rest)) ∘ Span.shift (front.length + 1) =
        Range.below ∘ Span.rangeIn rest :=
      funext (rangeIn_shift noFeed rest)
    rw [splitLines_append_feed noFeed, wordRanges_cons, wordSpans_dropReturn isWord, ih,
      wordSpans_append_cons isWord isIdentifierChar_feed, List.map_append, List.map_map,
      List.map_map, behind, onFirst front _ noFeed]

end Lines

/-- The position before a word of a text is on that word. -/
theorem wordAtPosition?_of_cutsWord {text front back : List Char} {word : String}
    (cut : CutsWord text front word.toList back) :
    ∃ found, wordAtPosition? (splitLines text) (.after front) = some found ∧
      found.text = word := by
  have isWord := cut.toIsWord
  have listed : (Span.after front word.toList).rangeIn text ∈
      wordRanges (splitLines text) word.toList := by
    rw [wordRanges_splitLines isWord]
    exact List.mem_map_of_mem ((mem_wordSpans_iff isWord).mpr ⟨front, back, cut, rfl⟩)
  have start : ((Span.after front word.toList).rangeIn text).start = .after front := by
    rw [cut.whole, Span.rangeIn, Span.after, List.append_assoc, List.take_left]
  have touched := Range.touches_start (start_lt_stop_of_mem_wordRanges isWord listed)
  rw [start] at touched
  obtain ⟨found, here, same, -⟩ := (touches_wordRanges_iff isWord).mp ⟨listed, touched⟩
  exact ⟨found, here, same⟩

/-! ## Writing over the ranges of a word -/

/-- Writing a name over the pieces that are the word puts it in the place of each of them. -/
theorem splice_spansOf (word name : List Char) (offset : Nat) (cut : List (List Char)) :
    splice offset ((spansOf word offset cut).map fun span => (span, name)) cut.flatten =
      (cut.map (renamePiece word name)).flatten := by
  induction cut generalizing offset with
  | nil => rfl
  | cons piece cut ih =>
    rw [List.map_cons, List.flatten_cons, List.flatten_cons, ← ih (offset + piece.length), spansOf,
      renamePiece]
    split
    · simp only [List.map_cons, splice, Nat.sub_self, List.take_zero, List.nil_append,
        Nat.add_sub_cancel_left, List.drop_left]
    · -- a piece that is not the word lies before all edits that are left
      refine splice_append _ fun edit member => ?_
      obtain ⟨span, found, rfl⟩ := List.mem_map.mp member
      obtain ⟨before, after, -, rfl⟩ := exists_of_mem_spansOf found
      simp only [Span.shift, Span.after]
      omega

/-- **Writing a name over the ranges of a word substitutes the word.** -/
theorem applyAll_wordRanges {word : List Char} (isWord : IsWord word) (text name : String) :
    TextEdit.applyAll ((wordRanges (lines text) word).map fun range => ⟨range, name⟩) text =
      .ofList (substituteWord word name.toList text.toList) := by
  have places : (wordSpans text.toList word).map (fun span =>
        ((span.rangeIn text.toList).offsets text.toList, name.toList)) =
      (spansOf word 0 (pieces text.toList)).map fun span => (span, name.toList) := by
    rw [← wordSpans_eq_spansOf isWord]
    refine List.map_congr_left fun span found => ?_
    obtain ⟨ordered, inside⟩ := wordSpans_bound isWord found
    rw [offsets_rangeIn (Nat.le_of_lt ordered) inside]
  have spliced := splice_spansOf word name.toList 0 (pieces text.toList)
  rw [flatten_pieces] at spliced
  rw [TextEdit.applyAll, lines, wordRanges_splitLines isWord, List.map_map, List.map_map]
  simp only [Function.comp_def]
  rw [places, spliced, substituteWord]

/-! ## Renaming -/

/-- A new name is a word. -/
theorem isWord_of_isRenameable {name : String} (allowed : isRenameable name = true) :
    IsWord name.toList := by
  rw [isRenameable, Bool.and_eq_true] at allowed
  exact isWord_of_isName allowed.1

/-- Renaming a word to an allowed name writes the name over each range of the word. -/
theorem rename?_of_renameable {uri : Uri} {document : List Line} {position : Position} {word : Word}
    {newName : String} (here : renameableAt? document position = some word)
    (allowed : isRenameable newName = true) :
    rename? uri document position newName =
      some ⟨[(uri, (wordRanges document word.text.toList).map fun range => ⟨range, newName⟩)]⟩ := by
  rw [rename?, here, Option.map_some, if_pos allowed]

theorem renameableAt?_eq_some_iff {document : List Line} {position : Position} {word : Word} :
    renameableAt? document position = some word ↔
      wordAtPosition? document position = some word ∧ isRenameable word.text = true := by
  rw [renameableAt?, Option.filter_eq_some_iff]

/-- **Renaming is the substitution of a whole word, and can be undone.**  The edits are in document
order and apart from each other, and applying them puts the new name in the place of the word
wherever it is a whole word.  A different name leaves no occurrence of the word; and if it was not
there before, renaming it back, at the start of any occurrence that was replaced, restores the text.
-/
theorem rename_substitutes_word (uri : Uri) (text : String) (position : Position) (word : Word)
    (newName : String) (here : renameableAt? (lines text) position = some word)
    (allowed : isRenameable newName = true) :
    ∃ edits, rename? uri (lines text) position newName = some ⟨[(uri, edits)]⟩ ∧
      (∀ edit ∈ edits, edit.range.start < edit.range.stop) ∧
      edits.Pairwise (fun left right => left.range.stop < right.range.start) ∧
      let old := word.text.toList
      let new := newName.toList
      let result := TextEdit.applyAll edits text
      result.toList = substituteWord old new text.toList ∧
      (newName = word.text → result = text) ∧
      (newName ≠ word.text → old ∉ pieces result.toList) ∧
      (new ∉ pieces text.toList →
        ∀ front back, CutsWord text.toList front old back →
          ∃ undo, rename? uri (lines result) (.after (substituteWord old new front)) word.text =
              some ⟨[(uri, undo)]⟩ ∧
            TextEdit.applyAll undo result = text) := by
  obtain ⟨found, renameable⟩ := renameableAt?_eq_some_iff.mp here
  have isWord := isWord_of_isRenameable renameable
  have isNew := isWord_of_isRenameable allowed
  refine ⟨_, rename?_of_renameable here allowed, ?_,
    List.pairwise_map.mpr (pairwise_wordRanges isWord), ?_⟩
  · intro edit member
    obtain ⟨range, listed, rfl⟩ := List.mem_map.mp member
    exact start_lt_stop_of_mem_wordRanges isWord listed
  intro old new result
  have substituted : result.toList = substituteWord old new text.toList := by
    rw [show result = _ from applyAll_wordRanges isWord text newName, String.toList_ofList]
  refine ⟨substituted, ?_, ?_, ?_⟩
  · intro same
    have kept : result.toList = text.toList := by
      rw [substituted, show new = old from congrArg String.toList same, substituteWord_self]
    exact String.toList_injective kept
  · intro differ
    rw [substituted]
    exact not_mem_pieces_substituteWord isWord isNew
      (fun same => differ (String.toList_injective same)) _
  · intro fresh front back cut
    have cut' := cutsWord_substituteWord isNew cut
    rw [← substituted] at cut'
    obtain ⟨found', there, isFound⟩ := wordAtPosition?_of_cutsWord cut'
    have here' : renameableAt? (lines result) (.after (substituteWord old new front)) =
        some found' :=
      renameableAt?_eq_some_iff.mpr ⟨there, isFound ▸ allowed⟩
    refine ⟨_, rename?_of_renameable here' renameable, ?_⟩
    rw [isFound, applyAll_wordRanges isNew, substituted, substituteWord_back isWord isNew fresh,
      String.ofList_toList]

/-- Among letters outside ASCII and with both line endings, a name is changed and changed back. -/
theorem rename_substitutes_word_accented :
    let text := "é a aé\r\n\ta(a)\nb"
    renameableAt? (lines text) ⟨1, 2⟩ = some ⟨"a", ⟨1, 2⟩⟩ ∧ isRenameable "xyz" = true ∧
      ∃ edits, rename? "file:///a.kt" (lines text) ⟨1, 2⟩ "xyz" =
          some ⟨[("file:///a.kt", edits)]⟩ ∧
        TextEdit.applyAll edits text = "é xyz aé\r\n\txyz(xyz)\nb" ∧
        ∃ undo, rename? "file:///a.kt" (lines (TextEdit.applyAll edits text)) ⟨1, 5⟩ "a" =
            some ⟨[("file:///a.kt", undo)]⟩ ∧
          TextEdit.applyAll undo (TextEdit.applyAll edits text) = text := by
  intro text
  have here : renameableAt? (lines text) ⟨1, 2⟩ = some ⟨"a", ⟨1, 2⟩⟩ := by decide
  have allowed : isRenameable "xyz" = true := by decide
  obtain ⟨edits, renamed, -, -, substituted, -, -, back⟩ :=
    rename_substitutes_word "file:///a.kt" text ⟨1, 2⟩ ⟨"a", ⟨1, 2⟩⟩ "xyz" here allowed
  refine ⟨here, allowed, edits, renamed, ?_, ?_⟩
  · refine String.toList_injective ?_
    rw [substituted]
    decide
  · have cut : CutsWord text.toList "é a aé\r\n\ta(".toList "a".toList ")\nb".toList :=
      ⟨⟨by decide, List.all_eq_true.mp (by decide)⟩, by decide, by decide, by decide⟩
    have fresh : "xyz".toList ∉ pieces text.toList := by decide
    have undone := back fresh _ _ cut
    have start : Position.after (substituteWord "a".toList "xyz".toList
        "é a aé\r\n\ta(".toList) = ⟨1, 5⟩ := by decide
    rw [start] at undone
    exact undone

end KotlinAssist
