import KotlinAssist.Proofs.Word.Line
import Mathlib.Data.List.SplitBy
import Mathlib.Data.List.Sort

/-!
# Words put in the place of words

A text is cut into pieces: each of its words is one piece, and so is every other character.  A word
is substituted by writing another text in the place of each piece that is that word.  When a word
takes the place of a word, the pieces on both sides stay what they are, because a piece begins and
ends with an identifier character exactly if it did before; so the substitution can be undone as long
as the new word was not there already.

## Main definitions

* `pieces` — the words of a text, and the characters between them
* `substituteWord` — a text with another word in the place of a word
* `spansOf` — where a word stands among pieces

## Main statements

* `pieces_substituteWord` — no piece is joined or divided
* `substituteWord_back` — the substitution is undone by the opposite one
* `wordSpans_eq_spansOf` — the search finds the pieces that are the word
-/

namespace KotlinAssist

open Text

/-- Whether a character belongs to the word of the one before it. -/
def continuesWord (left right : Char) : Bool :=
  isIdentifierChar left && isIdentifierChar right

/-- The words of a text, and every other character of it as a piece of its own. -/
def pieces (text : List Char) : List (List Char) :=
  text.splitBy continuesWord

/-- What stands for a piece when a name takes the place of a word. -/
def renamePiece (word name piece : List Char) : List Char :=
  if piece = word then name else piece

/-- A text in which a name takes the place of a word, wherever it is a whole word. -/
def substituteWord (word name text : List Char) : List Char :=
  ((pieces text).map (renamePiece word name)).flatten

/-! ## Cutting a text into pieces -/

@[simp] theorem flatten_pieces (text : List Char) : (pieces text).flatten = text :=
  List.flatten_splitBy _ _

/-- A text can be cut wherever no identifier character is followed by another. -/
theorem pieces_append {front back : List Char}
    (apart : front.getLast?.any isIdentifierChar = false ∨
      back.head?.any isIdentifierChar = false) :
    pieces (front ++ back) = pieces front ++ pieces back := by
  refine List.splitBy_append fun left isLast right isHead => ?_
  rw [Option.mem_def] at isLast isHead
  rw [isLast, isHead, Option.any_some, Option.any_some] at apart
  rcases apart with left_other | right_other
  · rw [continuesWord, left_other, Bool.false_and]
  · rw [continuesWord, right_other, Bool.and_false]

/-- A character that is no identifier character is a piece of its own. -/
theorem pieces_append_cons {c : Char} (other : isIdentifierChar c = false)
    (front back : List Char) :
    pieces (front ++ c :: back) = pieces front ++ [c] :: pieces back := by
  have left : pieces (front ++ c :: back) = pieces front ++ pieces ([c] ++ back) :=
    pieces_append (.inr other)
  have right : pieces ([c] ++ back) = pieces [c] ++ pieces back :=
    pieces_append (.inl other)
  rw [left, right]
  rfl

theorem isChain_of_isWord {word : List Char} (isWord : IsWord word) :
    word.IsChain fun left right => continuesWord left right = true := by
  refine List.Pairwise.isChain (List.pairwise_of_forall_mem_list fun left hl right hr => ?_)
  rw [continuesWord, isWord.identifier left hl, isWord.identifier right hr, Bool.and_self]

theorem pieces_of_isWord {word : List Char} (isWord : IsWord word) : pieces word = [word] :=
  List.splitBy_of_isChain isWord.nonempty (isChain_of_isWord isWord)

/-- A word that is cut out of a text is one of its pieces. -/
theorem pieces_of_cutsWord {text front word back : List Char}
    (cut : CutsWord text front word back) :
    pieces text = pieces front ++ word :: pieces back := by
  rw [cut.whole, pieces_append (.inr cut.ends), pieces_append (.inl cut.starts),
    pieces_of_isWord cut.toIsWord, List.append_assoc, List.singleton_append]

/-! ## The ends of pieces -/

/-- Pieces that follow each other do not belong to one word. -/
def Parted (left right : List Char) : Prop :=
  ∃ (some_left : left ≠ []) (some_right : right ≠ []),
    continuesWord (left.getLast some_left) (right.head some_right) = false

theorem parted_iff {left right : List Char} :
    Parted left right ↔
      left ≠ [] ∧ right ≠ [] ∧
        (left.getLast?.any isIdentifierChar && right.head?.any isIdentifierChar) = false := by
  constructor
  · rintro ⟨some_left, some_right, parted⟩
    refine ⟨some_left, some_right, ?_⟩
    rw [List.getLast?_eq_some_getLast some_left, List.head?_eq_some_head some_right]
    exact parted
  · rintro ⟨some_left, some_right, parted⟩
    refine ⟨some_left, some_right, ?_⟩
    rw [List.getLast?_eq_some_getLast some_left, List.head?_eq_some_head some_right] at parted
    exact parted

theorem isChain_parted_pieces (text : List Char) : (pieces text).IsChain Parted :=
  List.isChain_getLast_head_splitBy continuesWord text

theorem getLast?_any_of_isWord {word : List Char} (isWord : IsWord word) :
    word.getLast?.any isIdentifierChar = true := by
  rw [List.getLast?_eq_some_getLast isWord.nonempty, Option.any_some]
  exact isWord.identifier _ (List.getLast_mem isWord.nonempty)

theorem head?_any_of_isWord {word : List Char} (isWord : IsWord word) :
    word.head?.any isIdentifierChar = true := by
  rw [List.head?_eq_some_head isWord.nonempty, Option.any_some]
  exact isWord.identifier _ (List.head_mem isWord.nonempty)

/-- A word among the pieces of a text is cut out of it. -/
theorem cutsWord_of_pieces {text word : List Char} {before after : List (List Char)}
    (cut : pieces text = before ++ word :: after) (isWord : IsWord word) :
    CutsWord text before.flatten word after.flatten where
  toIsWord := isWord
  whole := by
    rw [← flatten_pieces text, cut, List.flatten_append, List.flatten_cons, List.append_assoc]
  starts := by
    have parted := isChain_parted_pieces text
    rw [cut] at parted
    cases before using List.reverseRecOn with
    | nil => rfl
    | append_singleton before last =>
      rw [List.append_assoc, List.singleton_append, List.isChain_append] at parted
      obtain ⟨some_left, -, apart⟩ := parted_iff.mp parted.2.1.rel
      rw [head?_any_of_isWord isWord, Bool.and_true] at apart
      rw [List.flatten_append, List.flatten_singleton, List.getLast?_append_of_ne_nil _ some_left]
      exact apart
  ends := by
    have parted := isChain_parted_pieces text
    rw [cut, List.isChain_append] at parted
    cases after with
    | nil => rfl
    | cons first after =>
      obtain ⟨-, some_right, apart⟩ := parted_iff.mp parted.2.1.rel
      rw [getLast?_any_of_isWord isWord, Bool.true_and] at apart
      rw [List.flatten_cons, List.head?_append_of_ne_nil _ some_right]
      exact apart

/-! ## The pieces after a substitution -/

section Substitution

variable {word name : List Char}

theorem renamePiece_ne_nil (isName : IsWord name) {piece : List Char} (some_left : piece ≠ []) :
    renamePiece word name piece ≠ [] := by
  rw [renamePiece]
  split
  · exact isName.nonempty
  · exact some_left

/-- A piece ends in an identifier character exactly if what stands for it does. -/
theorem getLast?_any_renamePiece (isWord : IsWord word) (isName : IsWord name)
    (piece : List Char) :
    (renamePiece word name piece).getLast?.any isIdentifierChar =
      piece.getLast?.any isIdentifierChar := by
  rw [renamePiece]
  split
  · next same => rw [same, getLast?_any_of_isWord isWord, getLast?_any_of_isWord isName]
  · rfl

/-- A piece begins with an identifier character exactly if what stands for it does. -/
theorem head?_any_renamePiece (isWord : IsWord word) (isName : IsWord name)
    (piece : List Char) :
    (renamePiece word name piece).head?.any isIdentifierChar =
      piece.head?.any isIdentifierChar := by
  rw [renamePiece]
  split
  · next same => rw [same, head?_any_of_isWord isWord, head?_any_of_isWord isName]
  · rfl

/-- **The pieces of a text stay apart when a word takes the place of a word**: none is joined to its
neighbour, and none is divided. -/
theorem pieces_substituteWord (isWord : IsWord word) (isName : IsWord name) (text : List Char) :
    pieces (substituteWord word name text) = (pieces text).map (renamePiece word name) := by
  refine List.splitBy_flatten ?_ ?_ ?_
  · intro empty
    obtain ⟨piece, member, isNil⟩ := List.mem_map.mp empty
    exact renamePiece_ne_nil isName (List.ne_nil_of_mem_splitBy member) isNil
  · intro renamed member
    obtain ⟨piece, present, rfl⟩ := List.mem_map.mp member
    rw [renamePiece]
    split
    · exact isChain_of_isWord isName
    · exact List.isChain_of_mem_splitBy present
  · -- whether two neighbours are parted depends on the kind of the characters at their ends
    refine List.isChain_map_of_isChain _ ?_ (isChain_parted_pieces text)
    intro left right parted
    obtain ⟨some_left, some_right, apart⟩ := parted_iff.mp parted
    refine parted_iff.mpr
      ⟨renamePiece_ne_nil isName some_left, renamePiece_ne_nil isName some_right, ?_⟩
    rw [getLast?_any_renamePiece isWord isName, head?_any_renamePiece isWord isName, apart]

/-- Where a text is cut around the word, the substituted text is cut around the name. -/
theorem cutsWord_substituteWord (isName : IsWord name) {text front back : List Char}
    (cut : CutsWord text front word back) :
    CutsWord (substituteWord word name text) (substituteWord word name front) name
      (substituteWord word name back) := by
  refine cutsWord_of_pieces ?_ isName
  rw [pieces_substituteWord cut.toIsWord isName, pieces_of_cutsWord cut, List.map_append,
    List.map_cons, renamePiece, if_pos rfl]

theorem substituteWord_self (text : List Char) : substituteWord word word text = text := by
  have kept : renamePiece word word = id := by
    funext piece
    rw [renamePiece]
    split
    · next same => rw [same, id]
    · rfl
  rw [substituteWord, kept, List.map_id, flatten_pieces]

/-- No occurrence of the word is left, unless the name is the word itself. -/
theorem not_mem_pieces_substituteWord (isWord : IsWord word) (isName : IsWord name)
    (differ : name ≠ word) (text : List Char) :
    word ∉ pieces (substituteWord word name text) := by
  rw [pieces_substituteWord isWord isName]
  intro member
  obtain ⟨piece, -, left⟩ := List.mem_map.mp member
  rw [renamePiece] at left
  split at left
  · exact differ left
  · next other => exact other left

/-- **A substitution is undone by the opposite one** when the name was no word of the text. -/
theorem substituteWord_back (isWord : IsWord word) (isName : IsWord name) {text : List Char}
    (fresh : name ∉ pieces text) :
    substituteWord name word (substituteWord word name text) = text := by
  have restored : ∀ piece ∈ pieces text,
      (renamePiece name word ∘ renamePiece word name) piece = id piece := by
    intro piece member
    -- what is the name now was the word before, since the name was not there
    have other : piece ≠ name := fun same => fresh (same ▸ member)
    by_cases same : piece = word
    · simp [renamePiece, same]
    · simp [renamePiece, same, other]
  rw [substituteWord, pieces_substituteWord isWord isName, List.map_map,
    List.map_congr_left restored, List.map_id, flatten_pieces]

end Substitution

/-! ## Where a word stands -/

/-- The spans of the pieces that are the word, when the first piece starts at an offset. -/
def spansOf (word : List Char) (offset : Nat) : List (List Char) → List Span
  | [] => []
  | piece :: rest =>
    if piece = word then
      ⟨offset, offset + piece.length⟩ :: spansOf word (offset + piece.length) rest
    else spansOf word (offset + piece.length) rest

theorem spansOf_append (word : List Char) (offset : Nat) (left right : List (List Char)) :
    spansOf word offset (left ++ right) =
      spansOf word offset left ++ spansOf word (offset + left.flatten.length) right := by
  induction left generalizing offset with
  | nil => rfl
  | cons piece left ih =>
    simp only [List.cons_append, spansOf, ih, List.flatten_cons, List.length_append,
      Nat.add_assoc]
    split <;> rfl

/-- Moves a span to the right. -/
def Text.Span.shift (count : Nat) (span : Span) : Span :=
  ⟨count + span.start, count + span.stop⟩

theorem spansOf_add (word : List Char) (count offset : Nat) (cut : List (List Char)) :
    spansOf word (count + offset) cut = (spansOf word offset cut).map (Span.shift count) := by
  induction cut generalizing offset with
  | nil => rfl
  | cons piece cut ih =>
    simp only [spansOf, Nat.add_assoc, ih]
    split <;> rfl

theorem exists_of_mem_spansOf {word : List Char} {offset : Nat} {cut : List (List Char)}
    {span : Span} (member : span ∈ spansOf word offset cut) :
    ∃ before after, cut = before ++ word :: after ∧
      span = (Span.after before.flatten word).shift offset := by
  induction cut generalizing offset with
  | nil => cases member
  | cons piece cut ih =>
    have later (found : span ∈ spansOf word (offset + piece.length) cut) :
        ∃ before after, piece :: cut = before ++ word :: after ∧
          span = (Span.after before.flatten word).shift offset := by
      obtain ⟨before, after, rfl, rfl⟩ := ih found
      refine ⟨piece :: before, after, rfl, ?_⟩
      simp only [Span.shift, Span.after, List.flatten_cons, List.length_append, Span.mk.injEq]
      omega
    rw [spansOf] at member
    split at member
    · next same =>
      rcases List.mem_cons.mp member with rfl | found
      · subst same
        exact ⟨[], cut, rfl, by simp [Span.shift, Span.after]⟩
      · exact later found
    · exact later member

theorem mem_spansOf (word : List Char) (before after : List (List Char)) :
    Span.after before.flatten word ∈ spansOf word 0 (before ++ word :: after) := by
  rw [spansOf_append, Nat.zero_add]
  refine List.mem_append_right _ ?_
  rw [spansOf, if_pos rfl]
  exact List.mem_cons_self

theorem pairwise_spansOf {word : List Char} (nonempty : word ≠ []) (offset : Nat)
    (cut : List (List Char)) :
    (spansOf word offset cut).Pairwise fun left right => left.start < right.start := by
  induction cut generalizing offset with
  | nil => exact .nil
  | cons piece cut ih =>
    rw [spansOf]
    split
    · next same =>
      refine .cons (fun span member => ?_) (ih _)
      obtain ⟨before, after, -, rfl⟩ := exists_of_mem_spansOf member
      have length := List.length_pos_of_ne_nil nonempty
      simp only [same, Span.shift]
      omega
    · exact ih _

/-- **The search for a word finds the pieces that are the word.** -/
theorem wordSpans_eq_spansOf {word : List Char} (isWord : IsWord word) (text : List Char) :
    wordSpans text word = spansOf word 0 (pieces text) := by
  have irrefl : Std.Irrefl fun left right : Span => left.start < right.start :=
    ⟨fun span => Nat.lt_irrefl span.start⟩
  have antisymm : Std.Antisymm fun left right : Span => left.start < right.start :=
    ⟨fun left right before after => absurd before (Nat.lt_asymm after)⟩
  have ordered : (wordSpans text word).Pairwise fun left right => left.start < right.start :=
    ((pairwise_occurrences word text).imp And.right).filter _
  -- both lists are in order of the starts, so it is enough that they have the same members
  refine ordered.eq_of_mem_iff (pairwise_spansOf isWord.nonempty 0 _) fun span => ?_
  rw [mem_wordSpans_iff isWord]
  constructor
  · rintro ⟨front, back, cut, rfl⟩
    have member := mem_spansOf word (pieces front) (pieces back)
    rw [flatten_pieces, ← pieces_of_cutsWord cut] at member
    exact member
  · intro member
    obtain ⟨before, after, cut, rfl⟩ := exists_of_mem_spansOf member
    refine ⟨_, _, cutsWord_of_pieces cut isWord, ?_⟩
    simp only [Span.shift, Nat.zero_add]

end KotlinAssist
