import KotlinAssist.Proofs.Highlight.Shadow
import KotlinAssist.Proofs.Word.Name
import Mathlib.Data.List.Sublists

/-!
# Declared names among the tokens

The token of a declared name competes with those found in other ways.  None of them reaches into the
name from the left: the character before the name belongs to no word, and a number has a digit
behind each dot and each sign, with which a name does not start.  A comment or string that does not
hide the name does not start at it either, and neither does a number.  So the token that is selected
at the name is that of a word or that of the declaration.

A word that starts with the name goes at least as far as the name does, and words are found before
declarations.  Of two tokens with the same columns the one found first is selected: a name that is a
word of the vocabulary is highlighted as that word.  A word of the vocabulary is a name and a
declared name goes as far as it can, so the word is then the name itself.

## Main definitions

* `Token.Clear` — a token that does not reach over a column
* `Token.Declares` — a token at a declared name that is marked as its declaration
* `Declaration.Unhidden` — a declaration whose name stands in no comment and in no string
* `Declaration.Reserved` — a declaration whose name stands there as a word of the vocabulary

## Main statements

* `Token.mem_dropHidden_of_first` — the first token that starts at a column is selected
* `Token.clear_at_name` — no token reaches into a declared name
* `Token.exists_first_at_name` — the token that is selected at a declared name
* `Token.declared_name_highlighted_iff` — declared names that are highlighted as declarations
-/

namespace KotlinAssist

open Text

namespace Token

/-! ## The first token at a column -/

/-- A token that does not reach over a column. -/
def Clear (column : Nat) (token : Token) : Prop :=
  token.start < column → token.stop ≤ column

/-- Whether a token that is not empty starts at a column. -/
def startsAt (column : Nat) (token : Token) : Bool :=
  token.start == column && token.length != 0

theorem startsAt_iff {column : Nat} {token : Token} :
    token.startsAt column = true ↔ token.start = column ∧ token.length ≠ 0 := by
  simp only [startsAt, Bool.and_eq_true, beq_iff_eq, bne_iff_ne]

/-- A token is selected if those before it end where it starts, or earlier. -/
theorem mem_dropHidden_append_cons {front rest : List Token} {token : Token} {column : Nat}
    (behind : column ≤ token.start) (nonempty : token.length ≠ 0)
    (ends : ∀ other ∈ front, other.stop ≤ token.start) :
    token ∈ dropHidden column (front ++ token :: rest) := by
  induction front generalizing column with
  | nil =>
    have shown : ¬ (decide (token.length = 0) || decide (token.start < column)) = true := by
      simp only [Bool.or_eq_true, decide_eq_true_eq]
      omega
    rw [List.nil_append, dropHidden, if_neg shown]
    exact List.mem_cons_self
  | cons other front ih =>
    obtain ⟨here, later⟩ := List.forall_mem_cons.mp ends
    rw [List.cons_append, dropHidden]
    split
    · exact ih behind later
    · exact List.mem_cons_of_mem _ (ih here later)

/-- **The first of the tokens that start at a column is selected**, if none reaches over the column
and those that start there are in order. -/
theorem mem_dropHidden_of_first {found more : List Token} {first : Token} {column : Nat}
    (clear : ∀ token ∈ found, token.Clear column)
    (starting : found.filter (startsAt column) = first :: more)
    (ordered : (first :: more).Pairwise fun left right => left.before right = true) :
    first ∈ dropHidden 0 (found.mergeSort before) := by
  rw [← starting] at ordered
  have kept := (filter_mergeSort trans_before total_before ordered).trans starting
  obtain ⟨front, rest, split, skipped, isFirst, -⟩ := List.filter_eq_cons_iff.mp kept
  have sorted := List.pairwise_mergeSort trans_before total_before found
  obtain ⟨start, nonempty⟩ := startsAt_iff.mp isFirst
  rw [split, List.pairwise_append] at sorted
  rw [split]
  refine mem_dropHidden_append_cons (Nat.zero_le _) nonempty ?_
  intro other member
  have among : other ∈ found.mergeSort before := by
    rw [split]
    exact List.mem_append_left _ member
  have placed := before_iff.mp (sorted.2.2 other member first List.mem_cons_self)
  rw [start] at placed ⊢
  rcases placed with earlier | ⟨same, -⟩
  · exact clear other (List.mem_mergeSort.mp among) earlier
  · -- a token that starts there and comes before the first one is empty
    have empty : other.length = 0 := by
      by_contra some_length
      exact skipped other member (startsAt_iff.mpr ⟨same, some_length⟩)
    rw [stop, same, empty, Nat.add_zero]

end Token

/-! ## Words at a column -/

/-- Characters of a class do not reach over a character of another class. -/
theorem Text.Span.stop_le_of_slice {inside : Char → Bool} {front rest : List Char} {span : Span}
    (parts : front.getLast?.any inside = false)
    (chars : ∀ c ∈ span.slice (front ++ rest), inside c = true)
    (earlier : span.start < front.length) : span.stop ≤ front.length := by
  by_contra longer
  have nonempty : front ≠ [] := by
    rintro rfl
    exact absurd earlier (Nat.not_lt_zero _)
  obtain ⟨front, c, rfl⟩ := (List.eq_nil_or_concat' front).resolve_left nonempty
  have present : (front ++ [c] ++ rest)[front.length]? = some c := by simp
  rw [List.length_append, List.length_singleton] at earlier longer
  have after : span.start ≤ front.length := by omega
  have before : front.length < span.stop := by omega
  have member := Span.mem_slice present after before
  rw [List.getLast?_concat, Option.any_some, chars c member] at parts
  cases parts

namespace Token

/-- **A word of a line is found**, and nothing else where it starts. -/
theorem mem_matchesOf_wordRun_iff {line front word back : List Char}
    (cut : CutsWord line front word back) {span : Span} :
    span ∈ matchesOf wordRun line ∧ span.start = front.length ↔ span = .after front word := by
  have whole : line = front ++ (word ++ back) := by rw [cut.whole, List.append_assoc]
  have run : (word ++ back).takeWhile isIdentifierChar = word :=
    takeWhile_run_append cut.identifier cut.ends
  have recognised (before : Option Char) : wordRun before (word ++ back) = some word.length := by
    obtain ⟨c, rest, rfl⟩ := List.exists_cons_of_ne_nil cut.nonempty
    rw [wordRun, run]
  constructor
  · rintro ⟨matched, start⟩
    obtain ⟨front', rest, length, cut', -, -, accepted, rfl⟩ := exists_of_mem_matchesFrom matched
    have sameLength : front'.length = front.length := by
      rw [← start]
      exact (Nat.zero_add _).symm
    obtain ⟨rfl, rfl⟩ := List.append_inj (cut'.symm.trans whole) sameLength
    rw [recognised] at accepted
    rw [Span.after, Option.some.inj accepted, Nat.zero_add]
  · rintro rfl
    refine ⟨?_, rfl⟩
    have some_left : word ++ back ≠ [] := by
      intro empty
      exact cut.nonempty (List.append_eq_nil_iff.mp empty).1
    obtain ⟨span, matched, place⟩ :=
      exists_covering_matchesFrom 0 some_left (Nat.zero_le front.length) (recognised _)
    rw [Nat.zero_add] at place
    rw [whole]
    rcases place with rfl | ⟨earlier, later⟩
    · exact matched
    · have ends := Span.stop_le_of_slice cut.starts (slice_wordRun matched) earlier
      omega

/-- **The token of a word of a line.**  A word of the vocabulary has one, unless it follows a
dot. -/
theorem mem_words_at_iff {line front word back : List Char} (cut : CutsWord line front word back)
    (notDigit : word.head?.any Char.isDigit = false) {index : Nat} {token : Token} :
    token ∈ words index line ∧ token.start = front.length ↔
      front.getLast? ≠ some '.' ∧
        ∃ type modifiers, ofVocabulary? (String.ofList word) = some (type, modifiers) ∧
          token = ofSpan index (.after front word) type modifiers := by
  have slice : (Span.after front word).slice line = word := by
    rw [cut.whole, List.append_assoc]
    exact CommentSpan.slice_after _ _ _
  have before : line.take (Span.after front word).start = front := by
    rw [cut.whole, List.append_assoc]
    exact List.take_left
  rw [mem_words_iff]
  constructor
  · rintro ⟨⟨span, matched, -, undotted, type, modifiers, known, rfl⟩, start⟩
    obtain rfl := (mem_matchesOf_wordRun_iff cut).mp ⟨matched, start⟩
    rw [slice] at known
    rw [before] at undotted
    exact ⟨undotted, type, modifiers, known, rfl⟩
  · rintro ⟨undotted, type, modifiers, known, rfl⟩
    obtain ⟨matched, -⟩ := (mem_matchesOf_wordRun_iff cut).mpr rfl
    refine ⟨⟨_, matched, ?_, ?_, type, modifiers, ?_, rfl⟩, rfl⟩
    · rw [slice]
      exact notDigit
    · rw [before]
      exact undotted
    · rw [slice]
      exact known

end Token

/-! ## Numbers and names -/

/-- **A number does not start at the name and does not reach into it.** -/
theorem CutsName.number_apart {line front name back : List Char}
    (cut : CutsName line front name back) {literal : Grammar.Literal}
    (member : literal ∈ Grammar.literals line) (number : literal.kind = .number) :
    literal.span.start ≠ front.length ∧
      (literal.span.start < front.length → literal.span.stop ≤ front.length) := by
  obtain ⟨front', text, length, whole, digit, numeral, placed⟩ :=
    Grammar.exists_of_number member number
  have cut' : front ++ (name ++ back) = front' ++ text := cut.whole.symm.trans whole
  rw [placed]
  show front'.length ≠ front.length ∧
    (front'.length < front.length → front'.length + length ≤ front.length)
  constructor
  · intro same
    obtain ⟨rfl, rfl⟩ := List.append_inj cut' same.symm
    rw [cut.head?_isDigit] at digit
    cases digit
  · intro earlier
    by_contra longer
    obtain ⟨between, rfl, rfl⟩ : ∃ between, front = front' ++ between ∧
        text = between ++ (name ++ back) := by
      rcases List.append_eq_append_iff.mp cut' with ⟨more, rfl, -⟩ | ⟨between, rfl, same⟩
      · rw [List.length_append] at earlier
        omega
      · exact ⟨between, rfl, same⟩
    -- the character before the name would be a dot or a sign with a digit behind it
    have nonempty : between ≠ [] := by
      rintro rfl
      rw [List.append_nil] at earlier
      exact absurd earlier (Nat.lt_irrefl _)
    obtain ⟨between, c, rfl⟩ := (List.eq_nil_or_concat' between).resolve_left nonempty
    obtain ⟨d, rest, rfl⟩ := List.exists_cons_of_ne_nil (ne_nil_of_isName cut.named)
    obtain ⟨more, rfl⟩ : ∃ more, length = between.length + (more + 2) := by
      refine ⟨length - between.length - 2, ?_⟩
      simp only [List.length_append, List.length_singleton] at longer
      omega
    have taken : (between ++ [c] ++ (d :: rest ++ back)).take (between.length + (more + 2)) =
        between ++ c :: d :: (rest ++ back).take more := by
      rw [List.append_assoc, List.take_length_add_append]
      rfl
    rcases numeral.digits between c d _ taken with part | digit
    · have starts := cut.starts
      rw [← List.append_assoc, List.getLast?_concat, Option.any_some,
        isIdentifierChar_of_isNamePart part] at starts
      cases starts
    · have notDigit := cut.head?_isDigit []
      rw [List.append_nil, List.head?_cons, Option.any_some, digit] at notDigit
      cases notDigit

/-! ## The token at a declared name -/

namespace Token

/-- The words of the vocabulary are names. -/
theorem isName_of_ofVocabulary? {word : String} (known : (ofVocabulary? word).isSome = true) :
    isName word.toList = true := by
  have keywords : ∀ word ∈ Vocabulary.keywords, isName word.toList = true := by decide
  have modifiers : ∀ word ∈ Vocabulary.modifiers, isName word.toList = true := by decide
  have types : ∀ word ∈ Vocabulary.builtinTypes, isName word.toList = true := by decide
  unfold ofVocabulary? at known
  split at known
  · next isKeyword => exact keywords word (List.contains_iff_mem.mp isKeyword)
  · split at known
    · next isModifier => exact modifiers word (List.contains_iff_mem.mp isModifier)
    · split at known
      · next isType => exact types word (List.contains_iff_mem.mp isType)
      · cases known

/-- The token of a declared name. -/
def ofDeclaration (declaration : Declaration) : Token :=
  ofSpan declaration.line
    ⟨declaration.selection.start.character, declaration.selection.stop.character⟩
    (typeOfKind declaration.kind) (modifiersOf declaration)

theorem declared?_eq_some {index : Nat} {line : Line} {declaration : Declaration}
    (read : Declaration.ofLine? index line = some declaration) :
    declared? index line = some (ofDeclaration declaration) := by
  obtain rfl := Declaration.line_of_ofLine? read
  rw [declared?, read]
  rfl

/-- A token that neither reaches over a column nor starts there. -/
structure Avoids (column : Nat) (token : Token) : Prop where
  clear : token.Clear column
  other : ¬ token.startsAt column = true

theorem avoids_of_not_covers {place : Position} {token : Token} (line : token.line = place.line)
    (apart : ¬ token.Covers place) : token.Avoids place.character where
  clear := by
    intro earlier
    by_contra longer
    exact apart ⟨line, Nat.le_of_lt earlier, Nat.not_le.mp longer⟩
  other := by
    intro starts
    obtain ⟨start, nonempty⟩ := startsAt_iff.mp starts
    refine apart ⟨line, Nat.le_of_eq start, ?_⟩
    rw [stop]
    omega

theorem avoids_of_mem_comments {index column : Nat} {opened : OpenComment} {line : Line}
    (uncommented : ∀ comment ∈ (comments index opened line).1, ¬ comment.Covers ⟨index, column⟩)
    {token : Token} (member : token ∈ (comments index opened line).1) : token.Avoids column := by
  have sameLine : token.line = index := by
    obtain ⟨_, -, rfl⟩ := List.mem_map.mp member
    rfl
  exact avoids_of_not_covers sameLine (uncommented token member)

section Name

variable {index : Nat} {line front name back : List Char} (cut : CutsName line front name back)

include cut

theorem clear_of_mem_words {token : Token} (member : token ∈ words index line) :
    token.Clear front.length := by
  obtain ⟨span, matched, -, -, type, modifiers, -, rfl⟩ := mem_words_iff.mp member
  have within := within_of_mem_matchesOf bounded_wordRun matched
  have chars := slice_wordRun matched
  rw [cut.whole] at chars
  intro earlier
  have ends := Span.stop_le_of_slice cut.starts chars earlier
  show span.start + (span.stop - span.start) ≤ front.length
  rw [Nat.add_sub_cancel' within.ordered]
  exact ends

theorem avoids_of_mem_literals
    (unquoted : ∀ literal ∈ Grammar.literals line, literal.kind = .string →
      literal.span.covers front.length = false) {token : Token}
    (member : token ∈ literals index line) : token.Avoids front.length := by
  obtain ⟨literal, found, rfl⟩ := List.mem_map.mp member
  have stops : ∀ type, (ofSpan index literal.span type []).stop = literal.span.stop := fun type =>
    Nat.add_sub_cancel' (Grammar.within_of_mem_literals found).ordered
  cases kind : literal.kind with
  | string =>
    have uncovered := unquoted literal found kind
    have apart : ¬ (ofSpan index literal.span .string []).Covers ⟨index, front.length⟩ := by
      rintro ⟨-, after, before⟩
      rw [stops] at before
      have covered : literal.span.covers front.length = true :=
        (Bool.and_eq_true _ _).mpr ⟨decide_eq_true after, decide_eq_true before⟩
      rw [uncovered] at covered
      cases covered
    exact avoids_of_not_covers rfl apart
  | number =>
    obtain ⟨elsewhere, ends⟩ := cut.number_apart found kind
    refine ⟨?_, ?_⟩
    · intro earlier
      rw [stops]
      exact ends earlier
    · intro starts
      exact elsewhere (startsAt_iff.mp starts).1

/-- A word at the name goes as far as the name or farther. -/
theorem length_of_mem_words {token : Token} (member : token ∈ words index line)
    (start : token.start = front.length) :
    token.length = (name ++ back.takeWhile isIdentifierChar).length := by
  obtain ⟨-, type, modifiers, -, rfl⟩ :=
    (mem_words_at_iff cut.cutsWord (cut.head?_isDigit _)).mp ⟨member, start⟩
  exact Nat.add_sub_cancel_left _ _

end Name

section Selected

variable {index : Nat} {line front back : Line} {declaration : Declaration}
  (read : Declaration.ofLine? index line = some declaration)
  (cut : CutsName line front declaration.name.toList back)
  (selected : declaration.selection = .onLine index front.length
    (front.length + declaration.name.toList.length)) {opened : OpenComment}
  (uncommented : ∀ comment ∈ (comments index opened line).1,
    ¬ comment.Covers ⟨index, front.length⟩)
  (unquoted : ∀ literal ∈ Grammar.literals line, literal.kind = .string →
    literal.span.covers front.length = false)

include selected in
theorem start_ofDeclaration : (ofDeclaration declaration).start = front.length := by
  rw [ofDeclaration, selected]
  rfl

include selected in
theorem length_ofDeclaration :
    (ofDeclaration declaration).length = declaration.name.toList.length := by
  rw [ofDeclaration, selected]
  exact Nat.add_sub_cancel_left _ _

include read cut selected uncommented unquoted

/-- No token that is found on the line reaches into the name. -/
theorem clear_at_name :
    ∀ token ∈ (comments index opened line).1 ++ others index line, token.Clear front.length := by
  intro token member
  simp only [others, declared?_eq_some read, List.mem_append, Option.mem_toList,
    Option.some.injEq] at member
  rcases member with comment | (word | rfl) | literal
  · exact (avoids_of_mem_comments uncommented comment).clear
  · exact clear_of_mem_words cut word
  · intro earlier
    rw [start_ofDeclaration selected] at earlier
    exact absurd earlier (Nat.lt_irrefl _)
  · exact (avoids_of_mem_literals cut unquoted literal).clear

/-- The tokens that start at the name: words, and then the declaration. -/
theorem filter_at_name :
    ((comments index opened line).1 ++ others index line).filter (startsAt front.length) =
      (words index line).filter (startsAt front.length) ++ [ofDeclaration declaration] := by
  have comments : (comments index opened line).1.filter (startsAt front.length) = [] :=
    List.filter_eq_nil_iff.mpr fun token member =>
      (avoids_of_mem_comments uncommented member).other
  have literals : (literals index line).filter (startsAt front.length) = [] :=
    List.filter_eq_nil_iff.mpr fun token member =>
      (avoids_of_mem_literals cut unquoted member).other
  have nonempty : (ofDeclaration declaration).length ≠ 0 := by
    rw [length_ofDeclaration selected]
    exact Nat.ne_of_gt (List.length_pos_of_ne_nil (ne_nil_of_isName cut.named))
  have starts : (ofDeclaration declaration).startsAt front.length = true :=
    startsAt_iff.mpr ⟨start_ofDeclaration selected, nonempty⟩
  rw [others, declared?_eq_some read, List.filter_append, List.filter_append, List.filter_append,
    comments, literals, List.nil_append, List.append_nil, Option.toList_some,
    List.filter_cons_of_pos starts, List.filter_nil]

/-- **The token that is selected at a declared name** is that of a word, if there is one, and else
that of the declaration. -/
theorem exists_first_at_name :
    ∃ first ∈ (ofLine index opened line).1, first.start = front.length ∧
      (first ∈ words index line ∨
        (∀ token ∈ words index line, token.start ≠ front.length) ∧
          first = ofDeclaration declaration) := by
  have clear := clear_at_name read cut selected uncommented unquoted
  have starting := filter_at_name read cut selected uncommented unquoted
  have start := start_ofDeclaration selected
  -- words that start at the name are as long as each other, and not shorter than the name
  have wordsAt : ∀ token ∈ (words index line).filter (startsAt front.length),
      token ∈ words index line ∧ token.start = front.length ∧
        token.length = (declaration.name.toList ++ back.takeWhile isIdentifierChar).length := by
    intro token member
    obtain ⟨word, starts⟩ := List.mem_filter.mp member
    obtain ⟨tokenStart, -⟩ := startsAt_iff.mp starts
    exact ⟨word, tokenStart, length_of_mem_words cut word tokenStart⟩
  have ordered : ((words index line).filter (startsAt front.length) ++
      [ofDeclaration declaration]).Pairwise fun left right => left.before right = true := by
    refine List.pairwise_append.mpr ⟨?_, List.pairwise_singleton _ _, ?_⟩
    · refine List.pairwise_of_forall_mem_list fun left memberLeft right memberRight => ?_
      obtain ⟨-, startLeft, lengthLeft⟩ := wordsAt left memberLeft
      obtain ⟨-, startRight, lengthRight⟩ := wordsAt right memberRight
      exact before_iff.mpr (.inr ⟨startLeft.trans startRight.symm, by omega⟩)
    · intro left memberLeft right memberRight
      obtain ⟨-, startLeft, lengthLeft⟩ := wordsAt left memberLeft
      rw [List.mem_singleton.mp memberRight]
      refine before_iff.mpr (.inr ⟨startLeft.trans start.symm, ?_⟩)
      rw [length_ofDeclaration selected, lengthLeft, List.length_append]
      exact Nat.le_add_right _ _
  rw [ofLine_eq_dropHidden]
  cases found : (words index line).filter (startsAt front.length) with
  | nil =>
    rw [found, List.nil_append] at starting ordered
    refine ⟨_, mem_dropHidden_of_first clear starting ordered, start, .inr ⟨?_, rfl⟩⟩
    intro token member tokenStart
    have length := length_of_mem_words cut member tokenStart
    have unlisted := List.filter_eq_nil_iff.mp found token member
    refine unlisted (startsAt_iff.mpr ⟨tokenStart, ?_⟩)
    rw [length]
    exact Nat.ne_of_gt (List.length_pos_of_ne_nil cut.cutsWord.nonempty)
  | cons first more =>
    rw [found, List.cons_append] at starting ordered
    obtain ⟨word, tokenStart, -⟩ := wordsAt first (by rw [found]; exact List.mem_cons_self)
    exact ⟨first, mem_dropHidden_of_first clear starting ordered, tokenStart, .inl word⟩

end Selected

/-! ## Declared names of a document -/

/-- The tokens and comments of a line, read with the comment that is open there, are among those of
the document. -/
theorem exists_opened {document : List Line} {offset : Nat} {line : Line}
    (present : document[offset]? = some line) (index : Nat) (opened : OpenComment) :
    ∃ before, (∀ token ∈ (ofLine (index + offset) before line).1,
        token ∈ startingAt index opened document) ∧
      ∀ token ∈ (comments (index + offset) before line).1,
        token ∈ commentsFrom index opened document := by
  induction document generalizing index offset opened with
  | nil => cases present
  | cons first rest ih =>
    cases offset with
    | zero =>
      cases present
      exact ⟨opened, fun token => List.mem_append_left _, fun token => List.mem_append_left _⟩
    | succ offset =>
      obtain ⟨before, tokens, comments⟩ := ih present (index + 1) (ofLine index opened first).2
      rw [Nat.add_assoc, Nat.add_comm 1] at tokens comments
      exact ⟨before, fun token member => List.mem_append_right _ (tokens token member),
        fun token member => List.mem_append_right _ (comments token member)⟩

end Token

/-- The places between the ends of a range. -/
def Range.Covers (range : Range) (place : Position) : Prop :=
  range.start ≤ place ∧ place < range.stop

namespace Declaration

/-- A declaration whose name has no character in common with a comment of the document or with a
string of its line. -/
structure Unhidden (document : List Line) (declaration : Declaration) : Prop where
  uncommented : ∀ comment ∈ Token.commentsFrom 0 none document, ∀ place,
    ¬ (comment.Covers place ∧ declaration.selection.Covers place)
  unquoted : ∀ line, document[declaration.line]? = some line →
    ∀ literal ∈ Grammar.literals line, literal.kind = .string → ∀ column,
      ¬ (literal.span.covers column = true ∧
        declaration.selection.Covers ⟨declaration.line, column⟩)

/-- A declaration whose name is a keyword, a modifier or a built-in type and stands there as a word:
it does not follow a dot, and no identifier character follows it. -/
structure Reserved (document : List Line) (declaration : Declaration) : Prop where
  known : (Token.ofVocabulary? declaration.name).isSome = true
  undotted : ∀ line, document[declaration.line]? = some line →
    (line.take declaration.selection.start.character).getLast? ≠ some '.'
  ends : declaration.EndsWord document

end Declaration

namespace Token

/-- A token at the name of a declaration, with the type of its kind and marked as a declaration, and
as read-only if a property is declared with `val`. -/
structure Declares (declaration : Declaration) (token : Token) : Prop where
  line : token.line = declaration.line
  start : token.start = declaration.selection.start.character
  stop : token.stop = declaration.selection.stop.character
  type : token.type = (typeOfKind declaration.kind).code
  declared : token.modifiers &&& TokenModifier.declaration.bit ≠ 0
  readonly : declaration.kind = .property → declaration.mutable = false →
    token.modifiers &&& TokenModifier.readonly.bit ≠ 0

/-- A modifier of a set has its bit. -/
theorem bit_of_mem {modifier : TokenModifier} {modifiers : List TokenModifier}
    (member : modifier ∈ modifiers) : TokenModifier.bits modifiers &&& modifier.bit ≠ 0 := by
  have sets : ∀ set ∈ TokenModifier.all.sublists, ∀ modifier ∈ set,
      set.foldr (fun modifier sum => modifier.bit + sum) 0 &&& modifier.bit ≠ 0 := by decide
  have legend : modifier ∈ TokenModifier.all := by cases modifier <;> decide
  refine sets _ (List.mem_sublists.mpr List.filter_sublist) modifier ?_
  exact List.mem_filter.mpr ⟨legend, List.contains_iff_mem.mpr member⟩

theorem declares_ofDeclaration {index : Nat} {front : Line} {declaration : Declaration}
    (selected : declaration.selection = .onLine index front.length
      (front.length + declaration.name.toList.length)) :
    (ofDeclaration declaration).Declares declaration where
  line := rfl
  start := rfl
  stop := by
    rw [stop, start_ofDeclaration selected, length_ofDeclaration selected, selected]
    rfl
  type := rfl
  declared := bit_of_mem List.mem_cons_self
  readonly := by
    intro property immutable
    refine bit_of_mem ?_
    simp [modifiersOf, property, immutable]

/-- A word of the vocabulary is not highlighted as a declaration. -/
theorem code_ne_of_ofVocabulary? {word : String} {type : TokenType}
    {modifiers : List TokenModifier} (known : ofVocabulary? word = some (type, modifiers))
    (kind : DeclarationKind) : type.code ≠ (typeOfKind kind).code := by
  unfold ofVocabulary? at known
  split at known
  · cases known
    cases kind <;> decide
  · split at known
    · cases known
      cases kind <;> decide
    · split at known
      · cases known
        cases kind <;> decide
      · cases known

/-- A declared name is reserved if a word of the vocabulary is found where it starts. -/
theorem reserved_iff {document : List Line} {line front back : Line} {declaration : Declaration}
    (present : document[declaration.line]? = some line)
    (cut : CutsName line front declaration.name.toList back)
    (selected : declaration.selection = .onLine declaration.line front.length
      (front.length + declaration.name.toList.length)) :
    declaration.Reserved document ↔
      ∃ token ∈ words declaration.line line, token.start = front.length := by
  have before : line.take declaration.selection.start.character = front := by
    rw [selected, cut.whole]
    exact List.take_left
  have behind : line.drop declaration.selection.stop.character = back := by
    rw [selected, cut.whole]
    exact (List.drop_length_add_append ..).trans List.drop_left
  have wordAt {token : Token} :
      token ∈ words declaration.line line ∧ token.start = front.length ↔ _ :=
    mem_words_at_iff cut.cutsWord (cut.head?_isDigit _)
  constructor
  · rintro ⟨known, undotted, ends⟩
    obtain ⟨⟨type, modifiers⟩, known⟩ := Option.isSome_iff_exists.mp known
    have stop := ends line present
    rw [behind] at stop
    have alone : back.takeWhile isIdentifierChar = [] := takeWhile_eq_nil_of_head? stop
    have dotless := undotted line present
    rw [before] at dotless
    obtain ⟨member, start⟩ := wordAt.mpr ⟨dotless, type, modifiers, by
      rw [alone, List.append_nil, String.ofList_toList]; exact known, rfl⟩
    exact ⟨_, member, start⟩
  · rintro ⟨token, member, start⟩
    obtain ⟨dotless, type, modifiers, known, -⟩ := wordAt.mp ⟨member, start⟩
    have isSome : (ofVocabulary? (String.ofList
        (declaration.name.toList ++ back.takeWhile isIdentifierChar))).isSome = true := by
      rw [known]
      rfl
    have named := isName_of_ofVocabulary? isSome
    rw [String.toList_ofList] at named
    have alone := takeWhile_eq_nil_of_head? (cut.isName_word_iff.mp named)
    rw [alone, List.append_nil, String.ofList_toList] at isSome
    refine ⟨isSome, ?_, ?_⟩
    · intro other same
      obtain rfl := Option.some.inj (present.symm.trans same)
      rw [before]
      exact dotless
    · intro other same
      obtain rfl := Option.some.inj (present.symm.trans same)
      rw [behind]
      have stop := cut.cutsWord.ends
      rwa [← List.nil_append (back.dropWhile _), ← alone, List.takeWhile_append_dropWhile] at stop

/-- **Declared names are highlighted as declarations unless they are reserved.**  A declared name
that stands in no comment and in no string has a token at its place, with the type of its kind and
marked as a declaration, exactly if the name does not stand there as a word of the vocabulary. -/
theorem declared_name_highlighted_iff {document : List Line} {declaration : Declaration}
    (declared : declaration ∈ Declaration.ofLines document)
    (unhidden : declaration.Unhidden document) :
    (∃ token ∈ ofLines document, token.Declares declaration) ↔
      ¬ declaration.Reserved document := by
  obtain ⟨line, present, read⟩ := Declaration.mem_ofLines_iff.mp declared
  obtain ⟨front, back, cut, selected⟩ := Declaration.exists_cutsName read
  obtain ⟨before, tokens, comments⟩ := exists_opened present 0 none
  rw [Nat.zero_add] at tokens comments
  have nonempty := List.length_pos_of_ne_nil (ne_nil_of_isName cut.named)
  have within : declaration.selection.Covers ⟨declaration.line, front.length⟩ := by
    rw [selected]
    exact ⟨.inr ⟨rfl, Nat.le_refl _⟩, .inr ⟨rfl, Nat.lt_add_of_pos_right nonempty⟩⟩
  obtain ⟨first, inLine, start, way⟩ := exists_first_at_name read cut selected
    (fun comment member covers => unhidden.uncommented comment (comments comment member) _
      ⟨covers, within⟩)
    (fun literal member kind => Bool.eq_false_iff.mpr fun covers =>
      unhidden.unquoted line present literal member kind _ ⟨covers, within⟩)
  have selectedFirst : first ∈ ofLines document := tokens first inLine
  rw [reserved_iff present cut selected]
  constructor
  · rintro ⟨token, member, declares⟩ ⟨word, isWord, wordStart⟩
    rcases way with isFirst | ⟨none_there, -⟩
    · -- both tokens have the first character of the name
      have length := length_of_mem_words cut isFirst start
      have wordLength := List.length_pos_of_ne_nil cut.cutsWord.nonempty
      have covers : token.Covers ⟨declaration.line, front.length⟩ := by
        have tokenStart := declares.start
        have tokenStop := declares.stop
        rw [selected] at tokenStart tokenStop
        refine ⟨declares.line, Nat.le_of_eq tokenStart, ?_⟩
        rw [tokenStop]
        exact Nat.lt_add_of_pos_right nonempty
      have coversFirst : first.Covers ⟨declaration.line, front.length⟩ := by
        refine ⟨line_of_mem_ofLine inLine, Nat.le_of_eq start, ?_⟩
        rw [stop, start, length]
        exact Nat.lt_add_of_pos_right wordLength
      have same : token = first := by
        by_contra distinct
        exact not_covers_of_mem_ofLines member selectedFirst distinct _ ⟨covers, coversFirst⟩
      obtain ⟨span, -, -, -, type, modifiers, known, rfl⟩ := mem_words_iff.mp isFirst
      rw [same] at declares
      exact code_ne_of_ofVocabulary? known declaration.kind declares.type
    · exact none_there word isWord wordStart
  · intro unreserved
    rcases way with isFirst | ⟨-, rfl⟩
    · exact absurd ⟨first, isFirst, start⟩ unreserved
    · exact ⟨_, selectedFirst, declares_ofDeclaration selected⟩

theorem mem_ofLines_singleton {line : Line} {declaration : Declaration}
    (read : Declaration.ofLine? 0 line = some declaration) :
    declaration ∈ Declaration.ofLines [line] := by
  rw [Declaration.mem_ofLines_iff, Declaration.line_of_ofLine? read]
  exact ⟨line, rfl, read⟩

/-- A line without comments and strings hides nothing. -/
theorem unhidden_singleton {line : Line} (uncommented : CommentSpan.ofLine none line = ([], none))
    (unquoted : ∀ literal ∈ Grammar.literals line, literal.kind = .number)
    (declaration : Declaration) : declaration.Unhidden [line] where
  uncommented := by
    intro comment member
    simp only [commentsFrom, comments, uncommented, List.map_nil, List.append_nil] at member
    cases member
  unquoted := by
    intro other present literal member kind
    obtain rfl := List.mem_singleton.mp (List.mem_of_getElem? present)
    rw [unquoted literal member] at kind
    cases kind

/-- The name of an extension property follows a dot, and is highlighted whatever it is. -/
theorem declared_name_highlighted_iff_extension :
    let document := lines "val Int.value = 1"
    ∃ declaration ∈ Declaration.ofLines document, declaration.name = "value" ∧
      declaration.Unhidden document ∧ ∃ token ∈ ofLines document, token.Declares declaration := by
  intro document
  have whole : document = ["val Int.value = 1".toList] := by decide +kernel
  have read : Declaration.ofLine? 0 "val Int.value = 1".toList =
      some ⟨"value", .property, 0, .onLine 0 0 17, .onLine 0 8 13, [], "val Int.value = 1", none,
        none, false⟩ := by decide +kernel
  have numbers : ∀ literal ∈ Grammar.literals "val Int.value = 1".toList,
      literal.kind = .number := by
    have found : Grammar.literals "val Int.value = 1".toList = [⟨.number, ⟨16, 17⟩⟩] := by
      decide +kernel
    rw [found]
    decide
  rw [whole]
  have listed := mem_ofLines_singleton read
  have unhidden := unhidden_singleton (by decide +kernel) numbers
    ⟨"value", .property, 0, .onLine 0 0 17, .onLine 0 8 13, [], "val Int.value = 1", none, none,
      false⟩
  refine ⟨_, listed, rfl, unhidden, (declared_name_highlighted_iff listed unhidden).mpr ?_⟩
  intro reserved
  exact reserved.undotted _ rfl (by decide)

/-- **A declared name that is a modifier is highlighted as a modifier**, also where nothing hides
it. -/
theorem declared_name_taken_for_modifier :
    let document := lines "val value = 1"
    ∃ declaration ∈ Declaration.ofLines document, declaration.Unhidden document ∧
      ∀ token ∈ ofLines document, ¬ token.Declares declaration := by
  intro document
  have whole : document = ["val value = 1".toList] := by decide +kernel
  have read : Declaration.ofLine? 0 "val value = 1".toList =
      some ⟨"value", .property, 0, .onLine 0 0 13, .onLine 0 4 9, [], "val value = 1", none, none,
        false⟩ := by decide +kernel
  have isLiteral : Grammar.literals "val value = 1".toList = [⟨.number, ⟨12, 13⟩⟩] := by
    decide +kernel
  have isComment : CommentSpan.ofLine none "val value = 1".toList = ([], none) := by decide +kernel
  have tokens : ofLines document = [⟨0, 0, 3, 0, 0⟩, ⟨0, 4, 5, 1, 0⟩, ⟨0, 12, 1, 9, 0⟩] := by
    have line : ofLine 0 none "val value = 1".toList =
        ([⟨0, 0, 3, 0, 0⟩, ⟨0, 4, 5, 1, 0⟩, ⟨0, 12, 1, 9, 0⟩], none) :=
      (ofLine_of_pairwise (by decide +kernel)).trans (by decide +kernel)
    simp only [whole, ofLines, startingAt, line]
    rfl
  have numbers : ∀ literal ∈ Grammar.literals "val value = 1".toList, literal.kind = .number := by
    rw [isLiteral]
    decide
  rw [tokens, whole]
  refine ⟨_, mem_ofLines_singleton read, unhidden_singleton isComment numbers _, ?_⟩
  intro token member declares
  have type := declares.type
  have start := declares.start
  simp only [List.mem_cons, List.not_mem_nil, or_false] at member
  rcases member with rfl | rfl | rfl
  · cases start
  · cases type
  · cases start

end Token

end KotlinAssist
