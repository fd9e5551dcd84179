import KotlinAssist.Proofs.Grammar.Literal
import KotlinAssist.Proofs.Grammar.Writing
import KotlinAssist.Proofs.Highlight.Comments
import KotlinAssist.Proofs.Highlight.Order
import KotlinAssist.Proofs.Sorting
import KotlinAssist.Proofs.Word.Line

/-!
# Comments hide what they contain

The tokens of a line are found in four ways, sorted, and selected from the left.  In a text without
quotes no comment is lost on the way.  A comment that starts on the line starts with a slash, and no
other token has one: what stands before the comment ends there.  A comment that is continued from
the line before starts with the line, where other tokens may start too; but it ends with a closing
mark, which no other token has, or with the line.  It is thus at least as long as any of them, and
of two tokens with the same columns the comment was found first.

## Main definitions

* `Token.commentsFrom` — the comments of lines that are read one after the other
* `Token.Plain` — a token without the characters of a comment mark
* `Token.Marked` — a comment that starts with its mark
* `Token.Separable` — comments and plain tokens that are found beside them
* `Token.Covers` — the characters of a token

## Main statements

* `Token.filter_dropHidden` — tokens into which no other reaches are all selected
* `Token.filter_ofLine` — the comments among the tokens of a line
* `Token.comments_shadow` — the comments among the tokens of a text
-/

namespace KotlinAssist

open Text

/-- A character that stands between the columns of a span is one of its characters. -/
theorem Text.Span.mem_slice {text : List Char} {span : Span} {column : Nat} {c : Char}
    (present : text[column]? = some c) (after : span.start ≤ column) (before : column < span.stop) :
    c ∈ span.slice text := by
  have place : (span.slice text)[column - span.start]? = some c := by
    rw [Span.slice, List.getElem?_take_of_lt (by omega), List.getElem?_drop,
      Nat.add_sub_cancel' after]
    exact present
  exact List.mem_of_getElem? place

/-! ## Comments that start on a line -/

namespace CommentSpan

theorem slash_of_comment {before : Option Char} {text : List Char} {length : Nat}
    (found : comment before text = some length) : ∃ rest, text = '/' :: rest := by
  unfold comment at found
  split at found
  · exact ⟨_, rfl⟩
  · exact ⟨_, rfl⟩
  · cases found

/-- A comment that is found behind some characters starts with a slash, and is not empty. -/
theorem starts_of_mem_inCode {front text : List Char} {found : CommentSpan}
    (member : found ∈ (inCode front.length text).1) :
    front.length ≤ found.span.start ∧ found.span.start < found.span.stop ∧
      (front ++ text)[found.span.start]? = some '/' := by
  obtain ⟨span, matched, rfl⟩ := List.mem_map.mp member
  obtain ⟨code, back, length, rfl, -, -, accepted, rfl⟩ := exists_of_mem_matchesFrom matched
  obtain ⟨rest, rfl⟩ := slash_of_comment accepted
  have nonempty := pos_of_comment accepted
  refine ⟨Nat.le_add_right _ _, ?_, ?_⟩
  · show front.length + (0 + code.length) < front.length + (0 + code.length + length)
    omega
  · show (front ++ (code ++ '/' :: rest))[front.length + (0 + code.length)]? = some '/'
    rw [Nat.zero_add, ← List.append_assoc, ← List.length_append,
      List.getElem?_append_right (Nat.le_refl _), Nat.sub_self]
    rfl

theorem pairwise_inCode (column : Nat) (text : List Char) :
    (inCode column text).1.Pairwise fun left right => left.span.stop ≤ right.span.start := by
  refine List.pairwise_map.mpr ((pairwise_matchesFrom comment 0 0 none text).imp ?_)
  intro left right ordered
  exact Nat.add_le_add_left ordered.1 column

end CommentSpan

namespace Token

/-! ## Comments and other tokens -/

/-- Whether a token is that of a comment. -/
def isComment (token : Token) : Bool :=
  token.type == TokenType.comment.code

theorem isComment_ofSpan (index : Nat) (span : Span) (type : TokenType)
    (modifiers : List TokenModifier) :
    (ofSpan index span type modifiers).isComment = decide (type = .comment) := by
  cases type <;> rfl

/-- The token of a comment. -/
def ofComment (index : Nat) (found : CommentSpan) : Token :=
  ofSpan index found.span .comment (if found.documentation then [.documentation] else [])

/-- A token of a line, other than a comment, that has no character of a comment mark. -/
structure Plain (text : Line) (token : Token) : Prop where
  inside : token.stop ≤ text.length
  unmarked : ∀ column, token.start ≤ column → column < token.stop →
    text[column]? ≠ some '/' ∧ text[column]? ≠ some '*'
  other : token.isComment = false

/-- A comment that starts with its mark, at a column or behind it. -/
structure Marked (text : Line) (column : Nat) (token : Token) : Prop where
  behind : column ≤ token.start
  nonempty : 0 < token.length
  mark : text[token.start]? = some '/'
  isComment : token.isComment = true

/-- A span of characters of a class, to which those of comment marks do not belong, gives a plain
token. -/
theorem plain_ofSpan {text : Line} {span : Span} {type : TokenType} {inside : Char → Bool}
    (within : span.Within text) (chars : ∀ c ∈ span.slice text, inside c = true)
    (slash : inside '/' = false) (star : inside '*' = false) (other : type ≠ .comment)
    (index : Nat) (modifiers : List TokenModifier) :
    Plain text (ofSpan index span type modifiers) := by
  have stops : (ofSpan index span type modifiers).stop = span.stop :=
    Nat.add_sub_cancel' within.ordered
  have absent {c : Char} (outside : inside c = false) (column : Nat)
      (after : span.start ≤ column) (before : column < span.stop) : text[column]? ≠ some c := by
    intro present
    rw [chars c (Span.mem_slice present after before)] at outside
    cases outside
  refine ⟨?_, ?_, ?_⟩
  · rw [stops]
    exact within.inside
  · intro column after before
    rw [stops] at before
    exact ⟨absent slash column after before, absent star column after before⟩
  · rw [isComment_ofSpan]
    exact decide_eq_false other

theorem isIdentifierChar_of_wordRun {before : Option Char} {text : List Char} {length : Nat}
    (found : wordRun before text = some length) :
    ∀ c ∈ text.take length, isIdentifierChar c = true := by
  unfold wordRun at found
  split at found
  · cases found
  · cases found
    rw [← List.prefix_iff_eq_take.mp (List.takeWhile_prefix isIdentifierChar)]
    exact fun c member => List.mem_takeWhile_imp member

theorem slice_wordRun {line : Line} {span : Span} (matched : span ∈ matchesOf wordRun line) :
    ∀ c ∈ span.slice line, isIdentifierChar c = true := by
  obtain ⟨before, text, length, accepted, slice⟩ := slice_of_mem_matchesOf matched
  rw [slice]
  exact isIdentifierChar_of_wordRun accepted

/-- No word of the vocabulary is a comment. -/
theorem ne_comment_of_ofVocabulary? {word : String} {type : TokenType}
    {modifiers : List TokenModifier} (known : ofVocabulary? word = some (type, modifiers)) :
    type ≠ .comment := by
  rintro rfl
  unfold ofVocabulary? at known
  split at known
  · cases known
  · split at known
    · cases known
    · split at known <;> cases known

theorem plain_of_mem_words {index : Nat} {line : Line} {token : Token}
    (member : token ∈ words index line) : Plain line token := by
  obtain ⟨span, matched, -, -, type, modifiers, known, rfl⟩ := mem_words_iff.mp member
  have within := within_of_mem_matchesOf bounded_wordRun matched
  exact plain_ofSpan within (slice_wordRun matched) (by decide) (by decide)
    (ne_comment_of_ofVocabulary? known) index modifiers

theorem plain_of_declared? {index : Nat} {line : Line} {token : Token}
    (found : declared? index line = some token) : Plain line token := by
  obtain ⟨declaration, read, rfl⟩ := Option.map_eq_some_iff.mp found
  obtain ⟨front, back, cut, -, named, selected⟩ := Declaration.exists_cut_of_ofLine? read
  have slice : (Span.after front declaration.name.toList).slice line = declaration.name.toList := by
    rw [cut, List.append_assoc]
    exact CommentSpan.slice_after _ _ _
  have within : (Span.after front declaration.name.toList).Within line := by
    refine ⟨Nat.le_add_right _ _, ?_⟩
    rw [cut, List.length_append, List.length_append]
    exact Nat.le_add_right _ _
  have chars := isNamePart_of_isName named
  rw [← slice] at chars
  simp only [selected]
  refine plain_ofSpan within chars (by decide) (by decide) ?_ index _
  cases declaration.kind <;> exact nofun

theorem plain_of_mem_literals {index : Nat} {line : Line} {token : Token}
    (unquoted : '"' ∉ line ∧ '\x27' ∉ line) (member : token ∈ literals index line) :
    Plain line token := by
  obtain ⟨literal, found, rfl⟩ := List.mem_map.mp member
  obtain ⟨kind, chars⟩ := Grammar.number_of_mem_literals unquoted found
  have number : TokenType.number ≠ .comment := by decide
  simp only [kind]
  exact plain_ofSpan (Grammar.within_of_mem_literals found) chars (by decide) (by decide) number
    index []

/-- The tokens of a line that are found beside its comments. -/
def others (index : Nat) (line : Line) : List Token :=
  words index line ++ (declared? index line).toList ++ literals index line

theorem plain_of_mem_others {index : Nat} {line : Line} {token : Token}
    (unquoted : '"' ∉ line ∧ '\x27' ∉ line) (member : token ∈ others index line) :
    Plain line token := by
  simp only [others, List.mem_append] at member
  rcases member with (word | name) | literal
  · exact plain_of_mem_words word
  · exact plain_of_declared? (Option.mem_toList.mp name)
  · exact plain_of_mem_literals unquoted literal

/-- Comments in order that start with their marks, and plain tokens that are found beside them. -/
structure Separable (line : Line) (column : Nat) (found plain : List Token) : Prop where
  marked : ∀ token ∈ found, Marked line column token
  ordered : found.Pairwise fun left right => left.stop ≤ right.start
  unmarked : ∀ token ∈ plain, Plain line token

theorem marked_inCode (index : Nat) (front text : List Char) :
    ∀ token ∈ (CommentSpan.inCode front.length text).1.map (ofComment index),
      Marked (front ++ text) front.length token := by
  intro token member
  obtain ⟨found, present, rfl⟩ := List.mem_map.mp member
  obtain ⟨behind, nonempty, mark⟩ := CommentSpan.starts_of_mem_inCode present
  exact ⟨behind, Nat.sub_pos_of_lt nonempty, mark, isComment_ofSpan _ _ _ _⟩

theorem ordered_inCode (index : Nat) (front text : List Char) :
    ((CommentSpan.inCode front.length text).1.map (ofComment index)).Pairwise fun left right =>
      left.stop ≤ right.start := by
  refine List.pairwise_map.mpr ((CommentSpan.pairwise_inCode front.length text).imp_of_mem ?_)
  intro left right memberLeft _ ends
  obtain ⟨-, nonempty, -⟩ := CommentSpan.starts_of_mem_inCode memberLeft
  show left.span.start + (left.span.stop - left.span.start) ≤ right.span.start
  omega

/-- What is found behind some characters of a line without quotes. -/
theorem separable_inCode {front text : List Char}
    (unquoted : '"' ∉ front ++ text ∧ '\x27' ∉ front ++ text) (index : Nat) :
    Separable (front ++ text) front.length
      ((CommentSpan.inCode front.length text).1.map (ofComment index))
      (others index (front ++ text)) where
  marked := marked_inCode index front text
  ordered := ordered_inCode index front text
  unmarked := fun _ => plain_of_mem_others unquoted

/-! ## Sorting and selecting -/

theorem before_iff {left right : Token} :
    left.before right = true ↔
      left.start < right.start ∨ left.start = right.start ∧ right.length ≤ left.length := by
  simp only [before, Bool.or_eq_true, Bool.and_eq_true, decide_eq_true_eq, beq_iff_eq]

theorem trans_before (left middle right : Token) (first : left.before middle = true)
    (second : middle.before right = true) : left.before right = true := by
  rw [before_iff] at first second ⊢
  omega

theorem total_before (left right : Token) : (left.before right || right.before left) = true := by
  rw [Bool.or_eq_true, before_iff, before_iff]
  omega

/-- **Tokens into which no token before them reaches are all selected.** -/
theorem filter_dropHidden {chosen : Token → Bool} {tokens : List Token} {column : Nat}
    (shown : ∀ token ∈ tokens, chosen token = true → 0 < token.length ∧ column ≤ token.start)
    (apart : tokens.Pairwise fun left right => chosen right = true → left.stop ≤ right.start) :
    (dropHidden column tokens).filter chosen = tokens.filter chosen := by
  induction tokens generalizing column with
  | nil => rfl
  | cons first rest ih =>
    obtain ⟨ends, apart⟩ := List.pairwise_cons.mp apart
    obtain ⟨here, later⟩ := List.forall_mem_cons.mp shown
    rw [dropHidden]
    split
    · next hidden =>
      -- a token that is dropped is not one of the chosen
      have unchosen : ¬ chosen first = true := by
        intro isChosen
        have visible := here isChosen
        simp only [Bool.or_eq_true, decide_eq_true_eq] at hidden
        omega
      rw [List.filter_cons_of_neg unchosen]
      exact ih later apart
    · have rest : (dropHidden first.stop rest).filter chosen = rest.filter chosen := by
        refine ih ?_ apart
        intro token member isChosen
        exact ⟨(later token member isChosen).1, ends token member isChosen⟩
      rw [List.filter_cons, List.filter_cons, rest]

section Separable

variable {line : Line} {column : Nat} {found plain : List Token}
  (separable : Separable line column found plain)

include separable

/-- Each of the tokens is a comment or plain. -/
theorem Separable.marked_or_plain {token : Token}
    (member : token ∈ (found ++ plain).mergeSort before) :
    Marked line column token ∨ Plain line token :=
  (List.mem_append.mp (List.mem_mergeSort.mp member)).imp (separable.marked token)
    (separable.unmarked token)

/-- The comments keep their order when plain tokens are sorted with them. -/
theorem Separable.filter_sorted :
    ((found ++ plain).mergeSort before).filter isComment = found := by
  have all : found.filter isComment = found :=
    List.filter_eq_self.mpr fun token member => (separable.marked token member).isComment
  have none : plain.filter isComment = [] :=
    List.filter_eq_nil_iff.mpr fun token member => by
      rw [(separable.unmarked token member).other]
      exact Bool.false_ne_true
  have comments : (found ++ plain).filter isComment = found := by
    rw [List.filter_append, all, none, List.append_nil]
  have sorted : found.Pairwise fun left right => left.before right = true := by
    refine separable.ordered.imp_of_mem ?_
    intro left right member _ ends
    have nonempty := (separable.marked left member).nonempty
    rw [stop] at ends
    exact before_iff.mpr (.inl (by omega))
  rw [← comments] at sorted
  rw [filter_mergeSort trans_before total_before sorted, comments]

/-- No token that is sorted before a comment reaches into it. -/
theorem Separable.apart_sorted :
    ((found ++ plain).mergeSort before).Pairwise fun left right =>
      right.isComment = true → left.stop ≤ right.start := by
  have ordered := separable.ordered
  rw [← separable.filter_sorted, List.pairwise_filter] at ordered
  have sorted := List.pairwise_mergeSort trans_before total_before (found ++ plain)
  refine (ordered.and sorted).imp_of_mem ?_
  intro left right memberLeft memberRight ⟨ends, before⟩ isComment
  rcases separable.marked_or_plain memberLeft with comment | plainLeft
  · exact ends comment.isComment isComment
  · rcases separable.marked_or_plain memberRight with comment | plainRight
    · -- a plain token that reached into the comment would have its slash
      by_contra overlap
      have starts : left.start ≤ right.start := by
        rw [before_iff] at before
        omega
      exact (plainLeft.unmarked right.start starts (Nat.not_le.mp overlap)).1 comment.mark
    · rw [plainRight.other] at isComment
      cases isComment

/-- The comments are all selected from among the plain tokens. -/
theorem Separable.filter_selected :
    (dropHidden column ((found ++ plain).mergeSort before)).filter isComment = found := by
  refine (filter_dropHidden ?_ separable.apart_sorted).trans separable.filter_sorted
  intro token member isComment
  rcases separable.marked_or_plain member with comment | plain
  · exact ⟨comment.nonempty, comment.behind⟩
  · rw [plain.other] at isComment
    cases isComment

/-- A comment that takes the line up to their column, at least as far as any plain token that starts
with the line, is selected before them. -/
theorem Separable.filter_continued (nonempty : 0 < column)
    (longest : ∀ token ∈ plain, token.start = 0 → token.stop ≤ column) (index : Nat)
    (documentation : Bool) :
    let first := ofComment index ⟨⟨0, column⟩, documentation⟩
    (dropHidden 0 ((first :: found ++ plain).mergeSort before)).filter isComment =
      first :: found := by
  intro first
  have start : first.start = 0 := rfl
  have length : first.length = column := rfl
  have stops : first.stop = column := Nat.zero_add column
  have leads : ∀ token ∈ found ++ plain, first.before token = true := by
    intro token member
    rw [before_iff, start, length]
    rcases List.mem_append.mp member with later | other
    · have behind := (separable.marked token later).behind
      exact .inl (by omega)
    · have shorter := longest token other
      rw [stop] at shorter
      omega
  have shown : ¬ (decide (first.length = 0) || decide (first.start < 0)) = true := by
    simp only [Bool.or_eq_true, decide_eq_true_eq]
    omega
  rw [List.cons_append, mergeSort_cons_of_first trans_before total_before leads, dropHidden,
    if_neg shown, List.filter_cons_of_pos (isComment_ofSpan _ _ _ _), stops,
    separable.filter_selected]

end Separable

/-! ## The comments of a line -/

theorem ofLine_eq_dropHidden (index : Nat) (opened : OpenComment) (line : Line) :
    (ofLine index opened line).1 =
      dropHidden 0 (((comments index opened line).1 ++ others index line).mergeSort before) := by
  rw [others, ← List.append_assoc, ← List.append_assoc]
  rfl

/-- **The comments among the tokens of a line without quotes** are the comments of the line. -/
theorem filter_ofLine {line : Line} (unquoted : '"' ∉ line ∧ '\x27' ∉ line) (index : Nat)
    (opened : OpenComment) :
    (ofLine index opened line).1.filter isComment = (comments index opened line).1 := by
  have read : (comments index opened line).1 =
      (CommentSpan.ofLine opened line).1.map (ofComment index) := rfl
  rw [ofLine_eq_dropHidden, read]
  cases opened with
  | none =>
    rw [← List.nil_append line] at unquoted
    exact (separable_inCode unquoted index).filter_selected
  | some documentation =>
    cases cut : cutAt? "*/".toList line with
    | none =>
      -- the line belongs to the open comment, and other tokens end on the line
      have alone (column : Nat) : Separable line column [] (others index line) :=
        ⟨List.forall_mem_nil _, .nil, fun _ => plain_of_mem_others unquoted⟩
      rw [CommentSpan.ofLine_unclosed cut]
      split
      · exact (alone 0).filter_selected
      · next some_left =>
        rw [List.isEmpty_iff] at some_left
        refine (alone line.length).filter_continued (List.length_pos_of_ne_nil some_left) ?_ index
          documentation
        exact fun token member _ => (plain_of_mem_others unquoted member).inside
    | some divided =>
      -- another token that starts with the line ends before the closing mark
      obtain ⟨inside, tail⟩ := divided
      obtain rfl := append_of_cutAt? cut
      have length : (inside ++ "*/".toList).length = inside.length + 2 := List.length_append
      have star : (inside ++ "*/".toList ++ tail)[inside.length]? = some '*' := by
        rw [List.append_assoc, List.getElem?_append_right (Nat.le_refl _), Nat.sub_self]
        rfl
      rw [CommentSpan.ofLine_closed cut, ← length]
      refine (separable_inCode unquoted index).filter_continued (length ▸ Nat.succ_pos _) ?_ index
        documentation
      intro token member start
      have plain := plain_of_mem_others unquoted member
      by_contra longer
      exact (plain.unmarked inside.length (by omega) (by omega)).2 star

/-! ## The comments of a document -/

/-- The comments of lines numbered from `index` on, each read with the comment that the line before
has left open. -/
def commentsFrom (index : Nat) (opened : OpenComment) : List Line → List Token
  | [] => []
  | line :: rest =>
    let (tokens, opened) := comments index opened line
    tokens ++ commentsFrom (index + 1) opened rest

theorem filter_startingAt {document : List Line}
    (unquoted : ∀ line ∈ document, '"' ∉ line ∧ '\x27' ∉ line) (index : Nat)
    (opened : OpenComment) :
    (startingAt index opened document).filter isComment = commentsFrom index opened document := by
  induction document generalizing index opened with
  | nil => rfl
  | cons line rest ih =>
    obtain ⟨here, later⟩ := List.forall_mem_cons.mp unquoted
    rw [startingAt, commentsFrom, List.filter_append, filter_ofLine here, ih later]
    rfl

/-- The characters that a token covers, by their places in the document. -/
def Covers (token : Token) (place : Position) : Prop :=
  token.line = place.line ∧ token.start ≤ place.character ∧ place.character < token.stop

theorem Apart.not_covers {left right : Token} (apart : left.Apart right) (place : Position) :
    ¬ (left.Covers place ∧ right.Covers place) := by
  rintro ⟨⟨lineLeft, -, before⟩, lineRight, after, -⟩
  rcases apart with earlier | ⟨-, ends⟩ <;> omega

/-- Two tokens of a document share no character. -/
theorem not_covers_of_mem_ofLines {document : List Line} {left right : Token}
    (memberLeft : left ∈ ofLines document) (memberRight : right ∈ ofLines document)
    (distinct : left ≠ right) (place : Position) : ¬ (left.Covers place ∧ right.Covers place) := by
  have apart : (ofLines document).Pairwise fun left right =>
      ¬ (left.Covers place ∧ right.Covers place) :=
    (apart_ofLines document).imp fun apart => apart.not_covers place
  have symm : Std.Symm fun left right : Token => ¬ (left.Covers place ∧ right.Covers place) :=
    ⟨fun _ _ other both => other both.symm⟩
  exact apart.forall memberLeft memberRight distinct

/-- **Comments hide what they contain.**  In a text without quotes, the comments among the tokens
are all comments that are found in its lines, read one after the other with the comment that is open
between them; and no other token has a character in common with one of them. -/
theorem comments_shadow (text : String) (unquoted : '"' ∉ text.toList ∧ '\x27' ∉ text.toList) :
    (ofLines (lines text)).filter isComment = commentsFrom 0 none (lines text) ∧
    ∀ comment ∈ commentsFrom 0 none (lines text), ∀ token ∈ ofLines (lines text),
      token ≠ comment → ∀ place, ¬ (token.Covers place ∧ comment.Covers place) := by
  have unquotedLines : ∀ line ∈ lines text, '"' ∉ line ∧ '\x27' ∉ line := by
    intro line member
    have chars := (sublist_of_mem_splitLines member).subset
    exact ⟨fun double => unquoted.1 (chars double), fun single => unquoted.2 (chars single)⟩
  have same := filter_startingAt unquotedLines 0 none
  refine ⟨same, ?_⟩
  intro comment isComment token member distinct
  rw [← same] at isComment
  exact not_covers_of_mem_ofLines member (List.mem_of_mem_filter isComment) distinct

/-- A keyword that takes a whole line of a comment is hidden, the one behind the comment is not. -/
theorem comments_shadow_continued :
    let text := "/*\nval\n*/ in"
    ('"' ∉ text.toList ∧ '\x27' ∉ text.toList) ∧
    (ofLines (lines text)).filter isComment =
      [⟨0, 0, 2, 10, 0⟩, ⟨1, 0, 3, 10, 0⟩, ⟨2, 0, 2, 10, 0⟩] ∧
    ∀ place, ¬ (Covers ⟨2, 3, 2, 0, 0⟩ place ∧ Covers ⟨2, 0, 2, 10, 0⟩ place) := by
  intro text
  have unquoted : '"' ∉ text.toList ∧ '\x27' ∉ text.toList := by decide
  have found : commentsFrom 0 none (lines text) =
      [⟨0, 0, 2, 10, 0⟩, ⟨1, 0, 3, 10, 0⟩, ⟨2, 0, 2, 10, 0⟩] := by decide +kernel
  have whole : lines text = ["/*".toList, "val".toList, "*/ in".toList] := by decide
  have first : ofLine 0 none "/*".toList = ([⟨0, 0, 2, 10, 0⟩], some false) :=
    (ofLine_of_pairwise (by decide +kernel)).trans (by decide +kernel)
  have second : ofLine 1 (some false) "val".toList = ([⟨1, 0, 3, 10, 0⟩], some false) :=
    (ofLine_of_pairwise (by decide +kernel)).trans (by decide +kernel)
  have third : ofLine 2 (some false) "*/ in".toList = ([⟨2, 0, 2, 10, 0⟩, ⟨2, 3, 2, 0, 0⟩], none) :=
    (ofLine_of_pairwise (by decide +kernel)).trans (by decide +kernel)
  have all : ofLines (lines text) =
      [⟨0, 0, 2, 10, 0⟩, ⟨1, 0, 3, 10, 0⟩, ⟨2, 0, 2, 10, 0⟩, ⟨2, 3, 2, 0, 0⟩] := by
    simp only [whole, ofLines, startingAt, first, second, third]
    rfl
  obtain ⟨same, apart⟩ := comments_shadow text unquoted
  rw [found] at same apart
  rw [all] at apart
  exact ⟨unquoted, same, apart _ (by decide) _ (by decide) (by decide)⟩

end Token

end KotlinAssist
