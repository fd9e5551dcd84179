import KotlinAssist.Proofs.Highlight.Lexer

/-!
# Comments found by searching for marks

The comments of a line can also be found without looking at each character, by searching for marks.
One turn finds one comment.  Outside of comments it looks for both marks that start a comment, and
the one that stands first counts; in a block comment it looks for the closing mark.  A comment that
is closed is followed by another turn behind it, and every other turn is the last.

A turn that is followed by another has passed a closing mark, so the next one starts further on in
the line: the turns come to an end, and the comments that they have found are those of the line.

## Main definitions

* `CommentScan` — where the search is
* `CommentScan.turn` — one turn of it
* `CommentScan.Ends` — turns up to the last one

## Main statements

* `CommentScan.ends_inCode` — the turns outside of comments come to an end
* `CommentScan.ends_ofLine` — the turns on a line come to an end, with the comments of the line
* `comments_follow_lexer` — the comments of a document, read in either way
-/

namespace KotlinAssist

open Text

/-! ## Marks -/

/-- A mark that starts a comment: the number of characters before it, and what follows it. -/
inductive CommentMark where
  | line (offset : Nat)
  | block (offset : Nat) (after : List Char)

namespace CommentMark

/-- Looks for both marks in a text and takes the one that stands first. -/
def first? (text : List Char) : Option CommentMark :=
  match cutAt? "//".toList text, cutAt? "/*".toList text with
  | none, none => none
  | some (code, _), none => some (.line code.length)
  | none, some (code, after) => some (.block code.length after)
  | some (code, _), some (code', after) =>
    if code.length < code'.length then some (.line code.length)
    else some (.block code'.length after)

variable {code rest : List Char}

/-- The first mark of a text, searched for alone, is found where it stands. -/
theorem cutAt?_mark {mark : List Char} (nonempty : mark ≠ [])
    (starts : ∀ after, CommentSpan.comment none (mark ++ after) ≠ none)
    (clear : CommentSpan.Clear code (mark ++ rest)) :
    cutAt? mark (code ++ (mark ++ rest)) = some (code, rest) := by
  rw [CommentSpan.cutAt?_of_clear starts clear, cutAt?_of_prefix nonempty, Option.map_some,
    List.append_nil]

/-- The other mark, if it is found at all, is found behind it. -/
theorem lt_of_cutAt?_other {other : List Char} {c : Char} {cut : List Char × List Char}
    (starts : ∀ after, CommentSpan.comment none (other ++ after) ≠ none)
    (clear : CommentSpan.Clear code (c :: rest)) (elsewhere : ¬ other <+: c :: rest)
    (found : cutAt? other (code ++ c :: rest) = some cut) : code.length < cut.1.length := by
  rw [CommentSpan.cutAt?_of_clear starts clear, cutAt?_cons_of_not_prefix elsewhere,
    Option.map_map] at found
  obtain ⟨later, -, rfl⟩ := Option.map_eq_some_iff.mp found
  show code.length < (code ++ c :: later.1).length
  rw [List.length_append, List.length_cons]
  omega

theorem first?_of_clear (clear : CommentSpan.Clear code []) : first? code = none := by
  have line := CommentSpan.cutAt?_of_clear CommentSpan.comment_line_mark clear
  have block := CommentSpan.cutAt?_of_clear CommentSpan.comment_block_mark clear
  rw [List.append_nil] at line block
  rw [first?, line, block]
  rfl

theorem first?_line (clear : CommentSpan.Clear code ('/' :: '/' :: rest)) :
    first? (code ++ '/' :: '/' :: rest) = some (.line code.length) := by
  have line : cutAt? "//".toList (code ++ '/' :: '/' :: rest) = some (code, rest) :=
    cutAt?_mark (List.cons_ne_nil _ _) CommentSpan.comment_line_mark clear
  have elsewhere : ¬ "/*".toList <+: '/' :: '/' :: rest := by simp
  rw [first?, line]
  cases block : cutAt? "/*".toList (code ++ '/' :: '/' :: rest) with
  | none => rfl
  | some cut =>
    have behind := lt_of_cutAt?_other CommentSpan.comment_block_mark clear elsewhere block
    exact if_pos behind

theorem first?_block (clear : CommentSpan.Clear code ('/' :: '*' :: rest)) :
    first? (code ++ '/' :: '*' :: rest) = some (.block code.length rest) := by
  have block : cutAt? "/*".toList (code ++ '/' :: '*' :: rest) = some (code, rest) :=
    cutAt?_mark (List.cons_ne_nil _ _) CommentSpan.comment_block_mark clear
  have elsewhere : ¬ "//".toList <+: '/' :: '*' :: rest := by simp
  rw [first?, block]
  cases line : cutAt? "//".toList (code ++ '/' :: '*' :: rest) with
  | none => rfl
  | some cut =>
    have behind := lt_of_cutAt?_other CommentSpan.comment_line_mark clear elsewhere line
    exact if_neg (Nat.not_lt.mpr (Nat.le_of_lt behind))

end CommentMark

/-! ## Turns -/

/-- Where the search for comments is in a line. -/
structure CommentScan where
  /-- The block comment that is open. -/
  opened : OpenComment
  /-- The column up to which the line has been searched. -/
  column : Nat
  /-- The comments that have been found. -/
  found : List CommentSpan

namespace CommentScan

open CommentLexer (opensDocumentation piece)

/-- A comment between two columns has been closed. -/
def closed (scan : CommentScan) (start stop : Nat) (documentation : Bool) : CommentScan :=
  ⟨none, stop, scan.found ++ [⟨⟨start, stop⟩, documentation⟩]⟩

/-- A comment takes the rest of the line. -/
def ended (scan : CommentScan) (line : Line) (start : Nat) (documentation : Bool)
    (opened : OpenComment) : CommentScan :=
  ⟨opened, line.length, scan.found ++ piece start line.length documentation⟩

/-- One turn of the search, and whether another one follows. -/
def turn (line : Line) (scan : CommentScan) : CommentScan × Bool :=
  let text := line.drop scan.column
  match scan.opened with
  | some documentation =>
    match cutAt? "*/".toList text with
    | some (inside, _) =>
      (scan.closed scan.column (scan.column + inside.length + 2) documentation, true)
    | none => (scan.ended line scan.column documentation scan.opened, false)
  | none =>
    match CommentMark.first? text with
    | none => (⟨none, line.length, scan.found⟩, false)
    | some (.line offset) => (scan.ended line (scan.column + offset) false none, false)
    | some (.block offset after) =>
      let start := scan.column + offset
      let documentation := opensDocumentation after
      match cutAt? "*/".toList after with
      | some (inside, _) =>
        (scan.closed start (start + 2 + inside.length + 2) documentation, true)
      | none => (scan.ended line start documentation (some documentation), false)

/-- The given number of turns leads to the end of the search. -/
inductive Ends (line : Line) : CommentScan → Nat → CommentScan → Prop where
  | last {scan result : CommentScan} (turned : scan.turn line = (result, false)) :
    Ends line scan 1 result
  | next {scan middle result : CommentScan} {turns : Nat}
    (turned : scan.turn line = (middle, true)) (ends : Ends line middle turns result) :
    Ends line scan (turns + 1) result

/-! ## The end of the search -/

section Text

variable {line front code : List Char}

/-- A comment that takes the rest of the line behind its mark is found. -/
theorem ended_mark {rest : List Char} {c d : Char} (cut : line = front ++ (code ++ c :: d :: rest))
    (scan : CommentScan) (documentation : Bool) (opened : OpenComment) :
    scan.ended line (front.length + code.length) documentation opened =
      ⟨opened, line.length, scan.found ++
        [⟨(Span.after code (c :: d :: rest)).shift front.length, documentation⟩]⟩ := by
  have stop : line.length = front.length + code.length + 2 + rest.length := by
    rw [cut, List.length_append, List.length_append, List.length_cons, List.length_cons]
    omega
  rw [ended, stop, CommentLexer.piece_mark front.length code c d rest]

/-- A turn that finds a block comment and its closing mark is followed by another behind it. -/
theorem turn_block {inside tail : List Char}
    (cut : line = front ++ (code ++ (CommentSpan.block inside ++ tail)))
    (clear : CommentSpan.Clear code (CommentSpan.block inside ++ tail))
    (closing : cutAt? "*/".toList (inside ++ "*/".toList ++ tail) = some (inside, tail))
    (found : List CommentSpan) :
    turn line ⟨none, front.length, found⟩ =
      (⟨none, front.length + (code ++ CommentSpan.block inside).length,
        found ++ [⟨(Span.after code (CommentSpan.block inside)).shift front.length,
          CommentSpan.isDocumentation (CommentSpan.block inside)⟩]⟩, true) := by
  have ahead : line.drop front.length = code ++ (CommentSpan.block inside ++ tail) := by
    rw [cut, List.drop_left]
  have marked : CommentMark.first? (code ++ (CommentSpan.block inside ++ tail)) =
      some (.block code.length (inside ++ "*/".toList ++ tail)) :=
    CommentMark.first?_block clear
  have stop : front.length + code.length + 2 + inside.length + 2 =
      front.length + (code.length + (CommentSpan.block inside).length) := by
    rw [CommentSpan.length_block]
    omega
  rw [turn, ahead, marked]
  dsimp only
  rw [closing, CommentLexer.isDocumentation_block inside tail, List.length_append]
  dsimp only
  rw [stop]
  rfl

/-- **Outside of comments the turns come to an end**, and they find the comments of the rest of the
line. -/
theorem ends_inCode {text : List Char} (cut : line = front ++ text) (found : List CommentSpan) :
    ∃ turns ≤ text.length + 1, Ends line ⟨none, front.length, found⟩ turns
      ⟨(CommentSpan.inCode front.length text).2, line.length,
        found ++ (CommentSpan.inCode front.length text).1⟩ := by
  -- each turn leaves a shorter text behind the comment that it has found
  induction length : text.length using Nat.strong_induction_on generalizing front text found with
  | _ bound ih =>
    have ahead : line.drop front.length = text := by rw [cut, List.drop_left]
    cases CommentSpan.division text with
    | clear _ clear =>
      refine ⟨1, Nat.le_add_left 1 bound, .last ?_⟩
      rw [turn, ahead, CommentMark.first?_of_clear clear, CommentSpan.inCode_of_clear clear,
        List.append_nil]
    | line code rest clear =>
      refine ⟨1, Nat.le_add_left 1 bound, .last ?_⟩
      rw [turn, ahead, CommentMark.first?_line clear, CommentSpan.inCode_line clear]
      dsimp only
      rw [ended_mark cut]
    | left code after clear unclosed =>
      refine ⟨1, Nat.le_add_left 1 bound, .last ?_⟩
      rw [turn, ahead, CommentMark.first?_block clear, CommentSpan.inCode_left clear unclosed,
        CommentLexer.isDocumentation_mark]
      dsimp only
      rw [unclosed]
      dsimp only
      rw [ended_mark cut]
    | closed code inside tail clear closing =>
      have shorter : tail.length + 4 ≤ bound := by
        rw [← length, List.length_append, List.length_append, CommentSpan.length_block]
        omega
      have divided : line = front ++ (code ++ CommentSpan.block inside) ++ tail := by
        rw [cut]
        simp only [List.append_assoc]
      have turned := turn_block cut clear closing found
      obtain ⟨turns, few, ends⟩ := ih tail.length (by omega) divided
        (found ++ [⟨(Span.after code (CommentSpan.block inside)).shift front.length,
          CommentSpan.isDocumentation (CommentSpan.block inside)⟩]) rfl
      refine ⟨turns + 1, by omega, .next turned ?_⟩
      rw [CommentSpan.inCode_closed clear closing]
      rw [List.length_append, List.append_assoc] at ends
      exact ends

end Text

/-- **The turns on a line come to an end**, with the comments of the line and the comment that it
leaves open. -/
theorem ends_ofLine (opened : OpenComment) (line : Line) :
    ∃ turns ≤ line.length + 1, Ends line ⟨opened, 0, []⟩ turns
      ⟨(CommentSpan.ofLine opened line).2, line.length, (CommentSpan.ofLine opened line).1⟩ := by
  cases opened with
  | none => exact ends_inCode (List.nil_append line).symm []
  | some documentation =>
    cases cut : cutAt? "*/".toList line with
    | none =>
      refine ⟨1, Nat.le_add_left 1 _, .last ?_⟩
      rw [CommentSpan.ofLine_unclosed cut, turn]
      dsimp only
      rw [List.drop_zero, cut, ← CommentLexer.piece_line]
      rfl
    | some divided =>
      obtain ⟨inside, rest⟩ := divided
      have whole := append_of_cutAt? cut
      have stop : (inside ++ "*/".toList).length = inside.length + 2 := List.length_append
      have turned : turn line ⟨some documentation, 0, []⟩ =
          (⟨none, inside.length + 2, [⟨⟨0, inside.length + 2⟩, documentation⟩]⟩, true) := by
        rw [turn]
        dsimp only
        rw [List.drop_zero, cut]
        dsimp only
        rw [Nat.zero_add]
        rfl
      obtain ⟨turns, few, ends⟩ :=
        ends_inCode whole [⟨⟨0, inside.length + 2⟩, documentation⟩]
      have counted : rest.length + 2 ≤ line.length := by
        rw [whole, List.length_append, stop]
        omega
      rw [stop] at ends
      rw [CommentSpan.ofLine_closed cut]
      exact ⟨turns + 1, by omega, .next turned ends⟩

end CommentScan

/-! ## Two ways to read a document -/

/-- **The comments of a document are those that a lexer finds character by character.**  For every
list of lines, and whatever comment is open before them, each line has the same comments and parts
of comments, with the same flags, and leaves the same comment open.  Searching for marks finds them
too: on every line the search comes to an end, after no more turns than the line has characters and
one, with the comments of the line and the comment that it leaves open. -/
theorem comments_follow_lexer (opened : OpenComment) (document : List Line) :
    CommentSpan.ofLines opened document = CommentLexer.readLines opened document ∧
    ∀ opened line, ∃ turns ≤ line.length + 1, CommentScan.Ends line ⟨opened, 0, []⟩ turns
      ⟨(CommentSpan.ofLine opened line).2, line.length, (CommentSpan.ofLine opened line).1⟩ :=
  ⟨CommentLexer.ofLines_eq_readLines opened document, CommentScan.ends_ofLine⟩

end KotlinAssist
