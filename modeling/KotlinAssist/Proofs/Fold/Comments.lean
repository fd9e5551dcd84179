import KotlinAssist.Proofs.Fold.Reading

/-!
# Block comments that fold

Highlighting reads every comment of a line; folding looks at the first opening mark of a line and
the first closing mark behind it.  Both carry the comment that is open from line to line, and they
find the same comments on several lines as long as each line leaves the same comment open for both.

Two arrangements part them.  A comment that is left open behind another comment of its line is not
seen by folding, and an opening mark inside of a line comment is taken for a comment when no closing
mark stands behind it.  On every other line they agree, and a line on which they do not shows as
soon as a closing mark stands on a later line.

## Main definitions

* `CommentSpan.regions` — the comments on several lines, as highlighting finds them
* `CommentSpan.openAfter` — the comment that highlighting has open after some lines
* `PlainLine` — a line with neither of the two arrangements

## Main statements

* `plainLine_iff` — a line is plain exactly if both leave the same comment open
* `CommentSpan.regionsFrom_eq`, `CommentRegion.startingAt_eq` — both read the document from line to
  line in the same way
* `comment_regions_agree_iff` — folding and highlighting agree exactly on plain lines
-/

namespace KotlinAssist

open Text

/-! ## Regions that highlighting finds -/

namespace CommentSpan

/-- The comment that is open after a line. -/
def leaves (opened : OpenComment) (line : Line) : OpenComment :=
  (ofLine opened line).2

/-- The comment that is open after some lines. -/
def openAfter (lines : List Line) : OpenComment :=
  lines.foldl leaves none

/-- Whether the comment that is open before a line goes on behind it: a comment is open at the end
of the line, and there is no other on it. -/
def goesOn (documentation : Bool) (line : Line) : Bool :=
  let (spans, left) := ofLine (some documentation) line
  left.isSome && spans.length ≤ 1

/-- The comments that are closed on lines numbered from `index` on, and on a later line than the one
they were opened on; `opened` is the line and the flag of the comment that is open. -/
def regionsFrom (index : Nat) (opened : Option (Nat × Bool)) : List Line → List CommentRegion
  | [] => []
  | line :: rest =>
    let left := (leaves (opened.map Prod.snd) line).map (index, ·)
    match opened with
    | none => regionsFrom (index + 1) left rest
    | some (first, documentation) =>
      if goesOn documentation line then regionsFrom (index + 1) opened rest
      else ⟨⟨first, index⟩, documentation⟩ :: regionsFrom (index + 1) left rest

/-- The comments of a document that are opened on one line and closed on a later line. -/
def regions (document : List Line) : List CommentRegion :=
  regionsFrom 0 none document

end CommentSpan

/-- A line on which folding finds what there is: a comment that it leaves open is the only comment
on it, and a block comment that seems to open in a line comment seems to be closed there too. -/
structure PlainLine (opened : OpenComment) (line : Line) : Prop where
  alone : (CommentSpan.ofLine opened line).2.isSome →
    (CommentSpan.ofLine opened line).1.length ≤ 1
  quiet : opened = none → ∀ comment ∈ (CommentSpan.ofLine none line).1.head?,
    "//".toList <+: comment.span.slice line → "/*".toList <:+: comment.span.slice line →
      ∃ before inside after, comment.span.slice line =
        before ++ "/*".toList ++ inside ++ "*/".toList ++ after

/-! ## What a line leaves open -/

namespace CommentSpan

/-- A star behind an opening mark is no part of a closing mark if there is none. -/
theorem isDocumentation_of_unclosed {after : List Char} (unclosed : ¬ "*/".toList <:+: after) :
    isDocumentation ('/' :: '*' :: after) = (after.head? == some '*') := by
  unfold isDocumentation
  split
  · next whole =>
    cases whole
    exact absurd (List.prefix_append "*/".toList _).isInfix unclosed
  · next whole =>
    cases whole
    rfl
  · next other =>
    cases after with
    | nil => rfl
    | cons c after =>
      have differ : c ≠ '*' := by
        rintro rfl
        exact other _ rfl
      simpa using differ

/-- A comment is left open only where one is found. -/
theorem ne_nil_of_left {column : Nat} {text : List Char}
    (left : (inCode column text).2.isSome) : (inCode column text).1 ≠ [] := by
  intro nothing
  have empty : matchesOf comment text = [] := List.map_eq_nil_iff.mp nothing
  rw [inCode, empty] at left
  cases left

/-- A text behind a comment holds no comment that is left open exactly if no comment of the line
that is left open has another before it. -/
theorem left_eq_none_iff (column : Nat) (text : List Char) :
    (inCode column text).2 = none ↔
      ((inCode column text).2.isSome → (inCode column text).1.length + 1 ≤ 1) := by
  constructor
  · intro nothing left
    rw [nothing] at left
    cases left
  · intro alone
    by_contra something
    have left := Option.isSome_iff_ne_none.mpr something
    have found := List.length_pos_iff.mpr (ne_nil_of_left left)
    have short := alone left
    omega

end CommentSpan

namespace CommentRegion

/-- The comment that is open for folding after a line. -/
def leaves : OpenComment → Line → OpenComment
  | none, line => opens? line
  | some documentation, line =>
    if occursIn "*/".toList line then none else some documentation

/-- An opening mark opens the same comment for folding and highlighting. -/
theorem opens?_mark (after : List Char) :
    opens? ('/' :: '*' :: after) = CommentSpan.leftOpen ('/' :: '*' :: after) := by
  have cut : cutAt? "/*".toList ('/' :: '*' :: after) = some ([], after) :=
    cutAt?_of_prefix (List.cons_ne_nil _ _) after
  simp only [opens?, cut, CommentSpan.leftOpen]
  split
  · rfl
  · next unclosed =>
    rw [CommentSpan.occursIn_closing_iff] at unclosed
    rw [CommentSpan.isDocumentation_of_unclosed unclosed]

/-- Folding passes over characters at which no comment starts. -/
theorem opens?_of_clear {code rest : List Char} (clear : CommentSpan.Clear code rest) :
    opens? (code ++ rest) = opens? rest := by
  rw [opens?, opens?, CommentSpan.cutAt?_of_clear CommentSpan.comment_block_mark clear]
  cases cutAt? "/*".toList rest <;> rfl

/-- Nothing is left open for folding exactly if a closing mark stands behind the first opening mark,
and so behind any, of a text. -/
theorem opens?_eq_none_iff (text : List Char) :
    opens? text = none ↔ ("/*".toList <:+: text →
      ∃ before inside after,
        text = before ++ "/*".toList ++ inside ++ "*/".toList ++ after) := by
  cases cut : cutAt? "/*".toList text with
  | none =>
    have nowhere : ¬ "/*".toList <:+: text := by
      intro stands
      have found : occursIn "/*".toList text = true :=
        (occursIn_iff (List.cons_ne_nil _ _) text).mpr stands
      rw [occursIn, cut] at found
      cases found
    rw [opens?, cut]
    exact ⟨fun _ stands => absurd stands nowhere, fun _ => rfl⟩
  | some divided =>
    obtain ⟨before, after⟩ := divided
    have whole := append_of_cutAt? cut
    have closed : opens? text = none ↔ "*/".toList <:+: after := by
      rw [← CommentSpan.occursIn_closing_iff, opens?, cut]
      show (if occursIn "*/".toList after = true then none else some _) = none ↔ _
      rw [ite_eq_left_iff]
      simp only [reduceCtorEq, imp_false, not_not]
    rw [closed]
    constructor
    · rintro ⟨inside, rest, rfl⟩ -
      exact ⟨before, inside, rest, by rw [whole]; simp only [List.append_assoc]⟩
    · intro stands
      -- the opening mark that is closed need not be the first, but it stands no earlier
      obtain ⟨front, inside, rest, again⟩ := stands ⟨before, after, whole.symm⟩
      have divided : text = front ++ "/*".toList ++ (inside ++ "*/".toList ++ rest) := by
        rw [again]
        simp only [List.append_assoc]
      rw [divided] at cut
      have behind := suffix_of_cutAt? (List.cons_ne_nil _ _) cut
      exact (List.infix_append inside "*/".toList rest).trans behind.isInfix

end CommentRegion

namespace PlainLine

theorem not_line_mark (after : List Char) : ¬ "//".toList <+: '/' :: '*' :: after := by
  rintro ⟨rest, whole⟩
  simp at whole

/-- A line without a line comment is plain if it leaves nothing open, or has no other comment. -/
theorem of_block {opened : OpenComment} {line : Line} {spans : List CommentSpan}
    {left : OpenComment} (read : CommentSpan.ofLine opened line = (spans, left))
    (alone : left.isSome → spans.length ≤ 1)
    (block : opened = none → ∀ comment ∈ spans.head?,
      ¬ "//".toList <+: comment.span.slice line) : PlainLine opened line := by
  refine ⟨?_, ?_⟩
  · rw [read]
    exact alone
  · rintro rfl comment member starts
    rw [read] at member
    exact absurd starts (block rfl comment member)

/-- A line whose first comment is closed is plain exactly if the rest leaves nothing open. -/
theorem iff_of_closed {opened : OpenComment} {line : Line} {first : CommentSpan} {column : Nat}
    {tail : List Char}
    (read : CommentSpan.ofLine opened line =
      (first :: (CommentSpan.inCode column tail).1, (CommentSpan.inCode column tail).2))
    (block : opened = none → ¬ "//".toList <+: first.span.slice line) :
    PlainLine opened line ↔ none = (CommentSpan.ofLine opened line).2 := by
  have settled := CommentSpan.left_eq_none_iff column tail
  rw [read, eq_comm, settled]
  constructor
  · intro plain
    have alone := plain.alone
    rw [read] at alone
    exact alone
  · intro alone
    refine of_block read alone fun outside comment member => ?_
    cases Option.mem_some.mp member
    exact block outside

/-- A line whose first comment is a line comment is plain exactly if nothing seems to be left open
in it. -/
theorem iff_of_line {code rest : List Char} (clear : CommentSpan.Clear code ('/' :: '/' :: rest)) :
    PlainLine none (code ++ '/' :: '/' :: rest) ↔
      CommentRegion.opens? ('/' :: '/' :: rest) = none := by
  have read : CommentSpan.ofLine none (code ++ '/' :: '/' :: rest) = _ :=
    CommentSpan.inCode_line clear 0
  have slice := CommentSpan.slice_found code ('/' :: '/' :: rest) []
  rw [List.append_nil] at slice
  rw [CommentRegion.opens?_eq_none_iff]
  constructor
  · intro plain stands
    have quiet := plain.quiet rfl
    rw [read] at quiet
    have closed := quiet _ rfl
    rw [slice] at closed
    exact closed (List.prefix_append "//".toList rest) stands
  · intro closed
    refine ⟨?_, ?_⟩
    · rw [read]
      rintro ⟨⟩
    · rintro - comment member -
      rw [read] at member
      cases Option.mem_some.mp member
      rw [slice]
      exact closed

end PlainLine

/-- **A line is plain exactly if it leaves the same comment open for folding and highlighting.** -/
theorem plainLine_iff (opened : OpenComment) (line : Line) :
    PlainLine opened line ↔
      CommentRegion.leaves opened line = CommentSpan.leaves opened line := by
  rw [CommentSpan.leaves]
  cases opened with
  | some documentation =>
    have inside : some documentation ≠ none := Option.some_ne_none documentation
    cases cut : cutAt? "*/".toList line with
    | none =>
      -- the open comment takes the whole line, and stays open for both
      have read := CommentSpan.ofLine_unclosed cut documentation
      refine iff_of_true (.of_block read (fun _ => ?_) (absurd · inside)) ?_
      · split <;> simp
      · rw [read, CommentRegion.leaves, occursIn, cut]
        rfl
    | some divided =>
      -- folding is done with the line, while highlighting reads on behind the closing mark
      have closed : CommentRegion.leaves (some documentation) line = none := by
        rw [CommentRegion.leaves, occursIn, cut]
        rfl
      rw [closed]
      exact PlainLine.iff_of_closed (CommentSpan.ofLine_closed cut documentation)
        (absurd · inside)
  | none =>
    cases CommentSpan.division line with
    | clear _ clear =>
      have read : CommentSpan.ofLine none line = _ := CommentSpan.inCode_of_clear clear 0
      have nothing := CommentRegion.opens?_of_clear clear
      rw [List.append_nil] at nothing
      refine iff_of_true (.of_block read (by simp) (by simp)) ?_
      rw [read]
      exact nothing
    | line code rest clear =>
      -- highlighting leaves nothing open behind a line comment
      have read : CommentSpan.ofLine none (code ++ '/' :: '/' :: rest) = _ :=
        CommentSpan.inCode_line clear 0
      rw [PlainLine.iff_of_line clear, read, CommentRegion.leaves,
        CommentRegion.opens?_of_clear clear]
    | left code after clear unclosed =>
      have read : CommentSpan.ofLine none (code ++ '/' :: '*' :: after) = _ :=
        CommentSpan.inCode_left clear unclosed 0
      refine iff_of_true (.of_block read (fun _ => Nat.le_refl 1) fun _ comment member => ?_) ?_
      · -- the only comment of the line is no line comment
        have slice := CommentSpan.slice_found code ('/' :: '*' :: after) []
        rw [List.append_nil] at slice
        cases Option.mem_some.mp member
        rw [slice]
        exact PlainLine.not_line_mark after
      · rw [read, CommentRegion.leaves, CommentRegion.opens?_of_clear clear,
          CommentRegion.opens?_mark, CommentSpan.leftOpen_of_cutAt? unclosed]
    | closed code inside tail clear cut =>
      have read : CommentSpan.ofLine none (code ++ (CommentSpan.block inside ++ tail)) = _ :=
        CommentSpan.inCode_closed clear cut 0
      -- the first opening mark is closed, which is all that folding looks for
      have opening : CommentRegion.opens? (CommentSpan.block inside ++ tail) = _ :=
        CommentRegion.opens?_mark (inside ++ "*/".toList ++ tail)
      have closed : occursIn "*/".toList (inside ++ "*/".toList ++ tail) = true := by
        rw [occursIn, cut]
        rfl
      rw [CommentRegion.leaves, CommentRegion.opens?_of_clear clear, opening,
        CommentSpan.leftOpen, if_pos closed]
      refine PlainLine.iff_of_closed read fun _ => ?_
      rw [CommentSpan.slice_found]
      exact PlainLine.not_line_mark _

/-! ## Folding and highlighting -/

namespace CommentSpan

theorem goesOn_eq (documentation : Bool) (line : Line) :
    goesOn documentation line = !occursIn "*/".toList line := by
  cases cut : cutAt? "*/".toList line with
  | none =>
    rw [goesOn, ofLine_unclosed cut, occursIn, cut]
    simp only [Option.isSome_some, Bool.true_and, Option.isSome_none, Bool.not_false,
      decide_eq_true_iff]
    split <;> simp
  | some divided =>
    rw [goesOn, ofLine_closed cut, occursIn, cut]
    refine Bool.eq_false_iff.mpr fun both => ?_
    rw [Bool.and_eq_true, decide_eq_true_iff, List.length_cons] at both
    have found := List.length_pos_iff.mpr (ne_nil_of_left both.1)
    omega

theorem keeps_leaves : CommentReading.Keeps leaves := by
  intro documentation line unclosed
  have uncut : cutAt? "*/".toList line = none :=
    Option.isNone_iff_eq_none.mp (Option.isSome_eq_false_iff.mp unclosed)
  rw [leaves, ofLine_unclosed uncut]

theorem regionsFrom_eq (index : Nat) (opened : Option (Nat × Bool)) (lines : List Line) :
    regionsFrom index opened lines = CommentReading.regions leaves index opened lines := by
  induction lines generalizing index opened with
  | nil => rfl
  | cons line rest ih =>
    rw [CommentReading.regions, CommentReading.closing, CommentReading.next, ← ih]
    cases opened with
    | none => cases occursIn "*/".toList line <;> rfl
    | some pair =>
      rw [regionsFrom, goesOn_eq]
      cases occursIn "*/".toList line <;> rfl

end CommentSpan

namespace CommentRegion

theorem keeps_leaves : CommentReading.Keeps leaves := by
  intro documentation line unclosed
  rw [leaves, unclosed]
  rfl

theorem startingAt_eq (index : Nat) (opened : Option (Nat × Bool)) (lines : List Line) :
    startingAt index opened lines = CommentReading.regions leaves index opened lines := by
  induction lines generalizing index opened with
  | nil => rfl
  | cons line rest ih =>
    rw [CommentReading.regions, CommentReading.closing, CommentReading.next, ← ih]
    cases opened with
    | none => cases occursIn "*/".toList line <;> rfl
    | some pair =>
      have closed : leaves ((some pair).map Prod.snd) line =
          if occursIn "*/".toList line then none else some pair.2 := rfl
      rw [startingAt, closed]
      cases occursIn "*/".toList line <;> rfl

end CommentRegion

/-- **Folding finds the block comments that highlighting finds, exactly on plain lines.**  For every
document, the regions of block comments are the comments that highlighting sees opened on one line
and closed on a later line, if and only if every line that a closing mark follows is plain. -/
theorem comment_regions_agree_iff (document : List Line) :
    CommentRegion.all document = CommentSpan.regions document ↔
      ∀ above line below, document = above ++ line :: below →
        (∃ later ∈ below, "*/".toList <:+: later) →
          PlainLine (CommentSpan.openAfter above) line := by
  rw [CommentRegion.all, CommentRegion.startingAt_eq, CommentSpan.regions,
    CommentSpan.regionsFrom_eq,
    CommentReading.regions_eq_iff CommentRegion.keeps_leaves CommentSpan.keeps_leaves
      (by simp)]
  simp only [plainLine_iff]
  rfl

/-- A comment that is left open behind another one of its line is not folded. -/
theorem second_comment_not_folded :
    CommentRegion.all (lines "/* a */ /* b\n*/\n") = [] ∧
      CommentSpan.regions (lines "/* a */ /* b\n*/\n") = [⟨⟨0, 1⟩, false⟩] := by
  decide

example : CommentRegion.all (lines "// /* a\n/* b */\n") = [⟨⟨0, 1⟩, false⟩] ∧
    CommentSpan.regions (lines "// /* a\n/* b */\n") = [] := by
  decide

end KotlinAssist
