import KotlinAssist.Proofs.Highlight.Spans
import KotlinAssist.Proofs.Word.Pieces

/-!
# Comments one after the other

A text that starts outside of any comment divides at its first comment: some characters among which
no comment starts, and then a line comment, a block comment that is left open, or a block comment
that is closed and a text that starts outside again.  What is found in the text is the first comment
and, behind a closing mark, what is found in the rest.

## Main definitions

* `CommentSpan.Clear` — characters among which no comment starts
* `CommentSpan.Division` — how a text divides at its first comment

## Main statements

* `CommentSpan.division` — every text divides in one of four ways
* `CommentSpan.cutAt?_of_clear` — where the first mark of a kind is found
* `CommentSpan.inCode_of_clear`, `CommentSpan.inCode_line`, `CommentSpan.inCode_left`,
  `CommentSpan.inCode_closed` — what is found in each of them
-/

namespace KotlinAssist

open Text

namespace CommentSpan

theorem occursIn_closing_iff {text : List Char} :
    occursIn "*/".toList text = true ↔ "*/".toList <:+: text :=
  occursIn_iff (List.cons_ne_nil _ _) text

/-- No comment starts among the characters `code` when `rest` follows them. -/
def Clear : List Char → List Char → Prop
  | [], _ => True
  | c :: code, rest => comment none (c :: (code ++ rest)) = none ∧ Clear code rest

/-- The text of a closed block comment. -/
def block (inside : List Char) : List Char :=
  '/' :: '*' :: (inside ++ "*/".toList)

theorem length_block (inside : List Char) : (block inside).length = 2 + inside.length + 2 := by
  simp only [block, List.length_cons, List.length_append]
  show inside.length + 2 + 1 + 1 = 2 + inside.length + 2
  omega

/-- How a text that starts outside of any comment divides at its first comment. -/
inductive Division : List Char → Prop where
  /-- There is no comment. -/
  | clear (code : List Char) (clear : Clear code []) : Division code
  /-- The first comment is a line comment. -/
  | line (code rest : List Char) (clear : Clear code ('/' :: '/' :: rest)) :
    Division (code ++ '/' :: '/' :: rest)
  /-- The first comment is a block comment that is left open. -/
  | left (code after : List Char) (clear : Clear code ('/' :: '*' :: after))
    (unclosed : cutAt? "*/".toList after = none) : Division (code ++ '/' :: '*' :: after)
  /-- The first comment is a block comment that ends at the first closing mark behind its opening
  mark. -/
  | closed (code inside tail : List Char) (clear : Clear code (block inside ++ tail))
    (cut : cutAt? "*/".toList (inside ++ "*/".toList ++ tail) = some (inside, tail)) :
    Division (code ++ (block inside ++ tail))

/-- **Every text divides at its first comment**, or has none. -/
theorem division (text : List Char) : Division text := by
  induction text with
  | nil => exact .clear [] trivial
  | cons c rest ih =>
    cases found : comment none (c :: rest) with
    | none =>
      -- no comment starts here, so the text divides where the rest does
      cases ih with
      | clear _ clear => exact .clear (c :: rest) ⟨by rw [List.append_nil]; exact found, clear⟩
      | line code rest clear => exact .line (c :: code) rest ⟨found, clear⟩
      | left code after clear unclosed => exact .left (c :: code) after ⟨found, clear⟩ unclosed
      | closed code inside tail clear cut =>
        exact .closed (c :: code) inside tail ⟨found, clear⟩ cut
    | some length =>
      unfold comment at found
      split at found
      · next rest whole =>
        rw [whole]
        exact .line [] rest trivial
      · next after whole =>
        rw [whole]
        cases cut : cutAt? "*/".toList after with
        | none => exact .left [] after trivial cut
        | some divided =>
          obtain ⟨inside, tail⟩ := divided
          obtain rfl := append_of_cutAt? cut
          exact .closed [] inside tail trivial cut
      · cases found

/-! ## Searching for marks -/

/-- A comment starts with the mark of a line comment. -/
theorem comment_line_mark (after : List Char) : comment none ("//".toList ++ after) ≠ none :=
  Option.some_ne_none _

/-- A comment starts with the opening mark of a block comment. -/
theorem comment_block_mark (after : List Char) : comment none ("/*".toList ++ after) ≠ none := by
  show comment none ('/' :: '*' :: after) ≠ none
  rw [comment]
  split <;> exact Option.some_ne_none _

/-- A mark that starts a comment is not found among characters at which no comment starts. -/
theorem cutAt?_of_clear {mark code rest : List Char}
    (starts : ∀ after, comment none (mark ++ after) ≠ none) (clear : Clear code rest) :
    cutAt? mark (code ++ rest) =
      (cutAt? mark rest).map fun cut => (code ++ cut.1, cut.2) := by
  induction code with
  | nil => exact Option.map_id'.symm
  | cons c code ih =>
    obtain ⟨nothing, clear⟩ := clear
    have elsewhere : ¬ mark <+: c :: (code ++ rest) := by
      rintro ⟨after, whole⟩
      rw [← whole] at nothing
      exact starts after nothing
    rw [List.cons_append, cutAt?_cons_of_not_prefix elsewhere, ih clear, Option.map_map]
    rfl

/-! ## Searching for comments -/

/-- A comment is recognised whatever stands before it. -/
theorem matchesFrom_before (column skip : Nat) (before before' : Option Char) (text : List Char) :
    matchesFrom comment column skip before text = matchesFrom comment column skip before' text := by
  cases text with
  | nil => rfl
  | cons c rest => cases skip <;> rfl

/-- Nothing is found among characters at which no comment starts. -/
theorem matchesFrom_clear {code rest : List Char} (clear : Clear code rest) (column : Nat) :
    matchesFrom comment column 0 none (code ++ rest) =
      matchesFrom comment (column + code.length) 0 none rest := by
  induction code generalizing column with
  | nil => rfl
  | cons c code ih =>
    obtain ⟨nothing, clear⟩ := clear
    have next : column + (c :: code).length = column + 1 + code.length := by
      rw [List.length_cons]
      omega
    rw [List.cons_append, matchesFrom, nothing, next, ← ih clear (column + 1)]
    exact matchesFrom_before _ _ _ _ _

theorem pos_of_comment {before : Option Char} {text : List Char} {length : Nat}
    (found : comment before text = some length) : 0 < length := by
  unfold comment at found
  split at found
  · cases found
    exact Nat.succ_pos _
  · split at found
    · cases found
      omega
    · cases found
      exact Nat.succ_pos _
  · cases found

/-- Where a comment is recognised, the search goes on behind it. -/
theorem matchesFrom_comment {text : List Char} {length : Nat}
    (found : comment none text = some length) (column : Nat) :
    matchesFrom comment column 0 none text =
      ⟨column, column + length⟩ ::
        matchesFrom comment (column + length) 0 none (text.drop length) := by
  cases text with
  | nil => cases found
  | cons c rest =>
    obtain ⟨shorter, rfl⟩ := Nat.exists_eq_add_one.mpr (pos_of_comment found)
    have behind : matchesFrom comment (column + 1) shorter (some c) rest =
        matchesFrom comment (column + (shorter + 1)) 0 none (rest.drop shorter) := by
      rw [matchesFrom_skip, Nat.add_assoc, Nat.add_comm 1]
      exact matchesFrom_before _ _ _ _ _
    rw [matchesFrom, found, List.drop_succ_cons, ← behind]
    rfl

/-- A text is searched alike wherever it stands. -/
theorem matchesFrom_shift (count column skip : Nat) (before : Option Char) (text : List Char) :
    matchesFrom comment (count + column) skip before text =
      (matchesFrom comment column skip before text).map (Span.shift count) := by
  induction text generalizing column skip before with
  | nil => rfl
  | cons c rest ih =>
    cases skip with
    | succ skip =>
      rw [matchesFrom, matchesFrom, Nat.add_assoc, ih]
    | zero =>
      rw [matchesFrom, matchesFrom]
      split
      · rw [Nat.add_assoc, Nat.add_assoc, ih]
        rfl
      · rw [Nat.add_assoc, ih]

/-! ## What is found in a text -/

theorem slice_shift (front text : List Char) (span : Span) :
    (span.shift front.length).slice (front ++ text) = span.slice text := by
  have same : front.length + span.stop - (front.length + span.start) = span.stop - span.start := by
    omega
  rw [Span.slice, Span.slice, Span.shift, same, List.drop_length_add_append]

theorem slice_after (front middle back : List Char) :
    (Span.after front middle).slice (front ++ (middle ++ back)) = middle := by
  rw [Span.slice, Span.after, List.drop_left, Nat.add_sub_cancel_left, List.take_left]

/-- The characters of a comment that was found behind some others in a text. -/
theorem slice_found (code found tail : List Char) :
    ((Span.after code found).shift 0).slice (code ++ (found ++ tail)) = found :=
  (slice_shift [] _ _).trans (slice_after code found tail)

/-- Nothing is found, and left open, in a text without a comment. -/
theorem inCode_of_clear {code : List Char} (clear : Clear code []) (column : Nat) :
    inCode column code = ([], none) := by
  have nothing : matchesOf comment code = [] := by
    have searched := matchesFrom_clear clear 0
    rw [List.append_nil] at searched
    exact searched
  rw [inCode, nothing]
  rfl

/-- Behind a comment that leaves nothing open, or is the last, the text is read as one that starts
there. -/
theorem inCode_append {code found tail : List Char} (clear : Clear code (found ++ tail))
    (recognised : comment none (found ++ tail) = some found.length) (column : Nat)
    (settled : leftOpen found = none ∨ tail = []) :
    inCode column (code ++ (found ++ tail)) =
      let rest := inCode (column + (code ++ found).length) tail
      (⟨(Span.after code found).shift column, isDocumentation found⟩ :: rest.1,
        rest.2.or (leftOpen found)) := by
  have spans : matchesOf comment (code ++ (found ++ tail)) =
      Span.after code found ::
        (matchesOf comment tail).map (Span.shift (code ++ found).length) := by
    rw [matchesOf, matchesFrom_clear clear, matchesFrom_comment recognised, List.drop_left,
      Nat.zero_add, ← List.length_append, ← Nat.add_zero (code ++ found).length,
      matchesFrom_shift, Nat.add_zero, List.length_append]
    rfl
  have first := slice_after code found tail
  have later (span : Span) :
      (span.shift (code ++ found).length).slice (code ++ (found ++ tail)) = span.slice tail := by
    rw [← List.append_assoc, slice_shift]
  simp only [inCode, spans, List.map_cons, List.map_map, first, Prod.mk.injEq, List.cons.injEq,
    Function.comp_def, later]
  refine ⟨⟨rfl, ?_⟩, ?_⟩
  · refine List.map_congr_left fun span _ => ?_
    simp only [Span.shift, Nat.add_assoc]
  · -- the comment that is left open, if there is one, is the last of the rest
    rw [List.getLast?_cons, List.getLast?_map]
    rcases settled with closed | rfl
    · cases (matchesOf comment tail).getLast? with
      | none => exact congrArg leftOpen first
      | some span =>
        rw [closed, Option.or_none]
        exact congrArg leftOpen (later span)
    · exact congrArg leftOpen first

/-- A comment up to the end of the text is the last that is found. -/
theorem inCode_last {code found : List Char} (clear : Clear code found)
    (recognised : comment none found = some found.length) (column : Nat) :
    inCode column (code ++ found) =
      ([⟨(Span.after code found).shift column, isDocumentation found⟩], leftOpen found) := by
  rw [← List.append_nil found] at clear
  have whole : comment none (found ++ []) = some found.length := by
    rw [List.append_nil, recognised]
  have read := inCode_append clear whole column (.inr rfl)
  rw [List.append_nil] at read
  exact read

theorem inCode_line {code rest : List Char} (clear : Clear code ('/' :: '/' :: rest))
    (column : Nat) :
    inCode column (code ++ '/' :: '/' :: rest) =
      ([⟨(Span.after code ('/' :: '/' :: rest)).shift column, false⟩], none) :=
  inCode_last clear rfl column

theorem leftOpen_of_cutAt? {after : List Char} (unclosed : cutAt? "*/".toList after = none) :
    leftOpen ('/' :: '*' :: after) = some (isDocumentation ('/' :: '*' :: after)) := by
  rw [leftOpen, occursIn, unclosed]
  rfl

theorem inCode_left {code after : List Char} (clear : Clear code ('/' :: '*' :: after))
    (unclosed : cutAt? "*/".toList after = none) (column : Nat) :
    inCode column (code ++ '/' :: '*' :: after) =
      ([⟨(Span.after code ('/' :: '*' :: after)).shift column,
          isDocumentation ('/' :: '*' :: after)⟩],
        some (isDocumentation ('/' :: '*' :: after))) := by
  have recognised : comment none ('/' :: '*' :: after) = some ('/' :: '*' :: after).length := by
    rw [comment, unclosed]
  rw [inCode_last clear recognised, leftOpen_of_cutAt? unclosed]

theorem inCode_closed {code inside tail : List Char} (clear : Clear code (block inside ++ tail))
    (cut : cutAt? "*/".toList (inside ++ "*/".toList ++ tail) = some (inside, tail))
    (column : Nat) :
    inCode column (code ++ (block inside ++ tail)) =
      let rest := inCode (column + (code ++ block inside).length) tail
      (⟨(Span.after code (block inside)).shift column, isDocumentation (block inside)⟩ :: rest.1,
        rest.2) := by
  have recognised : comment none (block inside ++ tail) = some (block inside).length := by
    rw [length_block]
    show comment none ('/' :: '*' :: (inside ++ "*/".toList ++ tail)) = _
    rw [comment, cut]
  have closed : leftOpen (block inside) = none := by
    have ends : occursIn "*/".toList (inside ++ "*/".toList) = true :=
      occursIn_closing_iff.mpr (List.suffix_append _ _).isInfix
    rw [block, leftOpen, if_pos ends]
  simp only [inCode_append clear recognised column (.inl closed), closed, Option.or_none]

/-- A line without a closing mark belongs to the open comment. -/
theorem ofLine_unclosed {line : Line} (unclosed : cutAt? "*/".toList line = none)
    (documentation : Bool) :
    ofLine (some documentation) line =
      (if line.isEmpty then [] else [⟨⟨0, line.length⟩, documentation⟩], some documentation) := by
  rw [ofLine, unclosed]

/-- Behind the closing mark of the open comment, a line is read as a text that starts there. -/
theorem ofLine_closed {line : Line} {inside tail : List Char}
    (cut : cutAt? "*/".toList line = some (inside, tail)) (documentation : Bool) :
    ofLine (some documentation) line =
      (⟨⟨0, inside.length + 2⟩, documentation⟩ :: (inCode (inside.length + 2) tail).1,
        (inCode (inside.length + 2) tail).2) := by
  rw [ofLine, cut]

end CommentSpan

end KotlinAssist
