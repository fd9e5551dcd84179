import KotlinAssist.Documentation
import Mathlib.Data.List.Basic

/-!
# Where a documentation block stands

Which lines make up the block of a declaration can be said without a search: a line that opens it, a
line that closes it, lines that start with a star between them, and at most one blank line below.
The search goes upwards from the declaration.  It stops at the first line that opens a block, and it
can not go past one, because such a line does not start with a star; so the lines that it collects
are the only ones of that shape, and it finds them whenever they are there.

The search is written on the lines above the declaration as a list.  Written with indices, it reads
no line that is not there.

## Main definitions

* `DocComment.BlockAt` — the lines that make up the block of a declaration
* `DocComment.bodyBetween` — what those lines say
* `DocComment.searchAbove` — the search by indices, which fails outside of the document

## Main statements

* `DocComment.collect?_eq_some_iff` — what is collected upwards from a line
* `DocComment.searchAbove_eq_ok` — the search by indices does not fail
* `DocComment.block_found_iff` — a block is found exactly if it is there
-/

namespace KotlinAssist

open Text

namespace DocComment

/-! ## The shape of a block -/

/-- A line that opens a block. -/
def Opens (line : Line) : Prop :=
  "/**".toList <+: trim line

/-- A line that can stand inside of a block. -/
def Starred (line : Line) : Prop :=
  (trim line).head? = some '*'

/-- What an opening line says after its mark, if that is anything but blanks. -/
def openingText (line : Line) : List Line :=
  let rest := (trim line).drop 3
  if (trim rest).isEmpty then [] else [rest]

/-- What the lines of a block say, from the line that opens it up to the one that closes it. -/
def bodyBetween (lines : List Line) (first last : Nat) : List Line :=
  openingText (lines[first]?.getD []) ++ ((lines.take last).drop (first + 1)).map trim

/-- A line opens a block, and every line from there up to the last one can stand inside of it. -/
structure OpensAbove (lines : List Line) (first last : Nat) : Prop where
  first_lt : first < last
  opening : ∃ line, lines[first]? = some line ∧ Opens line
  stars : ∀ place line, first < place → place < last → lines[place]? = some line → Starred line

/-- The block of a declaration on line `index`: it is opened on line `first` and closed on line
`last`, directly above the declaration or with one blank line between. -/
structure BlockAt (lines : List Line) (index first last : Nat) : Prop
    extends OpensAbove lines first last where
  index_pos : 1 ≤ index
  index_le : index ≤ lines.length
  above : last + 1 = index ∨
    last + 2 = index ∧ ∃ line, lines[index - 1]? = some line ∧ trim line = []
  closing : ∃ line, lines[last]? = some line ∧ trim line = "*/".toList

variable {lines : List Line}

/-- No line both opens a block and stands inside of one. -/
theorem Opens.not_starred {line : Line} (opens : Opens line) : ¬ Starred line := by
  obtain ⟨rest, text⟩ := opens
  rw [Starred, ← text]
  show ¬ some '/' = some '*'
  decide

theorem OpensAbove.unique {first first' last : Nat} (opens : OpensAbove lines first last)
    (opens' : OpensAbove lines first' last) : first = first' := by
  -- of two lines that open the block, the lower one would stand inside of it
  have notAbove {upper lower : Nat} (outer : OpensAbove lines upper last)
      (inner : OpensAbove lines lower last) : ¬ upper < lower := by
    intro below
    obtain ⟨line, found, opening⟩ := inner.opening
    exact opening.not_starred (outer.stars lower line below inner.first_lt found)
  have le := Nat.le_of_not_lt (notAbove opens' opens)
  have ge := Nat.le_of_not_lt (notAbove opens opens')
  exact Nat.le_antisymm le ge

/-- A closing line is not blank, so there is only one place for it. -/
theorem BlockAt.unique {index first last first' last' : Nat}
    (block : BlockAt lines index first last) (block' : BlockAt lines index first' last') :
    first = first' ∧ last = last' := by
  have notBoth {upper lower : Nat} (blank : ∃ line, lines[index - 1]? = some line ∧ trim line = [])
      (closing : ∃ line, lines[lower]? = some line ∧ trim line = "*/".toList)
      (below : lower + 1 = index) : upper = lower := by
    obtain ⟨line, found, empty⟩ := blank
    obtain ⟨line', found', mark⟩ := closing
    rw [← below, Nat.add_sub_cancel, found'] at found
    cases found
    rw [mark] at empty
    cases empty
  have same : last = last' := by
    rcases block.above with directly | ⟨apart, blank⟩ <;>
      rcases block'.above with directly' | ⟨apart', blank'⟩
    · omega
    · exact (notBoth blank' block.closing directly).symm
    · exact notBoth blank block'.closing directly'
    · omega
  subst same
  exact ⟨block.toOpensAbove.unique block'.toOpensAbove, rfl⟩

/-! ## The search -/

theorem stripFront?_opening_eq_some_iff {line : Line} {rest : List Char} :
    stripFront? "/**".toList (trim line) = some rest ↔ Opens line ∧ rest = (trim line).drop 3 := by
  rw [stripFront?_eq_some_iff]
  constructor
  · intro text
    refine ⟨⟨rest, text.symm⟩, ?_⟩
    rw [text]
    rfl
  · rintro ⟨⟨after, text⟩, rfl⟩
    rw [← text]
    rfl

theorem collect?_of_opens {line : Line} (opens : Opens line) (body above : List Line) :
    collect? body (line :: above) = some (openingText line ++ body) := by
  have found := stripFront?_opening_eq_some_iff.mpr ⟨opens, rfl⟩
  simp only [collect?, found, openingText]
  split <;> rfl

theorem stripFront?_opening_eq_none {line : Line} (closed : ¬ Opens line) :
    stripFront? "/**".toList (trim line) = none := by
  cases found : stripFront? "/**".toList (trim line) with
  | none => rfl
  | some rest => exact absurd (stripFront?_opening_eq_some_iff.mp found).1 closed

theorem collect?_of_starred {line : Line} (starred : Starred line) (body above : List Line) :
    collect? body (line :: above) = collect? (trim line :: body) above := by
  have missing := stripFront?_opening_eq_none fun opens => opens.not_starred starred
  simp only [collect?, missing]
  exact if_pos starred

theorem collect?_of_other {line : Line} (closed : ¬ Opens line) (plain : ¬ Starred line)
    (body above : List Line) : collect? body (line :: above) = none := by
  simp only [collect?, stripFront?_opening_eq_none closed]
  exact if_neg plain

/-- The lines above a given one, listed upwards, start with the line directly above. -/
theorem reverse_take_succ {index : Nat} {line : Line} (found : lines[index]? = some line) :
    (lines.take (index + 1)).reverse = line :: (lines.take index).reverse := by
  rw [List.take_add_one, found, Option.toList_some, List.reverse_append, List.reverse_singleton,
    List.singleton_append]

theorem bodyBetween_succ {first last : Nat} {line : Line} (before : first < last)
    (found : lines[last]? = some line) :
    bodyBetween lines first (last + 1) = bodyBetween lines first last ++ [trim line] := by
  have inside : last < lines.length := (List.getElem?_eq_some_iff.mp found).1
  have further : first + 1 ≤ (lines.take last).length := by
    rw [List.length_take]
    omega
  rw [bodyBetween, bodyBetween, List.take_add_one, found, Option.toList_some,
    List.drop_append_of_le_length further, List.map_append, List.append_assoc]
  rfl

theorem bodyBetween_self {last : Nat} {line : Line} (found : lines[last]? = some line) :
    bodyBetween lines last (last + 1) = openingText line := by
  rw [bodyBetween, found, Option.getD_some, List.drop_of_length_le (List.length_take_le _ _),
    List.map_nil, List.append_nil]

/-- A line can be added at the end of a block exactly if it can stand inside, and the block is
opened above it. -/
theorem opensAbove_succ_iff {first last : Nat} {line : Line} (found : lines[last]? = some line) :
    OpensAbove lines first (last + 1) ↔
      (first = last ∧ Opens line) ∨ (OpensAbove lines first last ∧ Starred line) := by
  constructor
  · rintro ⟨before, opening, stars⟩
    rcases Nat.lt_succ_iff_lt_or_eq.mp before with above | rfl
    · refine .inr ⟨⟨above, opening, ?_⟩, stars last line above (Nat.lt_succ_self last) found⟩
      intro place inner below inside
      exact stars place inner below (Nat.lt_succ_of_lt inside)
    · obtain ⟨other, same, opens⟩ := opening
      rw [found] at same
      cases same
      exact .inl ⟨rfl, opens⟩
  · rintro (⟨rfl, opens⟩ | ⟨⟨above, opening, stars⟩, starred⟩)
    · refine ⟨Nat.lt_succ_self first, ⟨line, found, opens⟩, ?_⟩
      intro place inner below inside
      omega
    · refine ⟨Nat.lt_succ_of_lt above, opening, ?_⟩
      intro place inner below inside present
      rcases Nat.lt_succ_iff_lt_or_eq.mp inside with earlier | rfl
      · exact stars place inner below earlier present
      · rw [found] at present
        cases present
        exact starred

/-- **What is collected upwards from a line** is the body of the block that is opened above it,
before what has been collected already. -/
theorem collect?_eq_some_iff {last : Nat} (inside : last ≤ lines.length)
    {body result : List Line} :
    collect? body (lines.take last).reverse = some result ↔
      ∃ first, OpensAbove lines first last ∧ result = bodyBetween lines first last ++ body := by
  induction last generalizing body with
  | zero =>
    constructor
    · rintro ⟨⟩
    · rintro ⟨first, opens, -⟩
      exact absurd opens.first_lt (Nat.not_lt_zero first)
  | succ last ih =>
    have found : lines[last]? = some lines[last] := List.getElem?_eq_getElem inside
    rw [reverse_take_succ found]
    simp only [opensAbove_succ_iff found]
    by_cases opens : Opens lines[last]
    · -- nothing above this line can belong to the block
      rw [collect?_of_opens opens, Option.some.injEq]
      constructor
      · rintro rfl
        exact ⟨last, .inl ⟨rfl, opens⟩, by rw [bodyBetween_self found]⟩
      · rintro ⟨first, ⟨rfl, -⟩ | ⟨-, starred⟩, rfl⟩
        · rw [bodyBetween_self found]
        · exact absurd starred opens.not_starred
    · by_cases starred : Starred lines[last]
      · rw [collect?_of_starred starred, ih (Nat.le_of_succ_le inside)]
        constructor
        · rintro ⟨first, above, rfl⟩
          refine ⟨first, .inr ⟨above, starred⟩, ?_⟩
          rw [bodyBetween_succ above.first_lt found, List.append_assoc, List.singleton_append]
        · rintro ⟨first, ⟨-, opens'⟩ | ⟨above, -⟩, rfl⟩
          · exact absurd opens' opens
          · refine ⟨first, above, ?_⟩
            rw [bodyBetween_succ above.first_lt found, List.append_assoc, List.singleton_append]
      · rw [collect?_of_other opens starred]
        constructor
        · rintro ⟨⟩
        · rintro ⟨first, ⟨-, opens'⟩ | ⟨-, starred'⟩, -⟩
          · exact absurd opens' opens
          · exact absurd starred' starred

/-- A block that ends directly above a line is found from its closing line on. -/
theorem blockEndingAt?_eq_some_iff {index : Nat} (inside : index ≤ lines.length)
    {body : List Line} :
    blockEndingAt? (lines.take index).reverse = some body ↔
      ∃ first last, last + 1 = index ∧
        (∃ line, lines[last]? = some line ∧ trim line = "*/".toList) ∧
        OpensAbove lines first last ∧ body = bodyBetween lines first last := by
  cases index with
  | zero =>
    constructor
    · rintro ⟨⟩
    · rintro ⟨first, last, below, -⟩
      exact absurd below (Nat.succ_ne_zero last)
  | succ last =>
    have found : lines[last]? = some lines[last] := List.getElem?_eq_getElem inside
    have collected := @collect?_eq_some_iff lines last (Nat.le_of_succ_le inside) [] body
    simp only [List.append_nil] at collected
    rw [reverse_take_succ found, blockEndingAt?, Option.ite_none_right_eq_some, collected]
    constructor
    · rintro ⟨closing, first, opens, same⟩
      exact ⟨first, last, rfl, ⟨_, found, closing⟩, opens, same⟩
    · rintro ⟨first, last', below, ⟨line, found', closing⟩, opens, same⟩
      obtain rfl : last' = last := Nat.succ.inj below
      rw [found] at found'
      cases found'
      exact ⟨closing, first, opens, same⟩

/-- One blank line below a block is passed over. -/
theorem blockAbove?_succ {index : Nat} {line : Line} (found : lines[index]? = some line) :
    blockAbove? lines (index + 1) =
      if trim line = [] then blockEndingAt? (lines.take index).reverse
      else blockEndingAt? (lines.take (index + 1)).reverse := by
  have inside : ¬ lines.length < index + 1 :=
    Nat.not_lt.mpr (List.getElem?_eq_some_iff.mp found).1
  rw [blockAbove?, if_neg inside, reverse_take_succ found]
  simp only [List.isEmpty_iff]

/-- The block of a declaration below a blank line ends above that line; any other ends above the
declaration. -/
theorem blockAt_succ_iff {index first last : Nat} {line : Line}
    (found : lines[index]? = some line) :
    BlockAt lines (index + 1) first last ↔
      last + 1 = (if trim line = [] then index else index + 1) ∧
        (∃ line, lines[last]? = some line ∧ trim line = "*/".toList) ∧
        OpensAbove lines first last := by
  have inside : index < lines.length := (List.getElem?_eq_some_iff.mp found).1
  constructor
  · intro block
    refine ⟨?_, block.closing, block.toOpensAbove⟩
    rcases block.above with directly | ⟨apart, blank, found', empty⟩
    · obtain ⟨closer, found', mark⟩ := block.closing
      obtain rfl : last = index := Nat.succ.inj directly
      rw [found] at found'
      cases found'
      rw [mark]
      rfl
    · rw [Nat.add_sub_cancel, found] at found'
      cases found'
      rw [if_pos empty]
      omega
  · rintro ⟨below, closing, opens⟩
    refine ⟨opens, Nat.succ_pos index, inside, ?_, closing⟩
    split at below
    · next empty => exact .inr ⟨by omega, line, found, empty⟩
    · exact .inl below

/-- The search finds the block of a declaration. -/
theorem blockAbove?_eq_some_iff {index : Nat} {body : List Line} :
    blockAbove? lines index = some body ↔
      ∃ first last, BlockAt lines index first last ∧ body = bodyBetween lines first last := by
  cases index with
  | zero =>
    constructor
    · rintro ⟨⟩
    · rintro ⟨first, last, block, -⟩
      exact absurd block.index_pos (Nat.not_succ_le_zero 0)
  | succ index =>
    rcases Nat.lt_or_ge index lines.length with inside | outside
    · have found : lines[index]? = some lines[index] := List.getElem?_eq_getElem inside
      simp only [blockAbove?_succ found, blockAt_succ_iff found, and_assoc]
      split
      · exact blockEndingAt?_eq_some_iff (Nat.le_of_lt inside)
      · exact blockEndingAt?_eq_some_iff inside
    · rw [blockAbove?, if_pos (Nat.lt_succ_of_le outside)]
      constructor
      · rintro ⟨⟩
      · rintro ⟨first, last, block, -⟩
        exact absurd (Nat.le_trans block.index_le outside) (Nat.not_succ_le_self index)

/-! ## The search by indices -/

/-- The line at an index.  Outside of the document, reading fails. -/
def readLine (lines : List Line) (index : Nat) : Except Nat Line :=
  match lines[index]? with
  | some line => .ok line
  | none => .error index

/-- Collects a block upwards from the line above `index`. -/
def searchUp (lines : List Line) : Nat → List Line → Except Nat (Option (List Line))
  | 0, _ => return none
  | index + 1, body => do
    let text := trim (← readLine lines index)
    match stripFront? "/**".toList text with
    | some rest => return some (if (trim rest).isEmpty then body else rest :: body)
    | none => if text.head? = some '*' then searchUp lines index (text :: body) else return none

/-- The block that ends with the line at an index. -/
def searchEndingAt (lines : List Line) (index : Nat) : Except Nat (Option (List Line)) := do
  let line ← readLine lines index
  if trim line = "*/".toList then searchUp lines index [] else return none

/-- The block above the line at an index. -/
def searchAbove (lines : List Line) (index : Nat) : Except Nat (Option (List Line)) :=
  if index = 0 ∨ lines.length < index then return none
  else do
    let line ← readLine lines (index - 1)
    if (trim line).isEmpty then
      if index = 1 then return none else searchEndingAt lines (index - 2)
    else searchEndingAt lines (index - 1)

theorem readLine_eq_ok {index : Nat} {line : Line} (found : lines[index]? = some line) :
    readLine lines index = .ok line := by
  rw [readLine, found]

theorem searchUp_eq_ok {index : Nat} (inside : index ≤ lines.length) (body : List Line) :
    searchUp lines index body = .ok (collect? body (lines.take index).reverse) := by
  induction index generalizing body with
  | zero => rfl
  | succ index ih =>
    have found : lines[index]? = some lines[index] := List.getElem?_eq_getElem inside
    rw [reverse_take_succ found, searchUp, readLine_eq_ok found, collect?]
    show (match stripFront? "/**".toList (trim lines[index]) with
      | some rest => _
      | none => _) = _
    cases stripFront? "/**".toList (trim lines[index]) with
    | some rest => rfl
    | none =>
      dsimp only
      split
      · exact ih (Nat.le_of_succ_le inside) _
      · rfl

theorem searchEndingAt_eq_ok {index : Nat} (inside : index < lines.length) :
    searchEndingAt lines index = .ok (blockEndingAt? (lines.take (index + 1)).reverse) := by
  have found : lines[index]? = some lines[index] := List.getElem?_eq_getElem inside
  rw [searchEndingAt, readLine_eq_ok found, reverse_take_succ found, blockEndingAt?]
  show (if trim lines[index] = "*/".toList then _ else _) = _
  split
  · exact searchUp_eq_ok (Nat.le_of_lt inside) []
  · rfl

/-- **The search by indices reads no line that is not there**, and finds the same block. -/
theorem searchAbove_eq_ok (lines : List Line) (index : Nat) :
    searchAbove lines index = .ok (blockAbove? lines index) := by
  cases index with
  | zero => rfl
  | succ index =>
    rcases Nat.lt_or_ge index lines.length with inside | outside
    · have found : lines[index]? = some lines[index] := List.getElem?_eq_getElem inside
      have within : ¬ (index + 1 = 0 ∨ lines.length < index + 1) := by omega
      rw [blockAbove?_succ found, searchAbove, if_neg within, Nat.add_sub_cancel,
        readLine_eq_ok found]
      show (if (trim lines[index]).isEmpty = true then _ else _) = _
      simp only [List.isEmpty_iff]
      split
      · cases index with
        | zero => rfl
        | succ index => exact searchEndingAt_eq_ok (Nat.lt_of_succ_lt inside)
      · exact searchEndingAt_eq_ok inside
    · rw [blockAbove?, searchAbove, if_pos (.inr (Nat.lt_succ_of_le outside)),
        if_pos (Nat.lt_succ_of_le outside)]
      rfl

/-- **A block is found exactly if it is there.**  For every declaration, the body that is found is
what the lines of its block say; only one line can open and only one can close that block; and the
search reads no line outside of the document. -/
theorem block_found_iff (lines : List Line) (index : Nat) :
    (∀ body, blockAbove? lines index = some body ↔
      ∃ first last, BlockAt lines index first last ∧ body = bodyBetween lines first last) ∧
    (∀ first last first' last', BlockAt lines index first last →
      BlockAt lines index first' last' → first = first' ∧ last = last') ∧
    searchAbove lines index = .ok (blockAbove? lines index) := by
  refine ⟨?_, ?_, searchAbove_eq_ok lines index⟩
  · intro body
    exact blockAbove?_eq_some_iff
  · intro first last first' last' block block'
    exact block.unique block'

/-- A closing mark inside of a block starts with a star like any other line of it. -/
example : blockAbove? (Text.lines "/** Adds.\n * a\n */\n */\n\nfun f()") 5 =
    some [" Adds.".toList, "* a".toList, "*/".toList] := by
  decide

end DocComment

end KotlinAssist
