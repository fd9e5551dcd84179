import KotlinAssist.Fold
import Mathlib.Data.List.Basic

/-!
# Runs of lines that fold

Which runs of line comments or of imports fold can be said without reading the document from top to
bottom: they are the intervals of lines of the class that can not be made longer at either end, as
far as they have three lines.  The pass over the lines carries the start of the run that reaches up
to the line to be read.  As long as it does so, a maximal run ends directly above that line exactly
if it starts where the pass says; and it is closed there, or at the end of the document.

Closing a run takes two differences of line numbers.  Written with a subtraction that fails where a
number is taken from a smaller one, the pass never fails, since a run starts above the line that
ends it.

## Main definitions

* `LineRun.IsMaximal` — a run of lines that can not be made longer
* `LineRun.ListsMaximal` — the maximal runs that are long enough, in order
* `LineRun.Reaches` — what the pass carries
* `LineRun.checkedAll` — the pass with subtractions that can fail

## Main statements

* `LineRun.Reaches.isMaximal_iff` — where a maximal run ends, the pass knows its start
* `LineRun.mem_startingAt_iff`, `LineRun.pairwise_startingAt` — what is found from a line on
* `LineRun.checkedAll_eq_ok` — no subtraction fails
* `line_runs_are_maximal` — what is found in a document
-/

namespace KotlinAssist

open Text

namespace LineRun

/-! ## Maximal runs -/

/-- A document has a line with this number, and it belongs to a class of lines. -/
def Belongs (belongs : Line → Bool) (document : List Line) (index : Nat) : Prop :=
  ∃ line ∈ document[index]?, belongs (trim line) = true

/-- Lines of a class between lines, or ends of the document, that are not of the class. -/
structure IsMaximal (belongs : Line → Bool) (document : List Line) (span : LineSpan) : Prop where
  nonempty : span.first ≤ span.last
  within : ∀ index, span.first ≤ index → index ≤ span.last → Belongs belongs document index
  before : ∀ index, index + 1 = span.first → ¬ Belongs belongs document index
  after : ¬ Belongs belongs document (span.last + 1)

/-- The maximal runs of three lines or more, each once and in the order of their lines. -/
structure ListsMaximal (belongs : Line → Bool) (document : List Line)
    (runs : List LineSpan) : Prop where
  mem_iff : ∀ span, span ∈ runs ↔
    IsMaximal belongs document span ∧ 3 ≤ span.last + 1 - span.first
  ordered : runs.Pairwise fun left right => left.last + 1 < right.first

/-- The run that is carried to a line: it starts at `first` and reaches up to the line above
`index`.  There is none if the line above does not belong to the class. -/
structure Reaches (belongs : Line → Bool) (document : List Line) (index : Nat)
    (first : Option Nat) : Prop where
  start_lt : ∀ start ∈ first, start < index
  within : ∀ place, first.getD index ≤ place → place < index → Belongs belongs document place
  before : ∀ place, place + 1 = first.getD index → ¬ Belongs belongs document place

variable {belongs : Line → Bool} {document : List Line} {index : Nat} {first : Option Nat}
  {span : LineSpan}

theorem belongs_iff {line : Line} (present : document[index]? = some line) :
    Belongs belongs document index ↔ belongs (trim line) = true := by
  constructor
  · rintro ⟨found, isLine, inside⟩
    cases present.symm.trans isLine
    exact inside
  · intro inside
    exact ⟨line, present, inside⟩

/-- The first of the lines from a number on has that number. -/
theorem read_of_drop {line : Line} {rest : List Line} (below : document.drop index = line :: rest) :
    document[index]? = some line ∧ document.drop (index + 1) = rest := by
  rw [← List.head?_drop, ← List.tail_drop, below]
  exact ⟨rfl, rfl⟩

theorem Belongs.lt_length (inside : Belongs belongs document index) : index < document.length := by
  obtain ⟨line, present, -⟩ := inside
  exact (List.getElem?_eq_some_iff.mp present).1

/-! ## What the pass carries -/

/-- A run that goes on starts above the next line. -/
theorem start_lt_succ (above : ∀ start ∈ first, start < index) :
    ∀ start ∈ some (first.getD index), start < index + 1 := by
  rintro _ ⟨⟩
  cases first with
  | none => exact Nat.lt_succ_self index
  | some start => exact Nat.lt_succ_of_lt (above start rfl)

namespace Reaches

theorem start (belongs : Line → Bool) (document : List Line) :
    Reaches belongs document 0 none where
  start_lt := by rintro _ ⟨⟩
  within := by
    intro place _ above
    exact absurd above (Nat.not_lt_zero place)
  before := by
    intro place next
    exact absurd next (Nat.succ_ne_zero place)

/-- A line of the class makes the run longer, or starts one. -/
theorem extend (reaches : Reaches belongs document index first)
    (inside : Belongs belongs document index) :
    Reaches belongs document (index + 1) (some (first.getD index)) where
  start_lt := start_lt_succ reaches.start_lt
  within := by
    intro place low high
    rcases Nat.lt_succ_iff_lt_or_eq.mp high with above | rfl
    · exact reaches.within place low above
    · exact inside
  before := reaches.before

/-- Any other line ends the run. -/
theorem interrupt (outside : ¬ Belongs belongs document index) :
    Reaches belongs document (index + 1) none where
  start_lt := by rintro _ ⟨⟩
  within := by
    intro place low high
    exact absurd high (Nat.not_lt.mpr low)
  before := by
    rintro place ⟨⟩
    exact outside

/-- **Where a maximal run ends, its start is the one that is carried.** -/
theorem isMaximal_iff (reaches : Reaches belongs document index first)
    (outside : ¬ Belongs belongs document index) :
    IsMaximal belongs document span ∧ span.last + 1 = index ↔
      ∃ start ∈ first, span = ⟨start, index - 1⟩ := by
  constructor
  · rintro ⟨maximal, rfl⟩
    have nonempty := maximal.nonempty
    have last := maximal.within span.last nonempty (Nat.le_refl _)
    cases first with
    | none => exact absurd last (reaches.before span.last rfl)
    | some start =>
      have above : start ≤ span.last := Nat.le_of_lt_succ (reaches.start_lt start rfl)
      -- neither run can start inside of the other one, where both have lines of the class
      have notLater : ¬ start < span.first := by
        intro later
        have inside := reaches.within (span.first - 1) (Nat.le_pred_of_lt later) (by omega)
        exact maximal.before (span.first - 1) (by omega) inside
      have notEarlier : ¬ span.first < start := by
        intro earlier
        have inside := maximal.within (start - 1) (Nat.le_pred_of_lt earlier) (by omega)
        refine reaches.before (start - 1) ?_ inside
        show start - 1 + 1 = start
        omega
      have same : span.first = start :=
        Nat.le_antisymm (Nat.not_lt.mp notLater) (Nat.not_lt.mp notEarlier)
      exact ⟨start, rfl, by rw [← same, Nat.add_sub_cancel]⟩
  · rintro ⟨start, rfl, rfl⟩
    have above : start < index := reaches.start_lt start rfl
    have stop : index - 1 + 1 = index := by omega
    refine ⟨⟨?_, ?_, reaches.before, ?_⟩, stop⟩
    · show start ≤ index - 1
      omega
    · intro place low high
      refine reaches.within place low ?_
      show place < index
      change place ≤ index - 1 at high
      omega
    · show ¬ Belongs belongs document (index - 1 + 1)
      rwa [stop]

end Reaches

/-! ## The pass -/

theorem mem_close_iff {start stop : Nat} (above : start < stop) :
    span ∈ close start stop ↔ span = ⟨start, stop - 1⟩ ∧ 3 ≤ span.last + 1 - span.first := by
  unfold close minimum
  split
  · next long =>
    rw [List.mem_singleton]
    constructor
    · rintro rfl
      refine ⟨rfl, ?_⟩
      show 3 ≤ stop - 1 + 1 - start
      omega
    · exact And.left
  · next short =>
    constructor
    · rintro ⟨⟩
    · rintro ⟨rfl, long⟩
      change 3 ≤ stop - 1 + 1 - start at long
      omega

/-- What is closed above a line is the long run that ends there. -/
theorem mem_closed_iff (reaches : Reaches belongs document index first)
    (outside : ¬ Belongs belongs document index) :
    span ∈ (first.map (close · index)).getD [] ↔
      (IsMaximal belongs document span ∧ span.last + 1 = index) ∧
        3 ≤ span.last + 1 - span.first := by
  rw [reaches.isMaximal_iff outside]
  cases first with
  | none => simp
  | some start =>
    have above : start < index := reaches.start_lt start rfl
    rw [Option.map_some, Option.getD_some, mem_close_iff above]
    simp

/-- **What is found from a line on**: the long maximal runs that do not end further up than
directly above it. -/
theorem mem_startingAt_iff {rest : List Line} (below : document.drop index = rest)
    (reaches : Reaches belongs document index first) :
    span ∈ startingAt belongs index first rest ↔
      (IsMaximal belongs document span ∧ index ≤ span.last + 1) ∧
        3 ≤ span.last + 1 - span.first := by
  induction rest generalizing index first with
  | nil =>
    have past : document.length ≤ index := List.drop_eq_nil_iff.mp below
    have outside : ¬ Belongs belongs document index :=
      fun inside => absurd inside.lt_length (Nat.not_lt.mpr past)
    rw [startingAt, mem_closed_iff reaches outside]
    refine and_congr_left' (and_congr_right fun maximal => ?_)
    have last := (maximal.within span.last maximal.nonempty (Nat.le_refl _)).lt_length
    omega
  | cons line rest ih =>
    obtain ⟨present, below'⟩ := read_of_drop below
    rw [startingAt]
    split
    · next inside =>
      have inside := (belongs_iff present).mpr inside
      rw [ih below' (reaches.extend inside)]
      refine and_congr_left' (and_congr_right fun maximal => ?_)
      -- no run ends above a line of the class
      have further : span.last + 1 ≠ index := by
        rintro rfl
        exact maximal.after inside
      omega
    · next outside =>
      have outside := (belongs_iff present).not.mpr outside
      rw [List.mem_append, mem_closed_iff reaches outside, ih below' (.interrupt outside),
        ← or_and_right, ← and_or_left]
      refine and_congr_left' (and_congr_right' ?_)
      omega

/-- One run at most is closed above a line. -/
theorem pairwise_closed (index : Nat) (first : Option Nat) :
    ((first.map (close · index)).getD []).Pairwise fun left right =>
      left.last + 1 < right.first := by
  cases first with
  | none => exact .nil
  | some start =>
    rw [Option.map_some, Option.getD_some, close]
    split
    · exact List.pairwise_singleton _ _
    · exact .nil

/-- The runs that are found follow one another, with a line between any two that is in neither. -/
theorem pairwise_startingAt {rest : List Line} (below : document.drop index = rest)
    (reaches : Reaches belongs document index first) :
    (startingAt belongs index first rest).Pairwise fun left right =>
      left.last + 1 < right.first := by
  induction rest generalizing index first with
  | nil => exact pairwise_closed index first
  | cons line rest ih =>
    obtain ⟨present, below'⟩ := read_of_drop below
    rw [startingAt]
    split
    · next inside =>
      exact ih below' (reaches.extend ((belongs_iff present).mpr inside))
    · next outside =>
      have outside := (belongs_iff present).not.mpr outside
      refine List.pairwise_append.mpr
        ⟨pairwise_closed index first, ih below' (.interrupt outside), ?_⟩
      intro left ends right later
      obtain ⟨⟨-, rfl⟩, -⟩ := (mem_closed_iff reaches outside).mp ends
      obtain ⟨⟨maximal, further⟩, -⟩ := (mem_startingAt_iff below' (.interrupt outside)).mp later
      -- the line between them is not in the later run, which ends behind it
      by_contra reached
      exact outside (maximal.within _ (Nat.not_lt.mp reached) (Nat.le_of_succ_le_succ further))

theorem listsMaximal_all (belongs : Line → Bool) (document : List Line) :
    ListsMaximal belongs document (all belongs document) where
  mem_iff := by
    intro span
    rw [all, mem_startingAt_iff List.drop_zero (.start belongs document)]
    simp
  ordered := pairwise_startingAt List.drop_zero (.start belongs document)

/-! ## Differences of line numbers -/

/-- Subtraction that fails where a number is taken from a smaller one. -/
def subtract (left right : Nat) : Except (Nat × Nat) Nat :=
  if right ≤ left then .ok (left - right) else .error (left, right)

/-- The run from `first` up to, and not including, `stop`, if it is long enough. -/
def checkedClose (first stop : Nat) : Except (Nat × Nat) (List LineSpan) := do
  let length ← subtract stop first
  if minimum ≤ length then
    let last ← subtract stop 1
    return [⟨first, last⟩]
  else return []

/-- The runs that end on lines numbered from `index` on. -/
def checkedStartingAt (belongs : Line → Bool) (index : Nat) (first : Option Nat) :
    List Line → Except (Nat × Nat) (List LineSpan)
  | [] => (first.map (checkedClose · index)).getD (return [])
  | line :: rest =>
    if belongs (trim line) then
      checkedStartingAt belongs (index + 1) (some (first.getD index)) rest
    else do
      let closed ← (first.map (checkedClose · index)).getD (return [])
      let later ← checkedStartingAt belongs (index + 1) none rest
      return closed ++ later

/-- The runs of a document, found with subtractions that can fail. -/
def checkedAll (belongs : Line → Bool) (document : List Line) :
    Except (Nat × Nat) (List LineSpan) :=
  checkedStartingAt belongs 0 none document

theorem subtract_eq_ok {left right : Nat} (enough : right ≤ left) :
    subtract left right = .ok (left - right) :=
  if_pos enough

theorem checkedClose_eq_ok {start stop : Nat} (above : start < stop) :
    checkedClose start stop = .ok (close start stop) := by
  rw [checkedClose, subtract_eq_ok (Nat.le_of_lt above),
    subtract_eq_ok (Nat.one_le_of_lt above), close]
  show (if minimum ≤ stop - start then _ else _) = _
  split <;> rfl

theorem checkedStartingAt_eq_ok {rest : List Line} (above : ∀ start ∈ first, start < index) :
    checkedStartingAt belongs index first rest = .ok (startingAt belongs index first rest) := by
  have closed {index : Nat} {first : Option Nat} (above : ∀ start ∈ first, start < index) :
      (first.map (checkedClose · index)).getD (return []) =
        .ok ((first.map (close · index)).getD []) := by
    cases first with
    | none => rfl
    | some start => exact checkedClose_eq_ok (above start rfl)
  induction rest generalizing index first with
  | nil => exact closed above
  | cons line rest ih =>
    rw [checkedStartingAt, startingAt]
    split
    · exact ih (start_lt_succ above)
    · rw [closed above, ih (by rintro _ ⟨⟩)]
      rfl

/-- No subtraction fails. -/
theorem checkedAll_eq_ok (belongs : Line → Bool) (document : List Line) :
    checkedAll belongs document = .ok (all belongs document) :=
  checkedStartingAt_eq_ok (by rintro _ ⟨⟩)

end LineRun

/-- **Comments and imports fold in exactly their maximal long runs.**  For every document, the runs
of line comments are the intervals of lines that are line comments, up to blanks at their ends, that
have three lines or more and can not be made longer at either end, each once and in order.  The same
holds for imports; and no difference of line numbers that is taken goes below zero. -/
theorem line_runs_are_maximal (document : List Line) :
    (LineRun.ListsMaximal Grammar.isLineComment document (LineRun.comments document) ∧
      LineRun.checkedAll Grammar.isLineComment document = .ok (LineRun.comments document)) ∧
    (LineRun.ListsMaximal Grammar.isImport document (LineRun.imports document) ∧
      LineRun.checkedAll Grammar.isImport document = .ok (LineRun.imports document)) :=
  ⟨⟨LineRun.listsMaximal_all _ document, LineRun.checkedAll_eq_ok _ document⟩,
    ⟨LineRun.listsMaximal_all _ document, LineRun.checkedAll_eq_ok _ document⟩⟩

/-- A run of two lines is left out, and one that reaches the last line is not. -/
example : LineRun.comments (lines "// a\n// b\nval x\n  // c\n// d\n// e") = [⟨3, 5⟩] := by
  decide

end KotlinAssist
