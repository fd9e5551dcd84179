import KotlinAssist.Proofs.Fold.Functions
import KotlinAssist.Proofs.Sorting

/-!
# Folding ranges of a document

Each pass over the lines carries what has been opened: a stack of braces, a count of them, a comment
or the first line of a run.  What is carried was opened on a line that has been read, and a region
is reported only on a later line; a run is reported when it has ended, and is long enough to take
several lines.  So every region takes more than one line and ends inside of the document, also when
braces and comments do not match up.

The regions of the passes are put one after the other and then in the order of their first lines,
which leaves those with one first line in the order of the passes.

## Main definitions

* `LineSpan.Folds` — several lines of a document

## Main statements

* `BraceRegion.folds_of_mem_all`, `FunctionRegion.folds_of_mem_all`,
  `CommentRegion.folds_of_mem_all`, `LineRun.folds_of_mem_all` — what each pass finds
* `folding_ranges_well_formed` — what all of them find, in its order
-/

namespace KotlinAssist

open Text

/-- Several lines of a document of `count` lines. -/
structure LineSpan.Folds (count : Nat) (span : LineSpan) : Prop where
  several : span.first < span.last
  inside : span.last < count

/-! ## Braces and functions -/

/-- A brace stands on one of the lines that were read. -/
theorem Brace.line_lt_of_mem_startingAt {index : Nat} {document : List Line} {brace : Brace}
    (member : brace ∈ startingAt index document) : brace.place.line < index + document.length := by
  obtain ⟨above, front, back, below, rfl, placed⟩ := exists_of_mem_startingAt member
  rw [placed, List.length_append, List.length_cons]
  show index + above.length < index + (above.length + (below.length + 1))
  omega

/-- A pair of braces on different lines folds. -/
theorem BracePair.folds_span {document : List Line} {pair : BracePair}
    (member : pair ∈ all document) (several : pair.span.first < pair.span.last) :
    pair.span.Folds document.length where
  several := several
  inside := by
    have closed := Brace.line_lt_of_mem_startingAt (closing_of_mem_pairUp member)
    rwa [Nat.zero_add] at closed

theorem BraceRegion.folds_of_mem_all {document : List Line} {region : BraceRegion}
    (member : region ∈ all document) : region.span.Folds document.length := by
  rw [all_eq_filterMap] at member
  obtain ⟨pair, paired, chosen⟩ := List.mem_filterMap.mp member
  unfold BracePair.region? at chosen
  split at chosen
  · next several =>
    cases chosen
    exact pair.folds_span paired several
  · cases chosen

theorem FunctionRegion.folds_of_mem_all {document : List Line} {span : LineSpan}
    (member : span ∈ all document) : span.Folds document.length := by
  obtain ⟨pair, paired, -, rfl, several⟩ := mem_all_iff.mp member
  exact pair.folds_span paired several

/-! ## Comments -/

namespace CommentRegion

/-- A comment that is open was opened above, so it folds on the line that closes it. -/
theorem folds_of_mem_startingAt {index : Nat} {opened : Option (Nat × Bool)} {lines : List Line}
    {region : CommentRegion} (above : ∀ comment ∈ opened, comment.1 < index)
    (member : region ∈ startingAt index opened lines) :
    region.span.Folds (index + lines.length) := by
  induction lines generalizing index opened with
  | nil => cases member
  | cons line rest ih =>
    have count : index + (line :: rest).length = index + 1 + rest.length := by
      rw [List.length_cons]
      omega
    rw [count]
    cases opened with
    | none =>
      refine ih ?_ member
      intro comment left
      obtain ⟨_, -, rfl⟩ := Option.map_eq_some_iff.mp left
      exact Nat.lt_succ_self index
    | some comment =>
      have earlier : comment.1 < index := above comment rfl
      rw [startingAt] at member
      split at member
      · rcases List.mem_cons.mp member with rfl | later
        · refine ⟨earlier, ?_⟩
          show index < index + 1 + rest.length
          omega
        · refine ih ?_ later
          intro comment nothing
          cases nothing
      · refine ih ?_ member
        rintro _ ⟨⟩
        exact Nat.lt_succ_of_lt earlier

theorem folds_of_mem_all {document : List Line} {region : CommentRegion}
    (member : region ∈ all document) : region.span.Folds document.length := by
  have found : region.span.Folds (0 + document.length) := by
    refine folds_of_mem_startingAt ?_ member
    intro comment nothing
    cases nothing
  rwa [Nat.zero_add] at found

end CommentRegion

/-! ## Runs of lines -/

namespace LineRun

/-- A run that is long enough takes several lines, of which the last is before its end. -/
theorem folds_of_mem_close {first stop count : Nat} {span : LineSpan} (inside : stop ≤ count)
    (member : span ∈ close first stop) : span.Folds count := by
  unfold close minimum at member
  split at member
  · cases List.mem_singleton.mp member
    constructor
    · show first < stop - 1
      omega
    · show stop - 1 < count
      omega
  · cases member

theorem folds_of_mem_startingAt {belongs : Line → Bool} {index : Nat} {first : Option Nat}
    {lines : List Line} {span : LineSpan}
    (member : span ∈ startingAt belongs index first lines) :
    span.Folds (index + lines.length) := by
  -- a run is closed at the line that is read, or at the end of the lines
  have closed {stop count : Nat} {first : Option Nat} (inside : stop ≤ count)
      (member : span ∈ (first.map (close · stop)).getD []) : span.Folds count := by
    cases first with
    | none => cases member
    | some first => exact folds_of_mem_close inside member
  induction lines generalizing index first with
  | nil => exact closed (Nat.le_add_right _ _) member
  | cons line rest ih =>
    have count : index + (line :: rest).length = index + 1 + rest.length := by
      rw [List.length_cons]
      omega
    rw [startingAt] at member
    split at member
    · rw [count]
      exact ih member
    · rcases List.mem_append.mp member with here | later
      · exact closed (Nat.le_add_right _ _) here
      · rw [count]
        exact ih later

theorem folds_of_mem_all {belongs : Line → Bool} {document : List Line} {span : LineSpan}
    (member : span ∈ all belongs document) : span.Folds document.length := by
  have found := folds_of_mem_startingAt member
  rwa [Nat.zero_add] at found

end LineRun

/-! ## All regions -/

namespace FoldingRange

theorem folds_of_mem_passes {document : List Line} {range : FoldingRange}
    (member : range ∈ passes document) : range.span.Folds document.length := by
  simp only [passes, List.mem_append] at member
  rcases member with (((brace | function) | comment) | run) | imported
  · obtain ⟨region, found, rfl⟩ := List.mem_map.mp brace
    exact BraceRegion.folds_of_mem_all found
  · obtain ⟨span, found, rfl⟩ := List.mem_map.mp function
    exact FunctionRegion.folds_of_mem_all found
  · obtain ⟨region, found, rfl⟩ := List.mem_map.mp comment
    exact CommentRegion.folds_of_mem_all found
  · obtain ⟨span, found, rfl⟩ := List.mem_map.mp run
    exact LineRun.folds_of_mem_all found
  · obtain ⟨span, found, rfl⟩ := List.mem_map.mp imported
    exact LineRun.folds_of_mem_all found

/-- The order by first lines, in which several regions can stand in either order. -/
theorem trans_first (left middle right : FoldingRange) :
    decide (left.span.first ≤ middle.span.first) = true →
      decide (middle.span.first ≤ right.span.first) = true →
        decide (left.span.first ≤ right.span.first) = true := by
  simp only [decide_eq_true_eq]
  exact Nat.le_trans

theorem total_first (left right : FoldingRange) :
    (decide (left.span.first ≤ right.span.first) ||
      decide (right.span.first ≤ left.span.first)) = true := by
  simp only [Bool.or_eq_true, decide_eq_true_eq]
  exact Nat.le_total _ _

theorem pairwise_all (document : List Line) :
    (all document).Pairwise fun left right => left.span.first ≤ right.span.first := by
  have sorted := List.pairwise_mergeSort trans_first total_first (passes document)
  simp only [decide_eq_true_eq] at sorted
  exact sorted

/-- Regions with one first line stay in the order of the passes. -/
theorem filter_all (document : List Line) (first : Nat) :
    (all document).filter (·.span.first = first) =
      (passes document).filter (·.span.first = first) := by
  refine filter_mergeSort trans_first total_first (List.pairwise_filter.mpr ?_)
  refine List.pairwise_of_forall fun left right here there => ?_
  rw [decide_eq_true_eq] at here there ⊢
  exact Nat.le_of_eq (here.trans there.symm)

end FoldingRange

/-- **Folding ranges are well formed.**  For every document, each of them takes several lines and
ends inside of the document; they are in the order of their first lines; and they are the regions of
the five passes: pairs of braces, bodies of functions, block comments, runs of line comments and
runs of imports.  Those with one first line are in the order of the passes. -/
theorem folding_ranges_well_formed (document : List Line) :
    let passes : List FoldingRange :=
      (BraceRegion.all document).map (fun region => ⟨region.span, none⟩) ++
      (FunctionRegion.all document).map (fun span => ⟨span, some .region⟩) ++
      (CommentRegion.all document).map (fun region => ⟨region.span, some .comment⟩) ++
      (LineRun.comments document).map (fun span => ⟨span, some .comment⟩) ++
      (LineRun.imports document).map (fun span => ⟨span, some .imports⟩)
    (∀ range ∈ FoldingRange.all document, range.span.first < range.span.last ∧
      range.span.last < document.length) ∧
    (FoldingRange.all document).Pairwise (fun left right =>
      left.span.first ≤ right.span.first) ∧
    (FoldingRange.all document).Perm passes ∧
    ∀ first, (FoldingRange.all document).filter (·.span.first = first) =
      passes.filter (·.span.first = first) := by
  intro passes
  have permuted : (FoldingRange.all document).Perm passes := List.mergeSort_perm _ _
  refine ⟨?_, FoldingRange.pairwise_all document, permuted, FoldingRange.filter_all document⟩
  intro range member
  have folds := FoldingRange.folds_of_mem_passes (permuted.mem_iff.mp member)
  exact ⟨folds.several, folds.inside⟩

end KotlinAssist
