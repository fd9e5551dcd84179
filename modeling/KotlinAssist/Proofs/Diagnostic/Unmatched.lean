import KotlinAssist.Diagnostic
import KotlinAssist.Proofs.Fold.Matching
import KotlinAssist.Proofs.Text.Lines
import Mathlib.Data.List.Induction
import Mathlib.Data.Nat.Lattice

/-!
# Closing braces that close nothing

The rule about braces keeps a number of open braces, which stays at zero where a brace is closed and
none is open.  A count that is never reset tells the same braces apart: how many more braces have
been closed than opened.  The number of open braces is how far this count lies below the highest
value that it has had, or below zero, where it starts; so nothing is open exactly when the count is
at its highest, and a closing brace that closes nothing is one that takes it higher than it has ever
been.

The stack of the pass that pairs up braces has as many entries as there are open braces, so it is
empty at the same places.

## Main definitions

* `excess` — how many more braces are closed than opened
* `depthAfter` — the number of open braces after a text
* `Unmatched` — a closing brace at which the excess is higher than before
* `BraceRegion.stackAt` — the stack of the pass over the braces at a place

## Main statements

* `le_excess_add_depthAfter`, `exists_eq_excess_add_depthAfter` — the highest value of the excess
* `unmatched_iff_depthAfter` — at an unmatched brace nothing is open
* `BraceRegion.all_of_cut` — the pass over the braces goes on from its stack
* `BraceRegion.length_stackAt` — the stack holds the open braces
* `BraceBalance.mem_places_iff` — the places that are reported
* `brace_findings_are_unmatched_closers` — what the rule about braces reports
-/

namespace KotlinAssist

open Text

/-! ## Counting braces -/

/-- How many more braces are closed than opened in a text. -/
def excess (text : List Char) : Int :=
  text.count '}' - text.count '{'

/-- The number of open braces after one more character. -/
def depthStep (depth : Nat) (c : Char) : Nat :=
  if c = '{' then depth + 1 else if c = '}' then depth - 1 else depth

/-- The number of open braces after a text, where `depth` are open before it. -/
def depthAfter (depth : Nat) (text : List Char) : Nat :=
  text.foldl depthStep depth

theorem depthAfter_cons (depth : Nat) (c : Char) (text : List Char) :
    depthAfter depth (c :: text) = depthAfter (depthStep depth c) text := rfl

theorem depthAfter_append (depth : Nat) (front back : List Char) :
    depthAfter depth (front ++ back) = depthAfter (depthAfter depth front) back :=
  List.foldl_append

theorem excess_concat (text : List Char) (c : Char) :
    excess (text ++ [c]) =
      excess text + if c = '{' then -1 else if c = '}' then 1 else 0 := by
  unfold excess
  rw [List.count_append, List.count_append, List.count_singleton, List.count_singleton]
  by_cases opening : c = '{'
  · subst opening
    simp
    omega
  · by_cases closing : c = '}'
    · subst closing
      simp
      omega
    · simp [opening, closing]

theorem excess_filter_isBrace (text : List Char) : excess (text.filter isBrace) = excess text := by
  rw [excess, excess, List.count_filter rfl, List.count_filter rfl]

/-- One more character: the number of open braces and the excess change against each other, unless
a brace is closed and none is open. -/
theorem excess_add_depthAfter_concat (text : List Char) (c : Char) :
    excess (text ++ [c]) + depthAfter 0 (text ++ [c]) =
      if c = '}' ∧ depthAfter 0 text = 0 then excess text + 1
      else excess text + depthAfter 0 text := by
  have step : depthAfter 0 (text ++ [c]) = depthStep (depthAfter 0 text) c :=
    depthAfter_append 0 text [c]
  rw [excess_concat, step, depthStep]
  by_cases opening : c = '{'
  · rw [if_pos opening, if_pos opening, if_neg (by simp [opening])]
    omega
  · rw [if_neg opening, if_neg opening]
    by_cases closing : c = '}'
    · simp only [closing, if_true, true_and]
      split <;> omega
    · rw [if_neg closing, if_neg closing, if_neg (fun both => closing both.1), add_zero]

/-- **The excess has never been higher** than by the number of braces that are open. -/
theorem le_excess_add_depthAfter {text front : List Char} (isFront : front <+: text) :
    excess front ≤ excess text + depthAfter 0 text := by
  induction text using List.reverseRecOn with
  | nil =>
    rw [List.prefix_nil.mp isFront]
    exact le_refl _
  | append_singleton text c ih =>
    rcases List.prefix_concat_iff.mp isFront with rfl | shorter
    · omega
    · have before := ih shorter
      have after := excess_add_depthAfter_concat text c
      split at after <;> omega

/-- And it has been that high. -/
theorem exists_eq_excess_add_depthAfter (text : List Char) :
    ∃ front, front <+: text ∧ excess front = excess text + depthAfter 0 text := by
  induction text using List.reverseRecOn with
  | nil => exact ⟨[], List.nil_prefix, rfl⟩
  | append_singleton text c ih =>
    have after := excess_add_depthAfter_concat text c
    split at after
    · next both =>
      obtain ⟨closing, -⟩ := both
      subst closing
      refine ⟨text ++ ['}'], List.prefix_rfl, ?_⟩
      rw [after, excess_concat]
      rfl
    · obtain ⟨front, isFront, highest⟩ := ih
      refine ⟨front, isFront.trans (List.prefix_append text [c]), ?_⟩
      rw [highest, after]

/-- Nothing is open exactly where the excess has never been higher. -/
theorem depthAfter_eq_zero_iff (text : List Char) :
    depthAfter 0 text = 0 ↔ ∀ front, front <+: text → excess front ≤ excess text := by
  constructor
  · intro closed front isFront
    have bound := le_excess_add_depthAfter isFront
    omega
  · intro highest
    obtain ⟨front, isFront, same⟩ := exists_eq_excess_add_depthAfter text
    have bound := highest front isFront
    omega

/-! ## Unmatched braces -/

/-- The excess up to a place of a document, with the character there. -/
def excessUpTo (document : List Line) (place : Position) : Int :=
  excess (charsBefore document ⟨place.line, place.character + 1⟩)

/-- A closing brace at which more braces have been closed than opened, and by more than at any
character before it. -/
structure Unmatched (document : List Line) (place : Position) : Prop where
  closes : charAt? document place = some '}'
  positive : 0 < excessUpTo document place
  highest : ∀ earlier < place, (charAt? document earlier).isSome →
    excessUpTo document earlier < excessUpTo document place

theorem charsBefore_succ {document : List Line} {place : Position} {c : Char}
    (present : charAt? document place = some c) :
    charsBefore document ⟨place.line, place.character + 1⟩ = charsBefore document place ++ [c] := by
  obtain ⟨above, front, back, below, rfl, rfl⟩ := charAt?_eq_some_iff.mp present
  simp [charsBefore, List.take_append]

theorem charsBefore_isPrefix (document : List Line) (place : Position) :
    charsBefore document place <+: document.flatten := by
  obtain ⟨row, column⟩ := place
  cases present : document[row]? with
  | none =>
    have whole : document.take row = document :=
      List.take_of_length_le (List.getElem?_eq_none_iff.mp present)
    simp [charsBefore, present, whole]
  | some line =>
    obtain ⟨above, below, rfl, rfl⟩ := exists_append_of_getElem? present
    rw [List.flatten_append, List.flatten_cons]
    simp only [charsBefore, List.take_left, present, Option.getD_some]
    exact (List.prefix_append_right_inj _).mpr
      ((List.take_prefix column line).trans (List.prefix_append line _))

/-- Every character of a document has a place. -/
theorem exists_place_of_flatten {document : List Line} {front back : List Char} {c : Char}
    (whole : document.flatten = front ++ c :: back) :
    ∃ place, charAt? document place = some c ∧ charsBefore document place = front := by
  obtain ⟨above, front', back', below, rfl, rfl⟩ : ∃ above front' back' below,
      document = above ++ (front' ++ c :: back') :: below ∧ front = above.flatten ++ front' := by
    rcases List.flatten_eq_append_iff.mp whole with
      ⟨above, rest, rfl, rfl, later⟩ | ⟨above, front', c', back', below, rfl, rfl, same⟩
    · obtain ⟨empty, back', below, rfl, blank, -⟩ := List.flatten_eq_cons_iff.mp later.symm
      refine ⟨above ++ empty, [], back', below, ?_, ?_⟩
      · rw [List.append_assoc, List.nil_append]
      · rw [List.flatten_append, List.flatten_eq_nil_iff.mpr blank, List.append_nil,
          List.append_nil]
    · obtain ⟨rfl, -⟩ := List.cons.inj same
      exact ⟨above, front', back', below, rfl, rfl⟩
  exact ⟨⟨above.length, front'.length⟩, charAt?_eq_some_iff.mpr ⟨_, _, _, _, rfl, rfl⟩,
    charsBefore_of_cut above below front' (c :: back')⟩

/-- Every character before a place has a place of its own before it. -/
theorem exists_place_of_charsBefore {document : List Line} {place : Position}
    {front between : List Char} {c c' : Char} (present : charAt? document place = some c')
    (before : charsBefore document place = front ++ c :: between) :
    ∃ earlier < place, charAt? document earlier = some c ∧ charsBefore document earlier = front := by
  obtain ⟨back, whole⟩ := charsBefore_isPrefix document place
  rw [before, List.append_assoc, List.cons_append] at whole
  obtain ⟨earlier, present', front_eq⟩ := exists_place_of_flatten whole.symm
  refine ⟨earlier, ?_, present', front_eq⟩
  -- at this place, or behind it, there would be more characters before
  by_contra notBefore
  have shorter : (charsBefore document earlier).length < (charsBefore document place).length := by
    rw [front_eq, before, List.length_append, List.length_cons]
    omega
  have late : place < earlier ∨ place = earlier := by
    obtain ⟨row, column⟩ := place
    obtain ⟨row', column'⟩ := earlier
    rcases Nat.lt_trichotomy row row' with above | rfl | below
    · exact .inl (.inl above)
    · rcases Nat.lt_trichotomy column column' with left | rfl | right
      · exact .inl (.inr ⟨rfl, left⟩)
      · exact .inr rfl
      · exact absurd (.inr ⟨rfl, right⟩) notBefore
    · exact absurd (.inl below) notBefore
  rcases late with behind | rfl
  · obtain ⟨between, longer⟩ := exists_charsBefore_of_lt present behind
    rw [longer, List.length_append] at shorter
    omega
  · exact absurd shorter (Nat.lt_irrefl _)

/-- **At an unmatched brace nothing is open.** -/
theorem unmatched_iff_depthAfter {document : List Line} {place : Position} :
    Unmatched document place ↔
      charAt? document place = some '}' ∧ depthAfter 0 (charsBefore document place) = 0 := by
  have upTo (closes : charAt? document place = some '}') :
      excessUpTo document place = excess (charsBefore document place) + 1 := by
    rw [excessUpTo, charsBefore_succ closes, excess_concat]
    rfl
  constructor
  · rintro ⟨closes, positive, highest⟩
    refine ⟨closes, (depthAfter_eq_zero_iff _).mpr ?_⟩
    rw [upTo closes] at positive highest
    intro front isFront
    rcases List.eq_nil_or_concat front with rfl | ⟨front, c, rfl⟩
    · exact Int.le_of_lt_add_one positive
    · -- a front that is not empty ends with the character of an earlier place
      obtain ⟨between, before⟩ := isFront
      rw [List.concat_append] at before
      obtain ⟨earlier, isEarlier, present, rfl⟩ := exists_place_of_charsBefore closes before.symm
      have lower := highest earlier isEarlier (by rw [present]; rfl)
      rw [excessUpTo, charsBefore_succ present, ← List.concat_eq_append] at lower
      exact Int.le_of_lt_add_one lower
  · rintro ⟨closes, closed⟩
    have highest := (depthAfter_eq_zero_iff _).mp closed
    refine ⟨closes, ?_, ?_⟩
    · rw [upTo closes]
      exact Int.lt_add_one_of_le (highest [] List.nil_prefix)
    · intro earlier isEarlier present
      obtain ⟨c, present⟩ := Option.isSome_iff_exists.mp present
      obtain ⟨between, longer⟩ := exists_charsBefore_of_lt present isEarlier
      rw [upTo closes, excessUpTo, charsBefore_succ present]
      refine Int.lt_add_one_of_le (highest _ ⟨between, ?_⟩)
      rw [longer, List.append_assoc, List.singleton_append]

/-! ## The stack of open braces -/

namespace BraceRegion

/-- The stack after lines numbered from `index` on. -/
def stackAfter (index : Nat) (stack : BraceStack) : List Line → BraceStack
  | [] => stack
  | line :: rest => stackAfter (index + 1) (scan index (.ofLine index line) stack line).2 rest

/-- The stack of the pass over a document at a place. -/
def stackAt (document : List Line) (place : Position) : BraceStack :=
  (scan place.line (.at document place.line) (stackAfter 0 [] (document.take place.line))
    ((document[place.line]?.getD []).take place.character)).2

theorem scan_append (index : Nat) (kind : BlockKind) (stack : BraceStack) (front back : Line) :
    scan index kind stack (front ++ back) =
      ((scan index kind stack front).1 ++ (scan index kind (scan index kind stack front).2 back).1,
        (scan index kind (scan index kind stack front).2 back).2) := by
  induction front generalizing stack with
  | nil => rw [List.nil_append, scan, List.nil_append]
  | cons c front ih =>
    rw [List.cons_append, scan.eq_def, scan.eq_def index kind stack (c :: front)]
    dsimp only
    split
    · exact ih _
    · split
      · cases stack with
        | nil => exact ih _
        | cons opened stack =>
          dsimp only
          rw [ih]
          split <;> rfl
      · exact ih _

theorem startingAt_append (index : Nat) (stack : BraceStack) (above below : List Line) :
    startingAt index stack (above ++ below) =
      startingAt index stack above ++
        startingAt (index + above.length) (stackAfter index stack above) below := by
  induction above generalizing index stack with
  | nil => rfl
  | cons line above ih =>
    have next : index + (line :: above).length = index + 1 + above.length := by
      rw [List.length_cons]
      omega
    rw [List.cons_append, startingAt, startingAt, stackAfter, next, List.append_assoc]
    dsimp only
    rw [ih]

/-- **The pass over a document goes on from the stack at a place.** -/
theorem all_of_cut {document above below : List Line} {front back : Line}
    (cut : document = above ++ (front ++ back) :: below) :
    ∃ found, all document = found ++
      ((scan above.length (.at document above.length)
          (stackAt document ⟨above.length, front.length⟩) back).1 ++
        startingAt (above.length + 1)
          (scan above.length (.at document above.length)
            (stackAt document ⟨above.length, front.length⟩) back).2 below) := by
  have kind : BlockKind.at document above.length = .ofLine above.length (front ++ back) := by
    simp [BlockKind.at, cut]
  have stack : stackAt document ⟨above.length, front.length⟩ =
      (scan above.length (.ofLine above.length (front ++ back)) (stackAfter 0 [] above) front).2 := by
    rw [stackAt, kind]
    simp [cut]
  refine ⟨startingAt 0 [] above ++
    (scan above.length (.ofLine above.length (front ++ back)) (stackAfter 0 [] above) front).1, ?_⟩
  rw [kind, stack, cut, all, startingAt_append, startingAt, Nat.zero_add, scan_append,
    List.append_assoc, ← List.append_assoc (scan _ _ _ _).1]

theorem length_scan (index : Nat) (kind : BlockKind) (stack : BraceStack) (line : Line) :
    (scan index kind stack line).2.length = depthAfter stack.length line := by
  induction line generalizing stack with
  | nil => rfl
  | cons c rest ih =>
    rw [scan.eq_def, depthAfter_cons, depthStep]
    dsimp only
    split
    · exact ih _
    · split
      · cases stack with
        | nil => exact ih _
        | cons opened stack => exact ih stack
      · exact ih _

theorem length_stackAfter (index : Nat) (stack : BraceStack) (above : List Line) :
    (stackAfter index stack above).length = depthAfter stack.length above.flatten := by
  induction above generalizing index stack with
  | nil => rfl
  | cons line above ih =>
    rw [stackAfter, ih, length_scan, List.flatten_cons, depthAfter_append]

/-- **The stack at a place holds the braces that are open there.** -/
theorem length_stackAt (document : List Line) (place : Position) :
    (stackAt document place).length = depthAfter 0 (charsBefore document place) := by
  rw [stackAt, length_scan, length_stackAfter, charsBefore, depthAfter_append, List.length_nil]

end BraceRegion

/-! ## Findings -/

namespace BraceBalance

/-- The place that is reported about a line, and the places reported about those below. -/
def places (index depth : Nat) : List Line → List Position
  | [] => []
  | line :: rest =>
    ((scan 0 depth line).1.map (Position.mk index)).toList ++
      places (index + 1) (scan 0 depth line).2 rest

/-- The finding about a closing brace. -/
def finding (place : Position) : Diagnostic :=
  .ofRule id .warning (.onLine place.line place.character (place.character + 1)) message

theorem findings_eq_map (index depth : Nat) (document : List Line) :
    findings index depth document = (places index depth document).map finding := by
  induction document generalizing index depth with
  | nil => rfl
  | cons line rest ih =>
    rw [findings, places, List.map_append, ← ih]
    dsimp only
    cases (scan 0 depth line).1 <;> rfl

/-- A closing brace at a column of a line, at which nothing is open. -/
def ClosesNothing (depth : Nat) (text : Line) (column : Nat) : Prop :=
  text[column]? = some '}' ∧ depthAfter depth (text.take column) = 0

theorem closesNothing_zero {depth : Nat} {c : Char} {rest : Line} :
    ClosesNothing depth (c :: rest) 0 ↔ c = '}' ∧ depth = 0 := by
  rw [ClosesNothing, List.getElem?_cons_zero, Option.some.injEq]
  rfl

/-- Where the first character is not such a brace, the first one is that of the rest. -/
theorem isLeast_closesNothing_cons {depth : Nat} {c : Char} {rest : Line} {column : Nat}
    (other : ¬ (c = '}' ∧ depth = 0)) :
    IsLeast {column | ClosesNothing depth (c :: rest) column} column ↔
      ∃ shorter, column = shorter + 1 ∧
        IsLeast {column | ClosesNothing (depthStep depth c) rest column} shorter := by
  constructor
  · rintro ⟨closes, least⟩
    cases column with
    | zero => exact absurd (closesNothing_zero.mp closes) other
    | succ shorter =>
      refine ⟨shorter, rfl, closes, fun column here => ?_⟩
      exact Nat.le_of_succ_le_succ (least here)
  · rintro ⟨shorter, rfl, closes, least⟩
    refine ⟨closes, fun column here => ?_⟩
    cases column with
    | zero => exact absurd (closesNothing_zero.mp here) other
    | succ column => exact Nat.succ_le_succ (least here)

/-- **The column that is found is the first one with a closing brace that closes nothing.** -/
theorem scan_fst_eq_some_iff {start depth found : Nat} {line : Line} :
    (scan start depth line).1 = some found ↔
      ∃ column, found = start + column ∧
        IsLeast {column | ClosesNothing depth line column} column := by
  induction line generalizing start depth with
  | nil =>
    constructor
    · intro nothing
      cases nothing
    · rintro ⟨column, -, ⟨closes, -⟩, -⟩
      cases closes
  | cons c rest ih =>
    -- a character that is no such brace is passed over
    have later (other : ¬ (c = '}' ∧ depth = 0)) :
        (scan (start + 1) (depthStep depth c) rest).1 = some found ↔
          ∃ column, found = start + column ∧
            IsLeast {column | ClosesNothing depth (c :: rest) column} column := by
      rw [ih]
      constructor
      · rintro ⟨column, rfl, least⟩
        exact ⟨column + 1, by omega, (isLeast_closesNothing_cons other).mpr ⟨column, rfl, least⟩⟩
      · rintro ⟨column, rfl, least⟩
        obtain ⟨shorter, rfl, first⟩ := (isLeast_closesNothing_cons other).mp least
        exact ⟨shorter, by omega, first⟩
    rw [scan.eq_def]
    dsimp only
    split
    · next opening =>
      rw [← later (by simp [opening]), depthStep, if_pos opening]
    · next notOpening =>
      split
      · next closing =>
        cases depth with
        | zero =>
          have here : IsLeast {column | ClosesNothing 0 (c :: rest) column} 0 :=
            ⟨closesNothing_zero.mpr ⟨closing, rfl⟩, fun column _ => Nat.zero_le column⟩
          constructor
          · intro same
            exact ⟨0, (Option.some.inj same).symm, here⟩
          · rintro ⟨column, rfl, least⟩
            rw [least.unique here]
            rfl
        | succ depth => rw [← later (by simp), depthStep, if_neg notOpening, if_pos closing]; rfl
      · next notClosing =>
        rw [← later (by simp [notClosing]), depthStep, if_neg notOpening, if_neg notClosing]

theorem scan_snd (column depth : Nat) (line : Line) :
    (scan column depth line).2 = depthAfter depth line := by
  induction line generalizing column depth with
  | nil => rfl
  | cons c rest ih =>
    rw [scan.eq_def, depthAfter_cons, depthStep]
    dsimp only
    split
    · exact ih _ _
    · split
      · cases depth with
        | zero => exact ih _ _
        | succ depth => exact ih _ _
      · exact ih _ _

theorem mem_places_iff {index depth : Nat} {document : List Line} {place : Position} :
    place ∈ places index depth document ↔
      ∃ offset line, document[offset]? = some line ∧ place.line = index + offset ∧
        IsLeast {column | ClosesNothing (depthAfter depth (document.take offset).flatten) line column}
          place.character := by
  induction document generalizing index depth with
  | nil =>
    constructor
    · intro member
      cases member
    · rintro ⟨offset, line, present, -⟩
      cases present
  | cons line rest ih =>
    have here : place ∈ ((scan 0 depth line).1.map (Position.mk index)).toList ↔
        place.line = index ∧ IsLeast {column | ClosesNothing depth line column} place.character := by
      obtain ⟨row, column⟩ := place
      rw [Option.mem_toList, Option.map_eq_some_iff]
      constructor
      · rintro ⟨column, found, same⟩
        cases same
        obtain ⟨column', rfl, least⟩ := scan_fst_eq_some_iff.mp found
        rw [Nat.zero_add]
        exact ⟨rfl, least⟩
      · rintro ⟨rfl, least⟩
        exact ⟨column, scan_fst_eq_some_iff.mpr ⟨column, (Nat.zero_add column).symm, least⟩, rfl⟩
    rw [places, List.mem_append, here, scan_snd, ih]
    constructor
    · rintro (⟨same, least⟩ | ⟨offset, line', present, same, least⟩)
      · exact ⟨0, line, rfl, same, least⟩
      · refine ⟨offset + 1, line', present, by omega, ?_⟩
        rw [List.take_succ_cons, List.flatten_cons, depthAfter_append]
        exact least
    · rintro ⟨offset, line', present, same, least⟩
      cases offset with
      | zero =>
        cases present
        exact .inl ⟨same, least⟩
      | succ offset =>
        rw [List.take_succ_cons, List.flatten_cons, depthAfter_append] at least
        exact .inr ⟨offset, line', present, by omega, least⟩

theorem pairwise_places (index depth : Nat) (document : List Line) :
    (places index depth document).Pairwise fun left right => left.line < right.line := by
  induction document generalizing index depth with
  | nil => exact .nil
  | cons line rest ih =>
    refine List.pairwise_append.mpr ⟨?_, ih _ _, ?_⟩
    · cases (scan 0 depth line).1 <;> simp
    · intro left memberLeft right memberRight
      obtain ⟨column, -, rfl⟩ := Option.map_eq_some_iff.mp (Option.mem_toList.mp memberLeft)
      obtain ⟨offset, -, -, same, -⟩ := mem_places_iff.mp memberRight
      show index < right.line
      omega

end BraceBalance

/-! ## What the rule reports -/

/-- The first unmatched brace of a line. -/
def FirstUnmatched (document : List Line) (place : Position) : Prop :=
  IsLeast {column | Unmatched document ⟨place.line, column⟩} place.character

theorem unmatched_iff_closesNothing {document : List Line} {index column : Nat} {line : Line}
    (present : document[index]? = some line) :
    Unmatched document ⟨index, column⟩ ↔
      BraceBalance.ClosesNothing (depthAfter 0 (document.take index).flatten) line column := by
  rw [unmatched_iff_depthAfter, charAt?, charsBefore, present, Option.getD_some, depthAfter_append]
  rfl

theorem BraceBalance.mem_places_iff_firstUnmatched {document : List Line} {place : Position} :
    place ∈ places 0 0 document ↔ FirstUnmatched document place := by
  rw [mem_places_iff, FirstUnmatched]
  constructor
  · rintro ⟨index, line, present, same, least⟩
    rw [Nat.zero_add] at same
    simp only [same, unmatched_iff_closesNothing present]
    exact least
  · intro least
    have unmatched : Unmatched document place := least.1
    obtain ⟨line, present, -⟩ := Option.bind_eq_some_iff.mp unmatched.closes
    simp only [unmatched_iff_closesNothing present] at least
    exact ⟨place.line, line, present, (Nat.zero_add _).symm, least⟩

/-- Nothing is reported if no brace is unmatched. -/
theorem BraceBalance.check_eq_nil_iff {document : List Line} :
    check document = [] ↔ ∀ place, ¬ Unmatched document place := by
  rw [check, findings_eq_map, List.map_eq_nil_iff, List.eq_nil_iff_forall_not_mem]
  simp only [mem_places_iff_firstUnmatched]
  constructor
  · intro none_first place unmatched
    have some_column : {column | Unmatched document ⟨place.line, column⟩}.Nonempty :=
      ⟨place.character, unmatched⟩
    exact none_first ⟨place.line, sInf {column | Unmatched document ⟨place.line, column⟩}⟩
      ⟨Nat.sInf_mem some_column, fun column here => Nat.sInf_le here⟩
  · intro none_unmatched place first
    exact none_unmatched place first.1

/-- **No brace is unmatched if no part from the start on closes more braces than it opens.** -/
theorem forall_not_unmatched_iff {document : List Line} :
    (∀ place, ¬ Unmatched document place) ↔
      ∀ front, front <+: document.flatten → excess front ≤ 0 := by
  constructor
  · intro matched front isFront
    -- the number of open braces is never kept at zero
    have balanced : excess front + depthAfter 0 front = 0 := by
      induction front using List.reverseRecOn with
      | nil => rfl
      | append_singleton front c ih =>
        have shorter : front <+: document.flatten := (List.prefix_append front [c]).trans isFront
        rw [excess_add_depthAfter_concat, if_neg, ih shorter]
        rintro ⟨rfl, closed⟩
        obtain ⟨back, whole⟩ := isFront
        rw [List.append_assoc, List.singleton_append] at whole
        obtain ⟨place, closes, rfl⟩ := exists_place_of_flatten whole.symm
        exact matched place (unmatched_iff_depthAfter.mpr ⟨closes, closed⟩)
    omega
  · intro bounded place unmatched
    have positive := unmatched.positive
    have bound := bounded _ (charsBefore_isPrefix document ⟨place.line, place.character + 1⟩)
    exact absurd positive (not_lt.mpr bound)

/-- Where lines end does not matter for the braces. -/
theorem filter_isBrace_splitLines (text : List Char) :
    (splitLines text).flatten.filter isBrace = text.filter isBrace := by
  induction text using line_induction with
  | single line noFeed =>
    rw [splitLines_of_no_feed noFeed]
    split
    · next empty =>
      rw [empty]
      rfl
    · rw [List.flatten_singleton]
  | more front rest noFeed ih =>
    have dropped : (dropReturn front).filter isBrace = front.filter isBrace := by
      rcases eq_dropReturn_or front with same | longer
      · rw [← same]
      · rw [longer, dropReturn_concat_return, List.filter_append]
        exact (List.append_nil _).symm
    rw [splitLines_append_feed noFeed, List.flatten_cons, List.filter_append, dropped, ih,
      List.filter_append, List.filter_cons_of_neg (by decide)]

/-- Bounds of the excess are a matter of the braces alone. -/
theorem forall_prefix_excess_iff (text : List Char) :
    (∀ front, front <+: text → excess front ≤ 0) ↔
      ∀ front, front <+: text.filter isBrace → excess front ≤ 0 := by
  constructor
  · intro bounded front isFront
    obtain ⟨longer, isLonger, rfl⟩ := List.prefix_filter_iff.mp isFront
    rw [excess_filter_isBrace]
    exact bounded longer isLonger
  · intro bounded front isFront
    rw [← excess_filter_isBrace]
    exact bounded _ (isFront.filter isBrace)

/-- **The rule about braces reports the first unmatched brace of each line that has one**, in the
order of the lines.  It reports nothing exactly if no part of the text from its start on closes more
braces than it opens.  A closing brace is unmatched exactly if the pass that pairs up braces finds
its stack empty there. -/
theorem brace_findings_are_unmatched_closers (text : String) :
    (∃ places : List Position,
        BraceBalance.check (lines text) = places.map BraceBalance.finding ∧
          places.Pairwise (fun left right => left.line < right.line) ∧
          ∀ place, place ∈ places ↔ FirstUnmatched (lines text) place) ∧
      (BraceBalance.check (lines text) = [] ↔
        ∀ count, (text.toList.take count).count '}' ≤ (text.toList.take count).count '{') ∧
      ∀ place, Unmatched (lines text) place ↔
        charAt? (lines text) place = some '}' ∧ BraceRegion.stackAt (lines text) place = [] := by
  refine ⟨?_, ?_, ?_⟩
  · exact ⟨BraceBalance.places 0 0 (lines text), BraceBalance.findings_eq_map 0 0 _,
      BraceBalance.pairwise_places 0 0 _, fun place => BraceBalance.mem_places_iff_firstUnmatched⟩
  · rw [BraceBalance.check_eq_nil_iff, forall_not_unmatched_iff, forall_prefix_excess_iff, lines,
      filter_isBrace_splitLines, ← forall_prefix_excess_iff]
    constructor
    · intro bounded count
      have bound := bounded _ (List.take_prefix count text.toList)
      rw [excess] at bound
      omega
    · intro bounded front isFront
      have bound := bounded front.length
      rw [← List.prefix_iff_eq_take.mp isFront] at bound
      rw [excess]
      omega
  · intro place
    rw [unmatched_iff_depthAfter, ← BraceRegion.length_stackAt, List.length_eq_zero_iff]

end KotlinAssist
