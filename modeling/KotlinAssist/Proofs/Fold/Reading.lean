import KotlinAssist.Fold
import KotlinAssist.Proofs.Highlight.Comments

/-!
# Reading comments from line to line

A reading of comments says of each line which comment is open behind it, given the one that is open
before.  It finds the comments of a document that are closed on a later line than the one they are
opened on.  A comment that is open shows among those that are found as soon as a closing mark
follows; so two readings that find the same comments have agreed on every line up to the last
closing mark, and those that have agreed find the same.

## Main definitions

* `CommentReading` — which comment is open behind a line
* `CommentReading.regions` — the comments on several lines that a reading finds

## Main statements

* `CommentReading.opened_of_mem_regions` — where a comment that is found was opened
* `CommentReading.opened_of_regions_eq` — the comments that are found show what was open before
* `CommentReading.regions_eq_iff` — two readings find the same exactly if they agree on each line
  that a closing mark follows
-/

namespace KotlinAssist

open Text

/-- What a reading of comments has open after a line, if it knows what is open before. -/
abbrev CommentReading := OpenComment → Line → OpenComment

namespace CommentReading

/-- A comment stays open as long as no closing mark comes. -/
def Keeps (reading : CommentReading) : Prop :=
  ∀ documentation line, occursIn "*/".toList line = false →
    reading (some documentation) line = some documentation

/-- The open comment that a line closes. -/
def closing (index : Nat) (opened : Option (Nat × Bool)) (line : Line) : List CommentRegion :=
  if occursIn "*/".toList line then
    (opened.map fun (first, documentation) => ⟨⟨first, index⟩, documentation⟩).toList
  else []

/-- The comment that is open after a line: the one before it, until it is closed, or else the one
that the line leaves open. -/
def next (reading : CommentReading) (index : Nat) (opened : Option (Nat × Bool)) (line : Line) :
    Option (Nat × Bool) :=
  if opened.isSome && !occursIn "*/".toList line then opened
  else (reading (opened.map Prod.snd) line).map (index, ·)

/-- The comments that are closed on lines numbered from `index` on. -/
def regions (reading : CommentReading) (index : Nat) (opened : Option (Nat × Bool)) :
    List Line → List CommentRegion
  | [] => []
  | line :: rest =>
    closing index opened line ++ reading.regions (index + 1) (reading.next index opened line) rest

variable {reading other : CommentReading}

/-- The flag of the comment that is open is what the reading says. -/
theorem flag_next (keeps : reading.Keeps) (index : Nat) (opened : Option (Nat × Bool))
    (line : Line) :
    (reading.next index opened line).map Prod.snd = reading (opened.map Prod.snd) line := by
  unfold next
  split
  · next goes_on =>
    rw [Bool.and_eq_true, Bool.not_eq_true'] at goes_on
    obtain ⟨pair, rfl⟩ := Option.isSome_iff_exists.mp goes_on.1
    exact (keeps pair.2 line goes_on.2).symm
  · rw [Option.map_map]
    exact Option.map_id'

theorem next_congr {index : Nat} {opened : Option (Nat × Bool)} {line : Line}
    (same : reading (opened.map Prod.snd) line = other (opened.map Prod.snd) line) :
    reading.next index opened line = other.next index opened line := by
  rw [next, next, same]

theorem lt_of_mem_next {index : Nat} {opened : Option (Nat × Bool)} {line : Line}
    (earlier : ∀ pair ∈ opened, pair.1 < index) :
    ∀ pair ∈ reading.next index opened line, pair.1 < index + 1 := by
  intro pair member
  unfold next at member
  split at member
  · exact Nat.lt_succ_of_lt (earlier pair member)
  · obtain ⟨_, -, rfl⟩ := Option.map_eq_some_iff.mp member
    exact Nat.lt_succ_self index

/-- A comment that is found was open before, or is opened on one of the lines. -/
theorem opened_of_mem_regions {index : Nat} {opened : Option (Nat × Bool)} {lines : List Line}
    {region : CommentRegion} (member : region ∈ reading.regions index opened lines) :
    opened = some (region.span.first, region.documentation) ∨ index ≤ region.span.first := by
  induction lines generalizing index opened with
  | nil => cases member
  | cons line rest ih =>
    rcases List.mem_append.mp member with closed | later
    · left
      unfold closing at closed
      split at closed
      · obtain ⟨pair, rfl, rfl⟩ := Option.map_eq_some_iff.mp (Option.mem_toList.mp closed)
        rfl
      · cases closed
    · rcases ih later with kept | below
      · unfold next at kept
        split at kept
        · exact .inl kept
        · obtain ⟨_, -, same⟩ := Option.map_eq_some_iff.mp kept
          cases same
          exact .inr (Nat.le_refl _)
      · exact .inr (Nat.le_of_succ_le below)

/-- The comment that is open is the first that is found, if a closing mark follows. -/
theorem head?_regions (reading : CommentReading) {lines : List Line}
    (closed : ∃ line ∈ lines, "*/".toList <:+: line) (index : Nat) (pair : Nat × Bool) :
    ∃ region ∈ (reading.regions index (some pair) lines).head?,
      pair = (region.span.first, region.documentation) := by
  induction lines generalizing index with
  | nil => simp at closed
  | cons line rest ih =>
    rw [List.exists_mem_cons_iff, ← CommentSpan.occursIn_closing_iff] at closed
    by_cases here : occursIn "*/".toList line = true
    · refine ⟨⟨⟨pair.1, index⟩, pair.2⟩, ?_, rfl⟩
      rw [regions, closing, if_pos here]
      rfl
    · -- the comment stays open up to the line with the mark
      have later := closed.resolve_left here
      have stays : reading.next index (some pair) line = some pair := by
        rw [next, if_pos (by simpa using here)]
      rw [regions, closing, if_neg here, stays]
      exact ih later (index + 1)

/-- Nothing is found where no closing mark stands. -/
theorem regions_eq_nil {lines : List Line} (unclosed : ¬ ∃ line ∈ lines, "*/".toList <:+: line)
    (index : Nat) (opened : Option (Nat × Bool)) : reading.regions index opened lines = [] := by
  induction lines generalizing index opened with
  | nil => rfl
  | cons line rest ih =>
    rw [List.exists_mem_cons_iff, not_or, ← CommentSpan.occursIn_closing_iff] at unclosed
    rw [regions, closing, if_neg unclosed.1, ih unclosed.2]
    rfl

/-- The comments that are found show what was open before, if a closing mark follows. -/
theorem opened_of_regions_eq {lines : List Line}
    (closed : ∃ line ∈ lines, "*/".toList <:+: line) {index : Nat} {pair : Nat × Bool}
    {opened : Option (Nat × Bool)} (earlier : pair.1 < index)
    (same : reading.regions index (some pair) lines = other.regions index opened lines) :
    opened = some pair := by
  obtain ⟨region, isFirst, rfl⟩ := head?_regions reading closed index pair
  rw [same] at isFirst
  rcases opened_of_mem_regions (List.mem_of_mem_head? isFirst) with found | below
  · exact found
  · exact absurd earlier (Nat.not_lt.mpr below)

theorem opened_eq_of_regions_eq {lines : List Line}
    (closed : ∃ line ∈ lines, "*/".toList <:+: line) {index : Nat}
    {opened opened' : Option (Nat × Bool)} (earlier : ∀ pair ∈ opened, pair.1 < index)
    (earlier' : ∀ pair ∈ opened', pair.1 < index)
    (same : reading.regions index opened lines = other.regions index opened' lines) :
    opened = opened' := by
  cases opened with
  | some pair => exact (opened_of_regions_eq closed (earlier pair rfl) same).symm
  | none =>
    cases opened' with
    | none => rfl
    | some pair => exact opened_of_regions_eq closed (earlier' pair rfl) same.symm

/-- Two readings find the same behind a line exactly if the line leaves the same comment open for
both and they find the same from there on, as far as a closing mark follows. -/
theorem regions_cons_eq_iff (keeps : reading.Keeps) (keeps' : other.Keeps) {index : Nat}
    {opened : Option (Nat × Bool)} (earlier : ∀ pair ∈ opened, pair.1 < index)
    (line : Line) {rest : List Line} (closed : ∃ later ∈ rest, "*/".toList <:+: later) :
    reading.regions index opened (line :: rest) = other.regions index opened (line :: rest) ↔
      reading (opened.map Prod.snd) line = other (opened.map Prod.snd) line ∧
        reading.regions (index + 1) (other.next index opened line) rest =
          other.regions (index + 1) (other.next index opened line) rest := by
  rw [regions, regions, List.append_right_inj]
  constructor
  · intro same
    -- what was left open shows among the comments that are found behind the line
    have next_eq : reading.next index opened line = other.next index opened line :=
      opened_eq_of_regions_eq closed (lt_of_mem_next earlier) (lt_of_mem_next earlier) same
    refine ⟨?_, ?_⟩
    · rw [← flag_next keeps index, ← flag_next keeps' index, next_eq]
    · rw [next_eq] at same
      exact same
  · rintro ⟨leaves, same⟩
    rw [next_congr leaves]
    exact same

/-- A document is cut at its first line, or where the rest is cut. -/
theorem forall_cuts_cons {first : Line} {rest : List Line}
    {Holds : List Line → Line → List Line → Prop} :
    (∀ above line below, first :: rest = above ++ line :: below → Holds above line below) ↔
      Holds [] first rest ∧
        ∀ above line below, rest = above ++ line :: below → Holds (first :: above) line below := by
  constructor
  · intro everywhere
    refine ⟨everywhere [] first rest rfl, ?_⟩
    rintro above line below rfl
    exact everywhere (first :: above) line below rfl
  · rintro ⟨here, later⟩ above line below cut
    cases above with
    | nil =>
      cases cut
      exact here
    | cons _ above =>
      cases cut
      exact later above line below rfl

/-- **Two readings find the same comments exactly if each line leaves the same comment open for
both**, as far as a closing mark follows. -/
theorem regions_eq_iff (keeps : reading.Keeps) (keeps' : other.Keeps) {index : Nat}
    {opened : Option (Nat × Bool)} (earlier : ∀ pair ∈ opened, pair.1 < index)
    (lines : List Line) :
    reading.regions index opened lines = other.regions index opened lines ↔
      ∀ above line below, lines = above ++ line :: below →
        (∃ later ∈ below, "*/".toList <:+: later) →
          reading (above.foldl other (opened.map Prod.snd)) line =
            other (above.foldl other (opened.map Prod.snd)) line := by
  -- both readings have the same comment open at each line up to which they agree
  induction lines generalizing index opened with
  | nil => exact iff_of_true rfl (by simp)
  | cons first rest ih =>
    rw [forall_cuts_cons]
    by_cases closed : ∃ later ∈ rest, "*/".toList <:+: later
    · rw [regions_cons_eq_iff keeps keeps' earlier first closed, ih (lt_of_mem_next earlier),
        flag_next keeps']
      exact and_congr_left' (imp_iff_right closed).symm
    · -- no closing mark follows the first line, nor any other
      refine iff_of_true ?_ ⟨fun follows => absurd follows closed, ?_⟩
      · rw [regions, regions, regions_eq_nil closed, regions_eq_nil closed]
      · rintro above line below rfl ⟨later, member, marked⟩
        have among := List.mem_append_right above (List.mem_cons_of_mem line member)
        exact absurd ⟨later, among, marked⟩ closed

end CommentReading

end KotlinAssist
