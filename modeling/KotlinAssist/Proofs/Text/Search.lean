import KotlinAssist.Text.Span
import Mathlib.Data.List.Pairwise
import Mathlib.Data.List.Sort

/-!
# What a search finds

A search reads a line once from the left and never looks back.  Three facts say all about its
result: every span found was recognised at its start, the spans are in order and do not overlap, and
wherever something is recognised the search has found it or is inside of a span found before.

## Main definitions

* `LeftToRight` — the places of a fixed text, from left to right and without overlap

## Main statements

* `exists_of_mem_matchesFrom` — what is found was recognised
* `pairwise_matchesFrom` — the spans are in order and disjoint
* `exists_covering_matchesFrom` — what is recognised is found or covered
* `exists_of_mem_occurrences`, `exists_covering_occurrences` — the same for a fixed text
* `leftToRight_occurrences`, `LeftToRight.unique` — these facts determine what is found
* `occursIn_iff` — whether a fixed text is found at all
* `occurrences_append`, `cutAt?_append` — characters that a fixed text does not have
-/

namespace KotlinAssist.Text

variable {recognise : Recogniser}

/-- The character before a place, when one more character has been read. -/
theorem getLast?_cons_or (c : Char) (front : List Char) (before : Option Char) :
    (c :: front).getLast?.or before = front.getLast?.or (some c) := by
  cases front with
  | nil => rfl
  | cons d front => simp [List.getLast?_eq_some_getLast]

/-- Every span found was recognised at its start: the text is cut there into what comes before and
what the recogniser saw.  No span starts among the characters to be skipped. -/
theorem exists_of_mem_matchesFrom {column skip : Nat} {before : Option Char} {text : List Char}
    {span : Span} (found : span ∈ matchesFrom recognise column skip before text) :
    ∃ front back length, text = front ++ back ∧ back ≠ [] ∧ skip ≤ front.length ∧
      recognise (front.getLast?.or before) back = some length ∧
      span = ⟨column + front.length, column + front.length + length⟩ := by
  induction text generalizing column skip before with
  | nil => simp [matchesFrom] at found
  | cons c rest ih =>
    -- a span found later is found in the rest, one column on
    have later {skip' : Nat} (skipped : skip ≤ skip' + 1)
        (found : span ∈ matchesFrom recognise (column + 1) skip' (some c) rest) :
        ∃ front back length, c :: rest = front ++ back ∧ back ≠ [] ∧ skip ≤ front.length ∧
          recognise (front.getLast?.or before) back = some length ∧
          span = ⟨column + front.length, column + front.length + length⟩ := by
      obtain ⟨front, back, length, cut, some_left, after, accepted, placed⟩ := ih found
      refine ⟨c :: front, back, length, by rw [cut, List.cons_append], some_left, ?_, ?_, ?_⟩
      · rw [List.length_cons]
        omega
      · rw [getLast?_cons_or, accepted]
      · rw [placed, List.length_cons]
        congr 1 <;> omega
    cases skip with
    | succ skip =>
      rw [matchesFrom] at found
      exact later (Nat.le_refl _) found
    | zero =>
      rw [matchesFrom] at found
      split at found
      · next length accepted =>
        rcases List.mem_cons.mp found with rfl | found
        · exact ⟨[], c :: rest, length, rfl, List.cons_ne_nil c rest, Nat.le_refl _, accepted, rfl⟩
        · exact later (Nat.zero_le _) found
      · exact later (Nat.zero_le _) found

/-- The characters of a span that was found are those that were recognised. -/
theorem slice_of_mem_matchesOf {line : List Char} {span : Span}
    (found : span ∈ matchesOf recognise line) :
    ∃ before text length, recognise before text = some length ∧
      span.slice line = text.take length := by
  obtain ⟨front, back, length, rfl, -, -, accepted, rfl⟩ := exists_of_mem_matchesFrom found
  refine ⟨_, back, length, accepted, ?_⟩
  rw [Span.slice, Nat.add_sub_cancel_left, Nat.zero_add, List.drop_left]

/-- A search finds spans in order, each starting where the one before has ended or later. -/
theorem pairwise_matchesFrom (recognise : Recogniser) (column skip : Nat) (before : Option Char)
    (text : List Char) :
    (matchesFrom recognise column skip before text).Pairwise fun left right =>
      left.stop ≤ right.start ∧ left.start < right.start := by
  induction text generalizing column skip before with
  | nil => simp [matchesFrom]
  | cons c rest ih =>
    cases skip with
    | succ skip =>
      rw [matchesFrom]
      exact ih (column + 1) skip (some c)
    | zero =>
      rw [matchesFrom]
      split
      · next length accepted =>
        refine List.pairwise_cons.mpr ⟨?_, ih (column + 1) (length - 1) (some c)⟩
        intro span found
        obtain ⟨front, _, _, _, _, skipped, _, rfl⟩ := exists_of_mem_matchesFrom found
        constructor
        · change column + length ≤ column + 1 + front.length
          omega
        · change column < column + 1 + front.length
          omega
      · exact ih (column + 1) 0 (some c)

/-- Where something is recognised, a span is found that starts there or covers the place. -/
theorem exists_covering_matchesFrom (column : Nat) {skip length : Nat} {before : Option Char}
    {front back : List Char} (some_left : back ≠ []) (after : skip ≤ front.length)
    (accepted : recognise (front.getLast?.or before) back = some length) :
    ∃ span ∈ matchesFrom recognise column skip before (front ++ back),
      span = ⟨column + front.length, column + front.length + length⟩ ∨
        span.start < column + front.length ∧ column + front.length < span.stop := by
  induction front generalizing column skip before with
  | nil =>
    obtain ⟨c, rest, rfl⟩ := List.exists_cons_of_ne_nil some_left
    obtain rfl : skip = 0 := Nat.le_zero.mp after
    rw [List.nil_append, matchesFrom]
    change recognise before (c :: rest) = some length at accepted
    rw [accepted]
    exact ⟨_, List.mem_cons_self, .inl rfl⟩
  | cons c front ih =>
    rw [getLast?_cons_or] at accepted
    -- what the search does after this character, with the place one column nearer
    have later {skip' : Nat} (within : skip' ≤ front.length) :
        ∃ span ∈ matchesFrom recognise (column + 1) skip' (some c) (front ++ back),
          span = ⟨column + (c :: front).length, column + (c :: front).length + length⟩ ∨
            span.start < column + (c :: front).length ∧
              column + (c :: front).length < span.stop := by
      obtain ⟨span, found, place⟩ := ih (column + 1) within accepted
      refine ⟨span, found, ?_⟩
      rw [List.length_cons, show column + (front.length + 1) = column + 1 + front.length by omega]
      exact place
    cases skip with
    | succ skip =>
      rw [List.cons_append, matchesFrom]
      exact later (Nat.le_of_succ_le_succ after)
    | zero =>
      rw [List.cons_append, matchesFrom]
      split
      · next taken _ =>
        by_cases covered : front.length + 1 < taken
        · refine ⟨_, List.mem_cons_self, .inr ⟨?_, ?_⟩⟩
          · change column < column + (front.length + 1)
            omega
          · change column + (front.length + 1) < column + taken
            omega
        · have within : taken - 1 ≤ front.length := by omega
          obtain ⟨span, found, place⟩ := later within
          exact ⟨span, List.mem_cons_of_mem _ found, place⟩
      · exact later (Nat.zero_le _)

/-- Characters that belong to the span found last are passed over. -/
theorem matchesFrom_skip (recognise : Recogniser) (column skip : Nat) (before : Option Char)
    (text : List Char) :
    matchesFrom recognise column skip before text =
      matchesFrom recognise (column + skip) 0 ((text.take skip).getLast?.or before)
        (text.drop skip) := by
  induction text generalizing column skip before with
  | nil =>
    rw [List.drop_nil]
    rfl
  | cons c rest ih =>
    cases skip with
    | zero => rfl
    | succ skip =>
      rw [matchesFrom, ih, List.take_succ_cons, List.drop_succ_cons, getLast?_cons_or,
        Nat.add_assoc, Nat.add_comm 1]

/-! ## Fixed texts -/

theorem fixedText_eq_some_iff {needle text : List Char} {before : Option Char} {length : Nat} :
    fixedText needle before text = some length ↔
      length = needle.length ∧ ∃ rest, text = needle ++ rest := by
  unfold fixedText
  split
  · next isFront =>
    rw [List.isPrefixOf_iff_prefix] at isFront
    obtain ⟨rest, whole⟩ := isFront
    constructor
    · rintro ⟨⟩
      exact ⟨rfl, rest, whole.symm⟩
    · rintro ⟨rfl, -⟩
      rfl
  · next notFront =>
    rw [List.isPrefixOf_iff_prefix] at notFront
    constructor
    · rintro ⟨⟩
    · rintro ⟨-, rest, whole⟩
      exact absurd ⟨rest, whole.symm⟩ notFront

/-- An occurrence cuts the line into what comes before, the text that was looked for, and the
rest. -/
theorem exists_of_mem_occurrences {needle line : List Char} {span : Span}
    (found : span ∈ occurrences needle line) :
    ∃ front back, line = front ++ needle ++ back ∧
      span = ⟨front.length, front.length + needle.length⟩ := by
  unfold occurrences at found
  split at found
  · simp at found
  · obtain ⟨front, _, length, rfl, -, -, accepted, rfl⟩ := exists_of_mem_matchesFrom found
    obtain ⟨rfl, back, rfl⟩ := fixedText_eq_some_iff.mp accepted
    exact ⟨front, back, by rw [List.append_assoc], by simp⟩

theorem pairwise_occurrences (needle line : List Char) :
    (occurrences needle line).Pairwise fun left right =>
      left.stop ≤ right.start ∧ left.start < right.start := by
  unfold occurrences
  split
  · exact .nil
  · exact pairwise_matchesFrom _ _ _ _ _

/-- Where a text stands, an occurrence is found that starts there or covers the place. -/
theorem exists_covering_occurrences {needle : List Char} (nonempty : needle ≠ [])
    (front back : List Char) :
    ∃ span ∈ occurrences needle (front ++ needle ++ back),
      span = ⟨front.length, front.length + needle.length⟩ ∨
        span.start < front.length ∧ front.length < span.stop := by
  have some_left : needle ++ back ≠ [] := by simp [nonempty]
  have accepted : fixedText needle (front.getLast?.or none) (needle ++ back) =
      some needle.length := fixedText_eq_some_iff.mpr ⟨rfl, back, rfl⟩
  have covering := exists_covering_matchesFrom 0 some_left (Nat.zero_le _) accepted
  have filled : ¬ needle.isEmpty = true := by simpa using nonempty
  rw [occurrences, if_neg filled, List.append_assoc, matchesOf]
  simpa only [Nat.zero_add] using covering

/-! ## Places of a fixed text -/

/-- The places of a text that are found from left to right without overlap: the text stands at each
of them, none starts before the one before it has ended, and wherever the text stands one of them
starts or reaches over the place. -/
structure LeftToRight (needle line : List Char) (spans : List Span) : Prop where
  stands : ∀ span ∈ spans, ∃ front back, line = front ++ needle ++ back ∧
    span = ⟨front.length, front.length + needle.length⟩
  apart : spans.Pairwise fun left right => left.stop ≤ right.start
  covering : ∀ front back, line = front ++ needle ++ back →
    ∃ span ∈ spans, span.start ≤ front.length ∧ front.length < span.stop

theorem leftToRight_occurrences {needle : List Char} (nonempty : needle ≠ []) (line : List Char) :
    LeftToRight needle line (occurrences needle line) where
  stands := fun _ found => exists_of_mem_occurrences found
  apart := (pairwise_occurrences needle line).imp And.left
  covering := by
    rintro front back rfl
    obtain ⟨span, found, rfl | ⟨before, after⟩⟩ := exists_covering_occurrences nonempty front back
    · exact ⟨_, found, Nat.le_refl _, Nat.lt_add_of_pos_right (List.length_pos_of_ne_nil nonempty)⟩
    · exact ⟨span, found, Nat.le_of_lt before, after⟩

namespace LeftToRight

variable {needle line : List Char} {spans spans' : List Span} (nonempty : needle ≠ [])

include nonempty

theorem start_lt_stop (found : LeftToRight needle line spans) {span : Span}
    (member : span ∈ spans) : span.start < span.stop := by
  obtain ⟨front, back, -, rfl⟩ := found.stands span member
  exact Nat.lt_add_of_pos_right (List.length_pos_of_ne_nil nonempty)

theorem pairwise_start (found : LeftToRight needle line spans) :
    spans.Pairwise fun left right => left.start < right.start := by
  refine found.apart.imp_of_mem ?_
  intro left right memberLeft _ apart
  exact Nat.lt_of_lt_of_le (found.start_lt_stop nonempty memberLeft) apart

/-- No place starts inside of one that starts before it. -/
theorem not_inside (found : LeftToRight needle line spans) {left right : Span}
    (memberLeft : left ∈ spans) (memberRight : right ∈ spans) (before : left.start < right.start) :
    left.stop ≤ right.start := by
  have differ : left ≠ right := by
    rintro rfl
    exact Nat.lt_irrefl _ before
  have symm : Std.Symm fun left right : Span =>
      left.stop ≤ right.start ∨ right.stop ≤ left.start := ⟨fun _ _ => Or.symm⟩
  have either : spans.Pairwise fun left right =>
      left.stop ≤ right.start ∨ right.stop ≤ left.start := found.apart.imp Or.inl
  have nonempty_right := found.start_lt_stop nonempty memberRight
  have apart := either.forall memberLeft memberRight differ
  omega

/-- A place of one search is one of the other, if the places before it are. -/
theorem mem_of_mem (found : LeftToRight needle line spans) (found' : LeftToRight needle line spans')
    {span : Span} (member : span ∈ spans)
    (earlier : ∀ other ∈ spans', other.start < span.start → other ∈ spans) : span ∈ spans' := by
  obtain ⟨front, back, whole, rfl⟩ := found.stands span member
  obtain ⟨other, member', start, inside⟩ := found'.covering front back whole
  rcases Nat.lt_or_eq_of_le start with before | same
  · have apart := found.not_inside nonempty (earlier other member' before) member before
    exact absurd inside (Nat.not_lt.mpr apart)
  · obtain ⟨front', back', -, rfl⟩ := found'.stands other member'
    change front'.length = front.length at same
    rwa [same] at member'

/-- **What is found from left to right is determined**: two searches find the same places. -/
theorem unique (found : LeftToRight needle line spans) (found' : LeftToRight needle line spans') :
    spans = spans' := by
  have same (start : Nat) : ∀ span : Span, span.start = start → (span ∈ spans ↔ span ∈ spans') := by
    induction start using Nat.strongRecOn with
    | ind start ih =>
      rintro span rfl
      constructor
      · intro member
        refine found.mem_of_mem nonempty found' member ?_
        intro other member' before
        exact (ih other.start before other rfl).mpr member'
      · intro member
        refine found'.mem_of_mem nonempty found member ?_
        intro other member' before
        exact (ih other.start before other rfl).mp member'
  have irrefl : Std.Irrefl fun left right : Span => left.start < right.start :=
    ⟨fun span => Nat.lt_irrefl span.start⟩
  have antisymm : Std.Antisymm fun left right : Span => left.start < right.start :=
    ⟨fun _ _ before after => absurd before (Nat.lt_asymm after)⟩
  exact (found.pairwise_start nonempty).eq_of_mem_iff (found'.pairwise_start nonempty)
    fun span => same span.start span rfl

end LeftToRight

/-! ## The first place of a fixed text -/

/-- Cutting goes on behind characters at which the text that is looked for does not start. -/
theorem cutAt?_cons_of_not_prefix {needle rest : List Char} {c : Char}
    (elsewhere : ¬ needle <+: c :: rest) :
    cutAt? needle (c :: rest) = (cutAt? needle rest).map fun cut => (c :: cut.1, cut.2) := by
  have nothing : stripFront? needle (c :: rest) = none := by
    cases stripped : stripFront? needle (c :: rest) with
    | none => rfl
    | some after => exact absurd ⟨after, (stripFront?_eq_some_iff.mp stripped).symm⟩ elsewhere
  rw [cutAt?, nothing]

/-- A text is cut where the text that is looked for stands, if it is not empty. -/
theorem cutAt?_of_prefix {needle : List Char} (nonempty : needle ≠ []) (after : List Char) :
    cutAt? needle (needle ++ after) = some ([], after) := by
  obtain ⟨d, needle, rfl⟩ := List.exists_cons_of_ne_nil nonempty
  rw [List.cons_append, cutAt?, ← List.cons_append, stripFront?_eq_some_iff.mpr rfl]

/-- A text is cut where the text that is looked for stands first: what follows it anywhere else is
left behind the cut. -/
theorem suffix_of_cutAt? {needle front back before after : List Char} (nonempty : needle ≠ [])
    (cut : cutAt? needle (front ++ needle ++ back) = some (before, after)) : back <:+ after := by
  induction front generalizing before with
  | nil =>
    rw [List.nil_append, cutAt?_of_prefix nonempty] at cut
    cases cut
    exact List.suffix_refl back
  | cons c front ih =>
    by_cases here : needle <+: c :: (front ++ needle ++ back)
    · obtain ⟨rest, whole⟩ := here
      rw [List.cons_append, List.cons_append, ← whole, cutAt?_of_prefix nonempty] at cut
      cases cut
      have shorter : back.length ≤ after.length := by
        have same := congrArg List.length whole
        simp only [List.length_append, List.length_cons] at same
        omega
      have inside : back <:+ needle ++ after := by
        rw [whole]
        exact List.suffix_append (c :: (front ++ needle)) back
      exact List.suffix_of_suffix_length_le inside (List.suffix_append needle after) shorter
    · rw [List.cons_append, List.cons_append, cutAt?_cons_of_not_prefix here] at cut
      obtain ⟨later, found, same⟩ := Option.map_eq_some_iff.mp cut
      cases same
      exact ih found

/-- A text occurs in another exactly if it stands somewhere in it. -/
theorem occursIn_iff {needle : List Char} (nonempty : needle ≠ []) (text : List Char) :
    occursIn needle text = true ↔ needle <:+: text := by
  rw [occursIn, Option.isSome_iff_exists]
  constructor
  · rintro ⟨⟨front, back⟩, cut⟩
    exact ⟨front, back, (append_of_cutAt? cut).symm⟩
  · rintro ⟨front, back, rfl⟩
    induction front with
    | nil => exact ⟨_, cutAt?_of_prefix nonempty back⟩
    | cons c front ih =>
      by_cases here : needle <+: c :: (front ++ needle ++ back)
      · obtain ⟨after, whole⟩ := here
        rw [List.cons_append, List.cons_append, ← whole]
        exact ⟨_, cutAt?_of_prefix nonempty after⟩
      · obtain ⟨cut, found⟩ := ih
        rw [List.cons_append, List.cons_append, cutAt?_cons_of_not_prefix here, found]
        exact ⟨_, rfl⟩

/-! ## Characters that a fixed text does not have -/

section Tail

variable {needle tail : List Char} (apart : ∀ c ∈ tail, c ∉ needle)

include apart

/-- Whether a text starts with another is not decided by characters behind it that the other does
not have. -/
theorem stripFront?_append (text : List Char) :
    stripFront? needle (text ++ tail) = (stripFront? needle text).map (· ++ tail) := by
  induction needle generalizing text with
  | nil => rfl
  | cons d needle ih =>
    have apart' : ∀ c ∈ tail, c ∉ needle := by
      intro c member inside
      exact apart c member (List.mem_cons_of_mem d inside)
    cases text with
    | nil =>
      cases tail with
      | nil => rfl
      | cons c tail =>
        have differ : d ≠ c := by
          rintro rfl
          exact apart d List.mem_cons_self List.mem_cons_self
        show (if d = c then stripFront? needle tail else none) = none
        rw [if_neg differ]
    | cons c text =>
      rw [List.cons_append, stripFront?, stripFront?]
      split
      · exact ih apart' text
      · rfl

theorem fixedText_append (before : Option Char) (text : List Char) :
    fixedText needle before (text ++ tail) = fixedText needle before text := by
  have starts : needle <+: text ++ tail ↔ needle <+: text := by
    constructor
    · rintro ⟨rest, whole⟩
      have stripped := stripFront?_append apart text
      rw [stripFront?_eq_some_iff.mpr whole.symm] at stripped
      obtain ⟨rest', found, -⟩ := Option.map_eq_some_iff.mp stripped.symm
      exact ⟨rest', (stripFront?_eq_some_iff.mp found).symm⟩
    · intro front
      exact front.trans (List.prefix_append text tail)
  simp only [fixedText, List.isPrefixOf_iff_prefix, starts]

variable (nonempty : needle ≠ [])

include nonempty

/-- Nothing is cut out of characters that a text does not have. -/
theorem cutAt?_append (text : List Char) :
    cutAt? needle (text ++ tail) =
      (cutAt? needle text).map fun cut => (cut.1, cut.2 ++ tail) := by
  have missing : stripFront? needle [] = none := by
    obtain ⟨d, needle, rfl⟩ := List.exists_cons_of_ne_nil nonempty
    rfl
  induction text with
  | nil =>
    have outside : ∀ rest : List Char, (∀ c ∈ rest, c ∉ needle) → cutAt? needle rest = none := by
      intro rest
      induction rest with
      | nil =>
        intro _
        rw [cutAt?, if_neg (by simpa using nonempty)]
      | cons c rest ih =>
        intro apart
        have stripped := stripFront?_append apart []
        rw [missing] at stripped
        rw [List.forall_mem_cons] at apart
        rw [cutAt?, show stripFront? needle (c :: rest) = none from stripped, ih apart.2]
        rfl
    have nothing : cutAt? needle [] = none := outside [] (List.forall_mem_nil _)
    rw [List.nil_append, outside tail apart, nothing]
    rfl
  | cons c text ih =>
    rw [List.cons_append, cutAt?, ← List.cons_append, stripFront?_append apart, ih, cutAt?]
    cases stripFront? needle (c :: text) with
    | some after => rfl
    | none => cases cutAt? needle text <;> rfl

theorem occursIn_append (text : List Char) :
    occursIn needle (text ++ tail) = occursIn needle text := by
  rw [occursIn, occursIn, cutAt?_append apart nonempty, Option.isSome_map]

theorem matchesFrom_fixedText_append (column skip : Nat) (before : Option Char)
    (text : List Char) :
    matchesFrom (fixedText needle) column skip before (text ++ tail) =
      matchesFrom (fixedText needle) column skip before text := by
  have missing (before : Option Char) : fixedText needle before [] = none := by
    obtain ⟨d, needle, rfl⟩ := List.exists_cons_of_ne_nil nonempty
    rfl
  induction text generalizing column skip before with
  | nil =>
    rw [List.nil_append, matchesFrom]
    induction tail generalizing column skip before with
    | nil => rfl
    | cons c tail ih =>
      have nothing := fixedText_append apart before []
      rw [List.nil_append, missing] at nothing
      rw [List.forall_mem_cons] at apart
      cases skip with
      | zero => rw [matchesFrom, nothing, ih apart.2]
      | succ skip => rw [matchesFrom, ih apart.2]
  | cons c text ih =>
    have same := fixedText_append apart before (c :: text)
    rw [List.cons_append] at same ⊢
    cases skip with
    | zero =>
      rw [matchesFrom, matchesFrom, same]
      simp only [ih]
    | succ skip => rw [matchesFrom, matchesFrom, ih]

end Tail

/-- **Characters that a text does not have do not change where it occurs before them.** -/
theorem occurrences_append {needle tail : List Char} (apart : ∀ c ∈ tail, c ∉ needle)
    (line : List Char) : occurrences needle (line ++ tail) = occurrences needle line := by
  unfold occurrences
  split
  · rfl
  · next filled =>
    exact matchesFrom_fixedText_append apart (by simpa using filled) _ _ _ line

end KotlinAssist.Text
