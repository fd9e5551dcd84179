import KotlinAssist.Text.Case
import Mathlib.Data.List.Infix

/-!
# The lowercase form of a part of a text

Every character has one lowercase form, except a capital sigma: its form depends on the nearest
character on either side that is not case-ignorable.  So the lowercase form of a part stands in that
of the whole text, if the part itself decides the form of each capital sigma in it.  A sigma near an
end of the part is decided only if the characters up to that end are enough for it.

Where they are not, some text with the part in it has another form there.  One cased letter in front
of the part or behind it is enough, and then the lowercase form of the part does not stand anywhere
in that of the text: the two forms of the part differ, and a text can not be shifted by one place
against itself unless all of its characters are the same.

## Main definitions

* `nearest?` — the first character that is not case-ignorable
* `lowerBetween` — the lowercase form that a part has in a text
* `Settled` — characters that decide the form of a capital sigma between them
* `SettlesSigmas` — a part that decides the form of each capital sigma in it

## Main statements

* `lowerFrom_append` — the lowercase form of a text, part by part
* `lowerBetween_of_settles` — the form of a part that decides it is the same in every text
* `lower_infix_iff` — the parts whose lowercase forms stand in those of all texts around them
-/

namespace KotlinAssist.Text

/-! ## The neighbours of a sigma -/

/-- A character that is passed over on the way to the neighbours of a sigma. -/
def isCaseIgnorable (c : Char) : Bool :=
  caseIgnorableRanges.has c.toNat

/-- A character that makes a word of which a sigma can be the end. -/
def isCased (c : Char) : Bool :=
  casedRanges.has c.toNat

/-- The first character of a text that is not case-ignorable. -/
def nearest? (text : List Char) : Option Char :=
  (text.dropWhile isCaseIgnorable).head?

/-- The form of a capital sigma between two texts, the first of which is read backwards. -/
def sigmaBetween (before after : List Char) : Char :=
  if meetsCased before && !meetsCased after then 'ς' else 'σ'

theorem meetsCased_eq (text : List Char) : meetsCased text = (nearest? text).any isCased := by
  unfold meetsCased nearest? isCaseIgnorable
  cases text.dropWhile fun c => caseIgnorableRanges.has c.toNat <;> rfl

/-- More characters are looked at only if all before them are case-ignorable. -/
theorem nearest?_append (text more : List Char) :
    nearest? (text ++ more) = (nearest? text).or (nearest? more) := by
  induction text with
  | nil => rfl
  | cons c text ih =>
    by_cases ignorable : isCaseIgnorable c = true
    · simp only [nearest?, List.cons_append, List.dropWhile_cons_of_pos ignorable] at ih ⊢
      exact ih
    · simp only [nearest?, List.cons_append, List.dropWhile_cons_of_neg ignorable]
      rfl

/-! ## Sigmas that are decided -/

/-- The characters on both sides of a capital sigma, of which those before it are read backwards,
decide its form: a cased character follows it, or the nearest one before it is not cased, or there
is a nearest one on either side. -/
def Settled (before after : List Char) : Prop :=
  meetsCased after = true ∨ (nearest? before).any (!isCased ·) = true ∨
    (nearest? before).isSome = true ∧ (nearest? after).isSome = true

/-- Every capital sigma of a text is decided by the text itself. -/
def SettlesSigmas (text : List Char) : Prop :=
  ∀ front back, text = front ++ 'Σ' :: back → Settled front.reverse back

instance (before after : List Char) : Decidable (Settled before after) :=
  inferInstanceAs (Decidable (_ ∨ _ ∨ _ ∧ _))

/-- A sigma that is decided has the same form wherever the text stands. -/
theorem sigmaBetween_append {before after : List Char} (settled : Settled before after)
    (front back : List Char) :
    sigmaBetween (before ++ front) (after ++ back) = sigmaBetween before after := by
  simp only [Settled, sigmaBetween, meetsCased_eq, nearest?_append] at settled ⊢
  rcases settled with cased | uncased | ⟨left, right⟩
  · obtain ⟨c, found, cased⟩ := (Option.any_eq_true _ _).mp cased
    simp [found, cased]
  · obtain ⟨c, found, uncased⟩ := (Option.any_eq_true _ _).mp uncased
    rw [Bool.not_eq_true'] at uncased
    simp [found, uncased]
  · rw [Option.or_of_isSome left, Option.or_of_isSome right]

/-- A sigma that is not decided has another form behind a cased letter or in front of one. -/
theorem sigmaBetween_ne {before after : List Char} (undecided : ¬ Settled before after) :
    sigmaBetween (before ++ ['a']) after ≠ sigmaBetween before after ∨
      sigmaBetween before (after ++ ['a']) ≠ sigmaBetween before after := by
  have letter : nearest? ['a'] = some 'a' := by decide +kernel
  have cased : isCased 'a' = true := by decide +kernel
  simp only [Settled, sigmaBetween, meetsCased_eq, nearest?_append, letter] at undecided ⊢
  generalize nearest? before = left at undecided ⊢
  generalize nearest? after = right at undecided ⊢
  cases left with
  | none =>
    -- with a letter in front, the sigma is the end of a word
    have uncased : right.any isCased = false := by simpa using undecided
    left
    simp [cased, uncased]
  | some c =>
    cases right with
    | none =>
      -- it is the end of a word already, and with a letter behind it no longer
      have casedBefore : isCased c = true := by simpa using undecided
      right
      simp [cased, casedBefore]
    | some d => exact absurd (.inr (.inr ⟨rfl, rfl⟩)) undecided

example : Settled ['Ο'] ['Α'] ∧ ¬ Settled ['Ο'] [] := by
  decide +kernel

/-! ## Parts of a text -/

/-- The lowercase form that a part has in a text, where `before` holds the characters in front of
it, the latest first, and `after` those behind it. -/
def lowerBetween (before after : List Char) : List Char → List Char
  | [] => []
  | c :: rest =>
    (if c = 'Σ' then [sigmaBetween before (rest ++ after)] else lowerChar c) ++
      lowerBetween (c :: before) after rest

/-- A text is put into lowercase part by part. -/
theorem lowerFrom_append (before part after : List Char) :
    lowerFrom before (part ++ after) =
      lowerBetween before after part ++ lowerFrom (part.reverse ++ before) after := by
  induction part generalizing before with
  | nil => rfl
  | cons c part ih =>
    have form : (if meetsCased before && !meetsCased (part ++ after) then ['ς'] else ['σ']) =
        [sigmaBetween before (part ++ after)] := by
      rw [sigmaBetween]
      split <;> rfl
    rw [List.cons_append, lowerFrom, form, ih, lowerBetween, List.append_assoc,
      List.reverse_cons, List.append_assoc]
    rfl

theorem lowerFrom_eq (before text : List Char) :
    lowerFrom before text = lowerBetween before [] text := by
  have parts := lowerFrom_append before text []
  rwa [List.append_nil, lowerFrom, List.append_nil] at parts

/-- The parts of a part. -/
theorem lowerBetween_append (before after part part' : List Char) :
    lowerBetween before after (part ++ part') =
      lowerBetween before (part' ++ after) part ++
        lowerBetween (part.reverse ++ before) after part' := by
  induction part generalizing before with
  | nil => rfl
  | cons c part ih =>
    rw [List.cons_append, lowerBetween, ih, lowerBetween, List.append_assoc, List.append_assoc,
      List.reverse_cons, List.append_assoc]
    rfl

/-- A character, or the plain form of sigma for the final one. -/
def plainSigma (c : Char) : Char :=
  if c = 'ς' then 'σ' else c

theorem plainSigma_sigmaBetween (before after : List Char) :
    plainSigma (sigmaBetween before after) = 'σ' := by
  unfold sigmaBetween
  split <;> rfl

/-- What stands around a part shows only in the forms of its sigmas. -/
theorem map_plainSigma_lowerBetween (before after before' after' part : List Char) :
    (lowerBetween before after part).map plainSigma =
      (lowerBetween before' after' part).map plainSigma := by
  induction part generalizing before before' with
  | nil => rfl
  | cons c part ih =>
    rw [lowerBetween, lowerBetween, List.map_append, List.map_append,
      ih (c :: before) (c :: before')]
    split
    · simp only [List.map_cons, plainSigma_sigmaBetween]
    · rfl

theorem length_eq_of_map_plainSigma {text text' : List Char}
    (plain : text.map plainSigma = text'.map plainSigma) : text.length = text'.length := by
  have length := congrArg List.length plain
  rwa [List.length_map, List.length_map] at length

/-! ## Parts that decide their form -/

/-- **A part that decides the form of its sigmas has one lowercase form in all texts.** -/
theorem lowerBetween_of_settles {part : List Char} (settles : SettlesSigmas part)
    (before after : List Char) : lowerBetween before after part = lower part := by
  -- by induction on what is left of the part, with what was read in front of it
  have go (read rest : List Char) (whole : part = read ++ rest) :
      lowerBetween (read.reverse ++ before) after rest = lowerBetween read.reverse [] rest := by
    induction rest generalizing read with
    | nil => rfl
    | cons c rest ih =>
      have next := ih (read ++ [c]) (by rw [whole, List.append_assoc]; rfl)
      rw [List.reverse_append, List.reverse_singleton] at next
      rw [lowerBetween, lowerBetween, List.append_nil]
      refine congrArg₂ (· ++ ·) ?_ next
      split
      · next isSigma =>
        rw [sigmaBetween_append (settles read rest (by rw [whole, isSigma]))]
      · rfl
  rw [lower, lowerFrom_eq]
  exact go [] part rfl

/-- A part with an undecided sigma has another lowercase form where that sigma has. -/
theorem lowerBetween_ne {before after front back : List Char}
    (differ : sigmaBetween (front.reverse ++ before) (back ++ after) ≠
      sigmaBetween front.reverse back) :
    lowerBetween before after (front ++ 'Σ' :: back) ≠ lower (front ++ 'Σ' :: back) := by
  intro same
  rw [lower, lowerFrom_eq, lowerBetween_append, lowerBetween_append] at same
  have length := length_eq_of_map_plainSigma (map_plainSigma_lowerBetween before
    ('Σ' :: back ++ after) [] ('Σ' :: back ++ []) front)
  have behind := (List.append_inj same length).2
  rw [lowerBetween, lowerBetween, if_pos rfl, if_pos rfl, List.append_nil, List.append_nil]
    at behind
  exact differ (List.cons.inj behind).1

/-! ## A text against itself, shifted by one place -/

theorem eq_of_cons_eq_concat {c d : Char} {text : List Char} (shifted : c :: text = text ++ [d]) :
    c = d ∧ ∀ e ∈ text, e = d := by
  induction text generalizing c with
  | nil => exact ⟨(List.cons.inj shifted).1, List.forall_mem_nil _⟩
  | cons e text ih =>
    obtain ⟨rfl, shifted⟩ := List.cons.inj shifted
    obtain ⟨rfl, all⟩ := ih shifted
    exact ⟨rfl, List.forall_mem_cons.mpr ⟨rfl, all⟩⟩

/-- Two texts that differ only in the forms of sigmas are equal, if one of them is found one place
further in the other. -/
theorem eq_of_shifted {text text' : List Char} {c d : Char} (letter : c = 'a' ∨ d = 'a')
    (plain : text.map plainSigma = text'.map plainSigma) (shifted : c :: text = text' ++ [d]) :
    text = text' := by
  have shiftedPlain := congrArg (List.map plainSigma) shifted
  rw [List.map_cons, List.map_append, ← plain] at shiftedPlain
  obtain ⟨same, all⟩ := eq_of_cons_eq_concat shiftedPlain
  have isLetter : plainSigma d = 'a' := by
    rcases letter with rfl | rfl
    · exact same.symm
    · rfl
  -- so both texts consist of one letter only
  have onlyLetter {text : List Char} (all : ∀ e ∈ text.map plainSigma, e = plainSigma d) :
      text = List.replicate text.length 'a' := by
    refine List.eq_replicate_of_mem fun e member => ?_
    have plainLetter := (all _ (List.mem_map_of_mem member)).trans isLetter
    unfold plainSigma at plainLetter
    split at plainLetter
    · cases plainLetter
    · exact plainLetter
  have length := length_eq_of_map_plainSigma plain
  exact (onlyLetter all).trans (length ▸ (onlyLetter (plain ▸ all)).symm)

/-- A text in one that is longer by a single character stands at its end or at its start. -/
theorem infix_cases {part text : List Char} (inside : part <:+: text)
    (length : text.length = part.length + 1) :
    (∃ c, text = c :: part) ∨ ∃ d, text = part ++ [d] := by
  obtain ⟨front, back, rfl⟩ := inside
  rw [List.length_append, List.length_append] at length
  cases front with
  | nil =>
    obtain ⟨d, rfl⟩ := List.length_eq_one_iff.mp (show back.length = 1 by
      rw [List.length_nil] at length
      omega)
    exact .inr ⟨d, rfl⟩
  | cons c front =>
    rw [List.length_cons] at length
    obtain rfl : front = [] := List.length_eq_zero_iff.mp (by omega)
    obtain rfl : back = [] := List.length_eq_zero_iff.mp (by omega)
    exact .inl ⟨c, List.append_nil _⟩

section Shifted

variable {form form' : List Char} (plain : form.map plainSigma = form'.map plainSigma)
  (differ : form ≠ form')

include plain differ

theorem not_infix_cons : ¬ form' <:+: 'a' :: form := by
  intro inside
  have length := length_eq_of_map_plainSigma plain
  rcases infix_cases inside (by rw [List.length_cons, length]) with ⟨c, whole⟩ | ⟨d, whole⟩
  · exact differ (List.cons.inj whole).2
  · exact differ (eq_of_shifted (.inl rfl) plain whole)

theorem not_infix_concat : ¬ form' <:+: form ++ ['a'] := by
  intro inside
  have length := length_eq_of_map_plainSigma plain
  rcases infix_cases inside (by rw [List.length_append, length]; rfl) with ⟨c, whole⟩ | ⟨d, whole⟩
  · exact differ (eq_of_shifted (.inr rfl) plain.symm whole.symm).symm
  · exact differ (List.append_inj whole length).1

end Shifted

theorem lower_cons_letter (part : List Char) :
    lower ('a' :: part) = 'a' :: lowerBetween ['a'] [] part := by
  rw [← lowerFrom_eq]
  rfl

theorem lower_concat_letter (part : List Char) :
    lower (part ++ ['a']) = lowerBetween [] ['a'] part ++ ['a'] := by
  rw [lower, lowerFrom_append]
  rfl

/-- **The lowercase form of a part stands in that of every text around it** exactly if the part
decides the form of each capital sigma in it. -/
theorem lower_infix_iff (part : List Char) :
    (∀ text, part <:+: text → lower part <:+: lower text) ↔ SettlesSigmas part := by
  constructor
  · rintro found front back rfl
    have plain (before after : List Char) :
        (lowerBetween before after (front ++ 'Σ' :: back)).map plainSigma =
          (lower (front ++ 'Σ' :: back)).map plainSigma := by
      rw [lower, lowerFrom_eq]
      exact map_plainSigma_lowerBetween ..
    by_contra undecided
    rcases sigmaBetween_ne undecided with differ | differ
    · have inside := found ('a' :: (front ++ 'Σ' :: back)) (List.suffix_cons _ _).isInfix
      rw [lower_cons_letter] at inside
      exact not_infix_cons (plain _ _) (lowerBetween_ne (by rwa [List.append_nil])) inside
    · have inside := found (front ++ 'Σ' :: back ++ ['a']) (List.prefix_append _ _).isInfix
      rw [lower_concat_letter] at inside
      exact not_infix_concat (plain _ _) (lowerBetween_ne (by rwa [List.append_nil])) inside
  · rintro settles _ ⟨front, back, rfl⟩
    have parts : lower (front ++ part ++ back) =
        lowerBetween [] (part ++ back) front ++ lower part ++
          lowerFrom (part.reverse ++ (front.reverse ++ [])) back := by
      rw [List.append_assoc, lower, lowerFrom_append, lowerFrom_append,
        lowerBetween_of_settles settles, List.append_assoc]
    rw [parts]
    exact List.infix_append _ _ _

end KotlinAssist.Text
