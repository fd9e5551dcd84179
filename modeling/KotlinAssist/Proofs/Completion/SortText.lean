import KotlinAssist.Proofs.Completion
import KotlinAssist.Proofs.Signature
import KotlinAssist.Proofs.Text.Numeral

/-!
# The order of completions

Completions come group by group, and a client is to show them in that order: it sorts the items by
the bytes of their sort texts, which consist of the number of the group and the place in the list.
A place is written with four digits, or with more if it needs them.  Within a group, the texts
increase as long as the places in it have equally many digits; where a group goes on from 9999 to
10000, or over any greater power of ten, they do not, because the shorter numeral starts with a nine
and the longer one with a one.

## Main definitions

* `CompletionItem.SortsBefore` — the order in which a client shows items
* `offeredLabels` — what is offered in each group
* `Candidate.Grouped` — candidates in the order of their groups

## Main statements

* `Candidate.all_eq_flatMap` — the candidates of a document, group by group
* `Candidate.fourDigits_lt`, `Candidate.fourDigits_lt_of_power` — the order of numbered places
* `Candidate.pairwise_sortsBefore_iff` — when the sort texts of candidates increase
* `sort_texts_keep_order_iff` — when the sort texts of completions keep their order
* `crowded_group_out_of_order` — completions that are shown in another order
-/

namespace KotlinAssist

open Text

namespace CompletionItem

/-- What a client sorts an item by: the bytes of its sort text, or of its label if it has none. -/
def sortKey (item : CompletionItem) : List UInt8 :=
  bytes (item.sortText.getD item.label)

/-- Whether a client that sorts items shows one before another. -/
def SortsBefore (left right : CompletionItem) : Prop :=
  left.sortKey < right.sortKey

end CompletionItem

/-- The labels that are offered in a group, in their order, where something has been typed. -/
def offeredLabels (document : List Line) (typed : List Char) : CompletionCategory → List String
  | .keyword =>
    (Vocabulary.keywords ++ Vocabulary.modifiers).filter (Candidate.startsWith typed)
  | .type => Vocabulary.builtinTypes.filter (Candidate.startsWith typed)
  | .function => (DeclaredGroup.functions.declared document).map Declaration.name
  | .property => (DeclaredGroup.properties.declared document).map Declaration.name

namespace Candidate

/-! ## Group by group -/

/-- The candidates of a group, repetitions included. -/
def offered (document : List Line) (typed : List Char) : CompletionCategory → List Candidate
  | .keyword => keywords typed
  | .type => types typed
  | .function => functions (Declaration.ofLines document)
  | .property => properties (Declaration.ofLines document)

theorem category_of_mem_offered {document : List Line} {typed : List Char}
    {category : CompletionCategory} :
    ∀ candidate ∈ offered document typed category, candidate.category = category := by
  intro candidate member
  cases category <;> obtain ⟨_, -, rfl⟩ := List.mem_map.mp member <;> rfl

theorem labels_offered (document : List Line) (typed : List Char)
    (category : CompletionCategory) :
    (offered document typed category).map Candidate.label =
      offeredLabels document typed category := by
  cases category with
  | keyword => exact (List.map_map ..).trans (List.map_id _)
  | type => exact (List.map_map ..).trans (List.map_id _)
  | function => exact List.map_map ..
  | property => exact List.map_map ..

theorem mem_of_mem_distinct {candidates : List Candidate} {candidate : Candidate}
    (member : candidate ∈ distinct candidates) : candidate ∈ candidates :=
  List.mem_of_find?_eq_some (find?_of_mem_distinct member)

/-- Candidates of different groups are never taken for one. -/
theorem distinct_append {front back : List Candidate}
    (apart : ∀ candidate ∈ front, ∀ other ∈ back, candidate.category ≠ other.category) :
    distinct (front ++ back) = distinct front ++ distinct back := by
  induction front with
  | nil => rfl
  | cons candidate front ih =>
    rw [List.forall_mem_cons] at apart
    have kept : (distinct back).filter (fun other => !candidate.isSame other) = distinct back := by
      rw [List.filter_eq_self]
      intro other member
      rw [Bool.not_eq_true', Bool.eq_false_iff]
      intro same
      exact apart.1 other (mem_of_mem_distinct member) (isSame_iff.mp same).1.symm
    rw [List.cons_append, distinct_cons, distinct_cons, ih apart.2, List.filter_append, kept,
      List.cons_append]

/-- **The candidates of a document, group by group.** -/
theorem all_eq_flatMap (document : List Line) (typed : List Char) :
    all document typed =
      CompletionCategory.all.flatMap fun category =>
        distinct (offered document typed category) := by
  have apart {category category' : CompletionCategory} (different : category ≠ category') :
      ∀ candidate ∈ offered document typed category, ∀ other ∈ offered document typed category',
        candidate.category ≠ other.category := by
    intro candidate member other member'
    rw [category_of_mem_offered candidate member, category_of_mem_offered other member']
    exact different
  have grouped : all document typed = distinct (offered document typed .keyword ++
      (offered document typed .type ++
        (offered document typed .function ++ offered document typed .property))) := by
    simp only [all, offered, List.append_assoc]
  rw [grouped, distinct_append, distinct_append, distinct_append (apart (by decide))]
  · simp [CompletionCategory.all]
  · intro candidate member
    rw [List.forall_mem_append]
    exact ⟨apart (by decide) candidate member, apart (by decide) candidate member⟩
  · intro candidate member
    rw [List.forall_mem_append, List.forall_mem_append]
    exact ⟨apart (by decide) candidate member, apart (by decide) candidate member,
      apart (by decide) candidate member⟩

end Candidate

theorem CompletionCategory.rank_inj {left right : CompletionCategory} :
    left.rank = right.rank ↔ left = right := by
  cases left <;> cases right <;> decide

/-- Candidates in the order of their groups. -/
def Candidate.Grouped (candidates : List Candidate) : Prop :=
  candidates.Pairwise fun left right => left.category.rank ≤ right.category.rank

theorem Candidate.Grouped.rank_le {candidates : List Candidate} (grouped : Grouped candidates)
    {place place' : Nat} (inside : place < candidates.length) (inside' : place' < candidates.length)
    (order : place ≤ place') :
    candidates[place].category.rank ≤ candidates[place'].category.rank := by
  rcases Nat.lt_or_eq_of_le order with less | rfl
  · exact List.pairwise_iff_getElem.mp grouped place place' inside inside' less
  · exact le_rfl

/-- The candidates of a document are in the order of their groups. -/
theorem Candidate.grouped_all (document : List Line) (typed : List Char) :
    Grouped (all document typed) := by
  rw [Grouped, all_eq_flatMap, List.pairwise_flatMap]
  constructor
  · intro category _
    refine List.pairwise_of_forall_mem_list ?_
    intro left member right member'
    rw [category_of_mem_offered left (mem_of_mem_distinct member),
      category_of_mem_offered right (mem_of_mem_distinct member')]
  · have ordered : CompletionCategory.all.Pairwise fun left right => left.rank ≤ right.rank := by
      decide
    refine ordered.imp ?_
    intro first second ranks left member right member'
    rw [category_of_mem_offered left (mem_of_mem_distinct member),
      category_of_mem_offered right (mem_of_mem_distinct member')]
    exact ranks

namespace Candidate

/-! ## Numbered places -/

/-- The digits of a place: four of them, or more if it needs them. -/
def placeDigits (place : Nat) : List Char :=
  List.replicate (4 - (Nat.toDigits 10 place).length) '0' ++ Nat.toDigits 10 place

theorem fourDigits_eq (place : Nat) : fourDigits place = String.ofList (placeDigits place) := rfl

theorem isNumeral_placeDigits (place : Nat) : IsNumeral (placeDigits place) := by
  intro c member
  rcases List.mem_append.mp member with zero | digit
  · rw [List.eq_of_mem_replicate zero]
    rfl
  · exact Nat.isDigit_of_mem_toDigits (by decide) (by decide) digit

theorem numeralValue_placeDigits (place : Nat) : numeralValue (placeDigits place) = place := by
  rw [numeralValue, placeDigits, Nat.ofDigitChars_append, Nat.ofDigitChars_replicate_zero,
    Nat.mul_zero, Nat.ofDigitChars_ten_toDigits]

theorem length_placeDigits (place : Nat) :
    (placeDigits place).length = max 4 (Nat.toDigits 10 place).length := by
  rw [placeDigits, List.length_append, List.length_replicate]
  omega

theorem length_placeDigits_le_iff {width : Nat} (wide : 4 ≤ width) (place : Nat) :
    (placeDigits place).length ≤ width ↔ place < 10 ^ width := by
  rw [length_placeDigits, Nat.max_le, and_iff_right wide,
    Nat.length_toDigits_le_iff (by decide) (by omega)]

theorem four_le_length_placeDigits (place : Nat) : 4 ≤ (placeDigits place).length := by
  rw [length_placeDigits]
  exact Nat.le_max_left ..

/-- Places with equally many digits are in their order. -/
theorem fourDigits_lt {place place' : Nat} (less : place < place')
    (length : (placeDigits place).length = (placeDigits place').length) :
    bytes (fourDigits place) < bytes (fourDigits place') := by
  rw [fourDigits_eq, fourDigits_eq, bytes_lt_iff_of_length_eq (isNumeral_placeDigits place)
    (isNumeral_placeDigits place') length, numeralValue_placeDigits, numeralValue_placeDigits]
  exact less

/-- Two places have equally many digits unless a power of ten lies between them. -/
theorem length_placeDigits_eq_or_power {place place' : Nat} (less : place < place') :
    (placeDigits place).length = (placeDigits place').length ∨
      ∃ exponent, 4 ≤ exponent ∧ place < 10 ^ exponent ∧ 10 ^ exponent ≤ place' := by
  have wide := four_le_length_placeDigits place
  have below : place < 10 ^ (placeDigits place).length :=
    (length_placeDigits_le_iff wide place).mp le_rfl
  by_cases power : place' < 10 ^ (placeDigits place).length
  · refine Or.inl (Nat.le_antisymm ?_ ((length_placeDigits_le_iff wide place').mpr power))
    have wide' := four_le_length_placeDigits place'
    have below' := (length_placeDigits_le_iff wide' place').mp le_rfl
    exact (length_placeDigits_le_iff wide' place).mpr (less.trans below')
  · exact Or.inr ⟨_, wide, below, Nat.le_of_not_lt power⟩

theorem length_placeDigits_power {exponent : Nat} (wide : 4 ≤ exponent) :
    (placeDigits (10 ^ exponent)).length = exponent + 1 := by
  refine Nat.le_antisymm ?_ (Nat.lt_of_not_le fun short => ?_)
  · exact (length_placeDigits_le_iff (by omega) _).mpr (Nat.pow_lt_pow_succ (by decide))
  · exact Nat.lt_irrefl _ ((length_placeDigits_le_iff wide _).mp short)

theorem length_placeDigits_before_power {width : Nat} (wide : 4 ≤ width + 1) :
    (placeDigits (10 ^ (width + 1) - 1)).length = width + 1 := by
  have positive : 0 < 10 ^ width := Nat.pow_pos (by decide)
  have power : 10 ^ (width + 1) = 10 * 10 ^ width := pow_succ' 10 width
  refine Nat.le_antisymm ((length_placeDigits_le_iff wide _).mpr (by omega)) ?_
  rcases Nat.lt_or_ge width 4 with four | more
  · exact Nat.le_trans four (four_le_length_placeDigits _)
  · refine Nat.lt_of_not_le fun short => ?_
    have below := (length_placeDigits_le_iff more _).mp short
    omega

/-- **A power of ten comes before the place in front of it.**  Its numeral starts with a one, and
the shorter numeral with a nine. -/
theorem fourDigits_lt_of_power {exponent : Nat} (wide : 4 ≤ exponent) :
    bytes (fourDigits (10 ^ exponent)) < bytes (fourDigits (10 ^ exponent - 1)) := by
  obtain ⟨width, rfl⟩ : ∃ width, exponent = width + 1 := ⟨exponent - 1, by omega⟩
  have positive : 0 < 10 ^ width := Nat.pow_pos (by decide)
  have power : 10 ^ (width + 1) = 10 * 10 ^ width := pow_succ' 10 width
  have nine : (10 ^ (width + 1) - 1) / 10 ^ width = 9 :=
    Nat.div_eq_of_lt_le (by omega) (by omega)
  rw [fourDigits_eq, fourDigits_eq]
  refine bytes_lt_of_div_lt (isNumeral_placeDigits _) (isNumeral_placeDigits _)
    (length_placeDigits_power wide) (length_placeDigits_before_power wide) ?_
  rw [numeralValue_placeDigits, numeralValue_placeDigits, nine,
    Nat.div_self (Nat.pow_pos (by decide))]
  decide

/-! ## Sort texts -/

theorem sortText_toItem (uri : Uri) (candidate : Candidate) (place : Nat) :
    (candidate.toItem uri place).sortText =
      some (toString candidate.category.rank ++ "_" ++ fourDigits place) := rfl

theorem sortKey_toItem (uri : Uri) (candidate : Candidate) (place : Nat) :
    (candidate.toItem uri place).sortKey =
      UInt8.ofNat (48 + candidate.category.rank) :: 95 :: bytes (fourDigits place) := by
  rw [CompletionItem.sortKey, sortText_toItem, Option.getD_some, bytes_append, bytes_append]
  cases candidate.category <;> rfl

/-- The order of two items: groups first, then places as they are written. -/
theorem sortsBefore_toItem_iff {uri : Uri} {left right : Candidate} {place place' : Nat} :
    (left.toItem uri place).SortsBefore (right.toItem uri place') ↔
      left.category.rank < right.category.rank ∨ left.category = right.category ∧
        bytes (fourDigits place) < bytes (fourDigits place') := by
  have byte (category category' : CompletionCategory) :
      (UInt8.ofNat (48 + category.rank) < UInt8.ofNat (48 + category'.rank) ↔
        category.rank < category'.rank) ∧
      (UInt8.ofNat (48 + category.rank) = UInt8.ofNat (48 + category'.rank) ↔
        category = category') := by
    cases category <;> cases category' <;> decide
  obtain ⟨lt_iff, eq_iff⟩ := byte left.category right.category
  rw [CompletionItem.SortsBefore, sortKey_toItem, sortKey_toItem, List.cons_lt_cons_iff,
    List.cons_lt_cons_iff, lt_iff, eq_iff]
  simp

/-- **When the sort texts of candidates increase.**  They do unless a group reaches over a power of
ten that needs more than four digits. -/
theorem pairwise_sortsBefore_iff {uri : Uri} {candidates : List Candidate}
    (grouped : Grouped candidates) {items : List CompletionItem}
    (placed : items = candidates.mapIdx fun place candidate => candidate.toItem uri place) :
    items.Pairwise CompletionItem.SortsBefore ↔
      ∀ exponent : Nat, 4 ≤ exponent → ∀ last next : CompletionItem,
        items[10 ^ exponent - 1]? = some last → items[10 ^ exponent]? = some next →
          last.kind ≠ next.kind := by
  rw [List.pairwise_iff_getElem]
  simp only [placed, List.length_mapIdx, List.getElem_mapIdx, List.getElem?_mapIdx,
    Option.map_eq_some_iff, sortsBefore_toItem_iff]
  constructor
  · rintro increasing exponent wide _ _ ⟨last, isLast, rfl⟩ ⟨next, isNext, rfl⟩ same
    obtain ⟨inside, rfl⟩ := List.getElem?_eq_some_iff.mp isLast
    obtain ⟨inside', rfl⟩ := List.getElem?_eq_some_iff.mp isNext
    have positive : 0 < 10 ^ exponent := Nat.pow_pos (by decide)
    rcases increasing _ _ inside inside' (by omega) with ranks | ⟨-, texts⟩
    · rw [CompletionCategory.kindCode_inj.mp (Option.some.inj same)] at ranks
      exact Nat.lt_irrefl _ ranks
    · exact List.lt_asymm texts (fourDigits_lt_of_power wide)
  · intro separated place place' inside inside' less
    rcases Nat.lt_or_eq_of_le (grouped.rank_le inside inside' less.le) with lower | same
    · exact Or.inl lower
    · refine Or.inr ⟨CompletionCategory.rank_inj.mp same, ?_⟩
      rcases length_placeDigits_eq_or_power less with length | ⟨exponent, wide, before, behind⟩
      · exact fourDigits_lt less length
      · -- the two places around the power of ten belong to the group of the outer two
        have inner : 10 ^ exponent - 1 < candidates.length := by omega
        have inner' : 10 ^ exponent < candidates.length := by omega
        have lower := grouped.rank_le inside inner (by omega)
        have middle := grouped.rank_le inner inner' (by omega)
        have upper := grouped.rank_le inner' inside' behind
        have category :
            candidates[10 ^ exponent - 1].category = candidates[10 ^ exponent].category :=
          CompletionCategory.rank_inj.mp (by omega)
        refine absurd ?_ (separated exponent wide _ _ ⟨_, List.getElem?_eq_getElem inner, rfl⟩
          ⟨_, List.getElem?_eq_getElem inner', rfl⟩)
        exact congrArg (some ·.kindCode) category

end Candidate

namespace CompletionItem

theorem sortsBefore_of_increasing {items : List CompletionItem}
    (increasing : items.Pairwise SortsBefore) {place place' : Nat} (less : place < place')
    {left right : CompletionItem} (atPlace : items[place]? = some left)
    (atPlace' : items[place']? = some right) : left.SortsBefore right := by
  obtain ⟨inside, rfl⟩ := List.getElem?_eq_some_iff.mp atPlace
  obtain ⟨inside', rfl⟩ := List.getElem?_eq_some_iff.mp atPlace'
  exact List.pairwise_iff_getElem.mp increasing place place' inside inside' less

/-- Items whose sort texts increase are shown in their order, whatever order they arrive in. -/
theorem eq_of_shown {items shown : List CompletionItem}
    (increasing : items.Pairwise SortsBefore) (permuted : shown.Perm items)
    (sorted : shown.Pairwise fun left right => ¬ right.SortsBefore left) : shown = items := by
  have asymm {left right : CompletionItem} (before : left.SortsBefore right) :
      ¬ right.SortsBefore left := List.lt_asymm before
  refine List.Perm.eq_of_pairwise ?_ sorted (increasing.imp asymm) permuted
  intro left right member member' notAfter notBefore
  obtain ⟨place, isLeft⟩ := List.mem_iff_getElem?.mp (permuted.mem_iff.mp member)
  obtain ⟨place', isRight⟩ := List.mem_iff_getElem?.mp member'
  rcases Nat.lt_trichotomy place place' with less | rfl | more
  · exact absurd (sortsBefore_of_increasing increasing less isLeft isRight) notBefore
  · exact Option.some.inj (isLeft.symm.trans isRight)
  · exact absurd (sortsBefore_of_increasing increasing more isRight isLeft) notAfter

end CompletionItem

/-- What is offered where something has been typed, with the kinds of the items. -/
theorem Candidate.kinds_and_labels_all (document : List Line) (typed : List Char) :
    ((all document typed).map fun candidate =>
        (some candidate.category.kindCode, candidate.label)) =
      CompletionCategory.all.flatMap fun category =>
        (offeredLabels document typed category).eraseDups.map (some category.kindCode, ·) := by
  rw [all_eq_flatMap, List.map_flatMap]
  refine List.flatMap_congr ?_
  intro category _
  rw [← labels_offered, ← labels_distinct _ category_of_mem_offered, List.map_map]
  refine List.map_congr_left ?_
  intro candidate member
  rw [category_of_mem_offered candidate (mem_of_mem_distinct member)]
  rfl

theorem completions_of_typed (uri : Uri) {document : List Line} {position : Position}
    {typed : List Char}
    (isTyped : document[position.line]?.bind (typedAt? · position.character) = some typed) :
    completions uri document position =
      (Candidate.all document typed).mapIdx fun place candidate => candidate.toItem uri place := by
  rw [completions, isTyped]

/-- **When the sort texts of completions keep their order.**  Their sort texts increase exactly if
no group goes on over a power of ten that needs more than four digits, which includes all lists of
up to ten thousand items; a client that sorts the items then shows them as they are listed.  Every
item has a sort text, and the list consists of keywords and modifiers, types, functions and
properties, each group in its order and without repetitions. -/
theorem sort_texts_keep_order_iff (uri : Uri) (document : List Line) (position : Position) :
    let items := completions uri document position
    (items.Pairwise CompletionItem.SortsBefore ↔
      ∀ exponent : Nat, 4 ≤ exponent → ∀ last next : CompletionItem,
        items[10 ^ exponent - 1]? = some last → items[10 ^ exponent]? = some next →
          last.kind ≠ next.kind) ∧
    (items.length ≤ 10000 → items.Pairwise CompletionItem.SortsBefore) ∧
    (items.Pairwise CompletionItem.SortsBefore → ∀ shown : List CompletionItem,
      shown.Perm items → (shown.Pairwise fun left right => ¬ right.SortsBefore left) →
        shown = items) ∧
    (∀ item ∈ items, item.sortText.isSome = true) ∧
    ∀ typed, document[position.line]?.bind (typedAt? · position.character) = some typed →
      (items.map fun item => (item.kind, item.label)) =
        CompletionCategory.all.flatMap fun category =>
          (offeredLabels document typed category).eraseDups.map (some category.kindCode, ·) := by
  intro items
  obtain ⟨candidates, grouped, placed⟩ : ∃ candidates, Candidate.Grouped candidates ∧
      items = candidates.mapIdx fun place candidate => candidate.toItem uri place := by
    by_cases nonempty : items = []
    · exact ⟨[], List.Pairwise.nil, nonempty⟩
    · obtain ⟨typed, offered⟩ := exists_candidates_of_completions nonempty
      exact ⟨_, Candidate.grouped_all document typed, offered⟩
  have increasing_iff := Candidate.pairwise_sortsBefore_iff grouped placed
  refine ⟨increasing_iff, ?_, fun increasing _ => CompletionItem.eq_of_shown increasing, ?_, ?_⟩
  · intro short
    rw [increasing_iff]
    intro exponent wide last next _ isNext
    have inside := (List.getElem?_eq_some_iff.mp isNext).1
    have power : 10 ^ 4 ≤ 10 ^ exponent := Nat.pow_le_pow_right (by decide) wide
    omega
  · intro item member
    rw [placed] at member
    obtain ⟨place, inside, rfl⟩ := List.mem_mapIdx.mp member
    rfl
  · intro typed isTyped
    have placed : items = _ := completions_of_typed uri isTyped
    rw [← Candidate.kinds_and_labels_all, placed]
    apply List.ext_getElem?
    intro place
    rw [List.getElem?_map, List.getElem?_map, List.getElem?_mapIdx, Option.map_map]
    rfl

/-! ## A group of more than ten thousand items -/

/-- Where a group reaches over a power of ten, the item at that place is shown too early. -/
theorem Candidate.exists_sortsBefore_of_crowded {uri : Uri} {candidates : List Candidate}
    {category : CompletionCategory}
    (group : ∀ candidate ∈ candidates, candidate.category = category)
    {items : List CompletionItem}
    (placed : items = candidates.mapIdx fun place candidate => candidate.toItem uri place)
    {exponent : Nat} (wide : 4 ≤ exponent) (crowded : 10 ^ exponent < candidates.length) :
    ∃ last ∈ candidates, ∃ next ∈ candidates,
      items[10 ^ exponent - 1]? = some (last.toItem uri (10 ^ exponent - 1)) ∧
      items[10 ^ exponent]? = some (next.toItem uri (10 ^ exponent)) ∧
      (next.toItem uri (10 ^ exponent)).SortsBefore (last.toItem uri (10 ^ exponent - 1)) := by
  have crowded' : 10 ^ exponent - 1 < candidates.length := (Nat.sub_le _ 1).trans_lt crowded
  have isItem {place : Nat} (inside : place < candidates.length) :
      items[place]? = some (candidates[place].toItem uri place) := by
    rw [placed, List.getElem?_mapIdx, List.getElem?_eq_getElem inside, Option.map_some]
  have isLast := List.getElem_mem crowded'
  have isNext := List.getElem_mem crowded
  refine ⟨_, isLast, _, isNext, isItem crowded', isItem crowded, ?_⟩
  refine sortsBefore_toItem_iff.mpr (Or.inr ⟨?_, fourDigits_lt_of_power wide⟩)
  rw [group _ isLast, group _ isNext]

open Grammar

/-- A document in which every line declares a variable. -/
def variableLines (names : List (List Char)) : List Line :=
  names.map (written [] "var")

/-- What such a line declares. -/
def Declaration.ofVariable (index : Nat) (name : List Char) : Declaration :=
  ofProperty index (written [] "var" name)
    { lead := spaced []
      introducer := "var".toList ++ [' ']
      name := name
      mutable := true
      clause := none
      ending := [] }

theorem Declaration.ofLine?_variable {name : List Char} (named : isName name = true) (index : Nat) :
    ofLine? index (written [] "var" name) = some (ofVariable index name) := by
  have untyped : name ++ typePart none = name := List.append_nil name
  have types : ∀ t ∈ (none : Option (List Char)), PropertyType t := by
    intro t member
    cases member
  have read := ofLine?_written_property (List.forall_mem_nil _) named index true types
  rw [untyped] at read
  exact read

/-- The declarations of such a document are its variables in order. -/
theorem Declaration.ofLines_variableLines {names : List (List Char)}
    (named : ∀ name ∈ names, isName name = true) :
    ofLines (variableLines names) = names.zipIdx.map fun entry => ofVariable entry.2 entry.1 := by
  rw [ofLines, variableLines, List.zipIdx_map, List.filterMap_map, ← List.filterMap_eq_map]
  refine List.filterMap_congr ?_
  intro entry member
  exact ofLine?_variable (named entry.1 (List.fst_mem_of_mem_zipIdx member)) entry.2

/-- Of one group, candidates with different labels are all kept. -/
theorem Candidate.distinct_eq_self {candidates : List Candidate}
    (nodup : (candidates.map Candidate.label).Nodup) : distinct candidates = candidates := by
  induction candidates with
  | nil => rfl
  | cons candidate candidates ih =>
    rw [List.map_cons, List.nodup_cons] at nodup
    rw [distinct_cons, ih nodup.2, List.filter_eq_self.mpr]
    intro other member
    rw [Bool.not_eq_true', Bool.eq_false_iff]
    intro same
    exact nodup.1 ((isSame_iff.mp same).2 ▸ List.mem_map_of_mem member)

/-- Where nothing that has been typed starts a word of the language, such a document offers its
variables. -/
theorem Candidate.all_variableLines {names : List (List Char)}
    (named : ∀ name ∈ names, isName name = true) (nodup : names.Nodup) {typed : List Char}
    (noKeyword : keywords typed = []) (noType : types typed = []) :
    (all (variableLines names) typed).length = names.length ∧
      ∀ candidate ∈ all (variableLines names) typed, candidate.category = .property := by
  have declared := Declaration.ofLines_variableLines named
  have noFunction : functions (Declaration.ofLines (variableLines names)) = [] := by
    rw [functions, declared, List.filter_eq_nil_iff.mpr, List.map_nil]
    rw [List.forall_mem_map]
    exact fun _ _ => Bool.false_ne_true
  have kept : (properties (Declaration.ofLines (variableLines names))).map Candidate.label =
      names.map String.ofList := by
    rw [properties, declared, List.filter_eq_self.mpr, List.map_map, List.map_map]
    · show names.zipIdx.map (String.ofList ∘ Prod.fst) = _
      rw [← List.map_map, List.zipIdx_map_fst]
    · rw [List.forall_mem_map]
      exact fun _ _ => rfl
  have offered : all (variableLines names) typed =
      properties (Declaration.ofLines (variableLines names)) := by
    rw [all, noKeyword, noType, noFunction]
    refine distinct_eq_self ?_
    show ((properties (Declaration.ofLines (variableLines names))).map Candidate.label).Nodup
    rw [kept]
    exact nodup.map fun _ _ => String.ofList_injective
  rw [offered]
  constructor
  · rw [← List.length_map Candidate.label, kept, List.length_map]
  · show ∀ candidate ∈ Candidate.offered (variableLines names) typed .property, _
    exact category_of_mem_offered

/-- The names `v0`, `v1` and so on. -/
def numberedNames (count : Nat) : List (List Char) :=
  (List.range count).map fun number => 'v' :: Nat.toDigits 10 number

theorem isName_of_mem_numberedNames {count : Nat} :
    ∀ name ∈ numberedNames count, isName name = true := by
  intro name member
  obtain ⟨number, -, rfl⟩ := List.mem_map.mp member
  rw [isName, Bool.and_eq_true, List.all_eq_true]
  refine ⟨rfl, fun c digit => ?_⟩
  have isDigit : c.isDigit = true := Nat.isDigit_of_mem_toDigits (by decide) (by decide) digit
  rw [isNamePart, Char.isAlphanum, isDigit, Bool.or_true, Bool.true_or]

theorem nodup_numberedNames (count : Nat) : (numberedNames count).Nodup := by
  refine List.nodup_range.map fun number number' same => ?_
  have values := congrArg (Nat.ofDigitChars 10 · 0) (List.cons.inj same).2
  simpa using values

theorem variableLines_numberedNames (count : Nat) :
    variableLines (numberedNames count) =
      (List.range count).map fun number => ("var v" ++ toString number).toList := by
  rw [variableLines, numberedNames, List.map_map]
  refine List.map_congr_left fun number _ => ?_
  rw [String.toList_append, Nat.toString_eq_ofList_toDigits]
  exact congrArg ("var v".toList ++ ·) String.toList_ofList.symm

/-- Ten thousand and one variables: the last of them comes before the one in front of it. -/
theorem crowded_group_out_of_order :
    let document : List Line := (List.range 10001).map fun number =>
      ("var v" ++ toString number).toList
    let items := completions "file:///a.kt" document ⟨0, 6⟩
    ∃ last next : CompletionItem, items[9999]? = some last ∧ items[10000]? = some next ∧
      last.sortText = some "3_9999" ∧ next.sortText = some "3_10000" ∧
      next.SortsBefore last ∧ ¬ items.Pairwise CompletionItem.SortsBefore := by
  intro document items
  have noKeyword : Candidate.keywords "v0".toList = [] := by decide +kernel
  have noType : Candidate.types "v0".toList = [] := by decide +kernel
  obtain ⟨count, isProperty⟩ := Candidate.all_variableLines isName_of_mem_numberedNames
    (nodup_numberedNames 10001) noKeyword noType
  rw [variableLines_numberedNames] at count isProperty
  rw [numberedNames, List.length_map, List.length_range] at count
  have isTyped : document[0]?.bind (typedAt? · 6) = some "v0".toList := by
    rw [List.getElem?_map, List.getElem?_range (by decide)]
    decide +kernel
  have placed : items = _ := completions_of_typed "file:///a.kt" isTyped
  obtain ⟨last, isLast, next, isNext, atLast, atNext, before⟩ :=
    Candidate.exists_sortsBefore_of_crowded isProperty placed (le_refl 4) (by rw [count]; decide)
  simp only [Nat.reducePow, Nat.reduceSub] at atLast atNext before
  refine ⟨_, _, atLast, atNext, ?_, ?_, before, fun increasing => ?_⟩
  · rw [Candidate.sortText_toItem, isProperty last isLast]
    decide
  · rw [Candidate.sortText_toItem, isProperty next isNext]
    decide
  · exact List.lt_asymm before
      (CompletionItem.sortsBefore_of_increasing increasing (by decide) atLast atNext)

end KotlinAssist
