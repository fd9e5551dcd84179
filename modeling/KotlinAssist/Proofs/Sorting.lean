import Mathlib.Data.List.Basic

/-!
# What sorting leaves in place

Sorting is stable: of two items that may stand in either order, the one that came first still comes
first.  So the items of a class that are in order among themselves are found in that order after
sorting, whatever else is sorted with them; the items of one key are such a class.  An item that may
stand before all others and comes first is sorted to the front.

## Main statements

* `filter_mergeSort` — a class of items that is in order keeps its order
* `mergeSort_cons_of_first` — an item that may stand before all others stays in front
-/

namespace KotlinAssist

section Stable

variable {Item : Type} {before : Item → Item → Bool}
  (trans : ∀ left middle right, before left middle = true → before middle right = true →
    before left right = true)
  (total : ∀ left right, (before left right || before right left) = true)

include trans total

/-- **Items that are in order among themselves keep that order when others are sorted with them.**
-/
theorem filter_mergeSort {items : List Item} {chosen : Item → Bool}
    (sorted : (items.filter chosen).Pairwise fun left right => before left right = true) :
    (items.mergeSort before).filter chosen = items.filter chosen := by
  have kept : (items.filter chosen).Sublist (items.mergeSort before) :=
    List.sublist_mergeSort trans total sorted List.filter_sublist
  have among : (items.filter chosen).Sublist ((items.mergeSort before).filter chosen) := by
    have chosenOnly := kept.filter chosen
    simpa only [List.filter_filter, Bool.and_self] using chosenOnly
  have count : ((items.mergeSort before).filter chosen).length = (items.filter chosen).length :=
    ((List.mergeSort_perm items before).filter chosen).length_eq
  exact (among.eq_of_length count.symm).symm

/-- An item that may stand before all others, and comes first, is sorted to the front. -/
theorem mergeSort_cons_of_first {first : Item} {rest : List Item}
    (leads : ∀ item ∈ rest, before first item = true) :
    (first :: rest).mergeSort before = first :: rest.mergeSort before := by
  obtain ⟨front, back, whole, others, strict⟩ := List.mergeSort_cons trans total first rest
  -- an item in front of the first would have to stand before it
  have nothing : front = [] := by
    refine List.eq_nil_iff_forall_not_mem.mpr fun item member => ?_
    have among : item ∈ rest := by
      rw [← (List.mergeSort_perm rest before).mem_iff, others]
      exact List.mem_append_left back member
    have behind := strict item member
    rw [leads item among] at behind
    cases behind
  rw [whole, others, nothing]
  rfl

end Stable

end KotlinAssist
