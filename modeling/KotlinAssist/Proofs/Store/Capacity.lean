import KotlinAssist.Proofs.Store.Run
import Mathlib.Order.MinMax

/-!
# The number of documents

An operation makes at most one document give way.  So no operation leaves more documents than there
were before it or than are allowed, and a store that is within its limit stays there; but a limit
that is lowered below the number of stored documents is not reached again by inserting documents.

## Main statements

* `Store.size_step_le` — how far one operation can fill a store
* `Store.WithinLimit.step` — a store within its limit stays there until the limit is lowered
* `Store.within_limit_after_insertion_iff` — when a store is within its limit after an insertion
* `Store.lowered_limit_exceeded` — a store that is not
-/

namespace KotlinAssist

namespace Store

/-- The store has no more documents than are allowed; one is always allowed. -/
def WithinLimit (store : Store) : Prop :=
  store.size ≤ max 1 store.maxDocuments

instance (store : Store) : Decidable store.WithinLimit :=
  inferInstanceAs (Decidable (_ ≤ _))

/-- Whether an operation brings in a document that is not stored. -/
def inserts (store : Store) (operation : Operation) : Bool :=
  match store.gives? operation with
  | some (uri, _) => !store.contains uri
  | none => false

/-! ## One operation -/

theorem length_uris (store : Store) : store.uris.length = store.size :=
  List.length_map _

/-- Touching a stored document makes no room necessary. -/
theorem size_touch_le {store : Store} {document : Document} (stored : document.uri ∈ store.uris) :
    (store.touch document).size ≤ store.size := by
  have fewer : (store.uris.filter (· != document.uri)).length < store.uris.length := by
    refine List.length_filter_lt_length_iff_exists.mpr ⟨document.uri, stored, ?_⟩
    simp
  rw [length_uris] at fewer
  rw [← length_uris, uris_touch, List.length_append, List.length_singleton]
  omega

/-- An operation leaves no more documents than there were, or than are allowed. -/
theorem size_step_le (store : Store) (operation : Operation) :
    (store.step operation).size ≤ max store.size (max 1 store.maxDocuments) := by
  obtain ⟨document, -, -, put⟩ | ⟨document, -, -, found, read⟩ | ⟨-, -, closed⟩ :=
    store.step_cases operation
  · rw [put, Store.put]
    split
    · next stored =>
      exact le_max_of_le_left (size_touch_le ((contains_iff store document.uri).mp stored))
    · rw [size_insert]
      split <;> omega
  · have stored : document.uri ∈ store.uris := by
      by_contra absent
      rw [← find?_eq_none_iff, found] at absent
      cases absent
    rw [size, read]
    exact le_max_of_le_left (size_touch_le stored)
  · rw [size, closed]
    exact le_max_of_le_left (List.length_filter_le _ _)

/-- A store within its limit stays there, unless the limit is set below the number of documents. -/
theorem WithinLimit.step {store : Store} (within : store.WithinLimit) {operation : Operation}
    (roomy : ∀ limit, operation = .setMaxDocuments limit → store.size ≤ max 1 limit) :
    (store.step operation).WithinLimit := by
  unfold WithinLimit at within ⊢
  cases operation with
  | setMaxDocuments limit => exact roomy limit rfl
  | _ =>
    -- all other operations keep the limit
    rw [maxDocuments_step]
    exact le_trans (store.size_step_le _) (max_le within le_rfl)

/-- An insertion leaves a store within its limit exactly if it was there before. -/
theorem withinLimit_step_iff {store : Store} {operation : Operation}
    (inserting : store.inserts operation = true) :
    (store.step operation).WithinLimit ↔ store.WithinLimit := by
  unfold inserts at inserting
  obtain ⟨document, gives, -, put⟩ | ⟨document, nothing, -⟩ | ⟨nothing, -⟩ :=
    store.step_cases operation
  · rw [gives, Bool.not_eq_true'] at inserting
    rw [put, WithinLimit, WithinLimit, maxDocuments_put, Store.put,
      if_neg (Bool.not_eq_true _ ▸ inserting), size_insert]
    split <;> omega
  · rw [nothing] at inserting
    cases inserting
  · rw [nothing] at inserting
    cases inserting

/-! ## Whole runs -/

/-- A run that never sets the limit below the number of documents keeps the store within it. -/
theorem withinLimit_of_mem_steps {start : Store} (within : start.WithinLimit)
    (operations : List Operation)
    (roomy : ∀ met limit, (met, .setMaxDocuments limit) ∈ start.steps operations →
      met.size ≤ max 1 limit) :
    (∀ met operation, (met, operation) ∈ start.steps operations → met.WithinLimit) ∧
      (start.after operations).WithinLimit := by
  refine forall_visits step within ?_
  intro met operation visited within
  refine within.step ?_
  rintro limit rfl
  exact roomy met limit visited

/-- **An insertion respects the limit if the documents before it did.**  At every insertion of a run,
whatever limits were set before, the store is within its limit afterwards if and only if it was
before; and so it is after every insertion if the limit is never set below the number of documents
that are stored at that moment. -/
theorem within_limit_after_insertion_iff (maxDocuments maxBytes : Nat)
    (operations : List Operation) (met : Store) (operation : Operation)
    (visited : (met, operation) ∈ (ofLimits maxDocuments maxBytes).steps operations)
    (inserting : met.inserts operation = true) :
    ((met.step operation).WithinLimit ↔ met.WithinLimit) ∧
      ((∀ earlier limit,
          (earlier, .setMaxDocuments limit) ∈ (ofLimits maxDocuments maxBytes).steps operations →
          earlier.size ≤ max 1 limit) →
        (met.step operation).WithinLimit) := by
  have exactly := withinLimit_step_iff inserting
  refine ⟨exactly, fun roomy => ?_⟩
  have empty : (ofLimits maxDocuments maxBytes).WithinLimit := Nat.zero_le _
  exact exactly.mpr ((withinLimit_of_mem_steps empty operations roomy).1 met operation visited)

/-- A limit set to the number of stored documents is respected by the next insertion. -/
theorem within_limit_after_insertion_iff_at_size :
    let opened (uri : Uri) : Operation := .openDocument uri "" 1 "kotlin"
    let operations := [opened "file:///a.kt", opened "file:///b.kt", .setMaxDocuments 2,
      opened "file:///c.kt"]
    ((ofLimits 5 10).after operations).WithinLimit ∧
      ((ofLimits 5 10).after operations).uris = ["file:///b.kt", "file:///c.kt"] := by
  intro opened operations
  have visited : ((ofLimits 5 10).after (operations.take 3), opened "file:///c.kt") ∈
      (ofLimits 5 10).steps operations := by decide
  have holds := within_limit_after_insertion_iff 5 10 operations _ _ visited (by decide)
  refine ⟨holds.2 ?_, by decide⟩
  intro earlier limit lowered
  have atTwo : ((earlier, .setMaxDocuments limit) : Store × Operation) =
      ((ofLimits 5 10).after (operations.take 2), .setMaxDocuments 2) := by
    simpa [steps, visits, after, operations, opened] using lowered
  cases atTwo
  decide

/-- A limit set below the number of stored documents is still exceeded after an insertion. -/
theorem lowered_limit_exceeded :
    let opened (uri : Uri) : Operation := .openDocument uri "" 1 "kotlin"
    let lowered := (ofLimits 3 10).after
      [opened "file:///a.kt", opened "file:///b.kt", opened "file:///c.kt", .setMaxDocuments 1]
    lowered.inserts (opened "file:///d.kt") = true ∧
      (lowered.step (opened "file:///d.kt")).maxDocuments = 1 ∧
      (lowered.step (opened "file:///d.kt")).size = 3 := by
  decide

end Store

end KotlinAssist
