import KotlinAssist.Proofs.Store.Capacity
import KotlinAssist.Proofs.Store.Stamps
import Mathlib.Data.List.Dedup
import Mathlib.Data.List.Perm.Subperm

/-!
# Who gives way

The documents of a store stand in the order of their last touches.  The names behind a document are
therefore names that were touched after it, and, as long as nothing is closed, all of them: each
touch appends its name, and what gives way stands in front.  A document is stored as long as fewer
others have been touched since its own last touch than documents are allowed.

## Main definitions

* `newer` — the names behind a given one
* `Store.yields` — whether an operation makes a document give way

## Main statements

* `Store.uris_step` — the names after any operation, in one equation
* `Store.newer_subset_touched` — a document stays, and only names touched since stand behind it
* `Store.touched_subset_newer` — all of them do, as long as nothing is closed
* `Store.least_recently_touched_gives_way` — which documents are stored after a run
-/

namespace KotlinAssist

/-! ## Names behind a name -/

/-- The names behind the first occurrence of a name. -/
def newer (uri : Uri) (uris : List Uri) : List Uri :=
  (uris.dropWhile (· != uri)).tail

theorem newer_append_cons {uri : Uri} {older : List Uri} (fresh : uri ∉ older) (rest : List Uri) :
    newer uri (older ++ uri :: rest) = rest := by
  have passed : ∀ other ∈ older, (other != uri) = true := by
    intro other present
    rw [bne_iff_ne]
    rintro rfl
    exact fresh present
  rw [newer, List.dropWhile_append_of_pos passed]
  simp

/-- Names that come last are behind, and names that are left out are not. -/
theorem newer_filter_append {uri : Uri} {uris : List Uri} (stored : uri ∈ uris)
    {keep : Uri → Bool} (kept : keep uri = true) (more : List Uri) :
    newer uri (uris.filter keep ++ more) = (newer uri uris).filter keep ++ more := by
  obtain ⟨older, rest, rfl, fresh⟩ := List.eq_append_cons_of_mem stored
  rw [newer_append_cons fresh, List.filter_append, List.filter_cons_of_pos kept,
    List.append_assoc, List.cons_append]
  exact newer_append_cons (fun present => fresh (List.mem_of_mem_filter present)) _

theorem newer_tail {uri : Uri} {uris : List Uri} (distinct : uris.Nodup)
    (stored : uri ∈ uris.tail) : newer uri uris.tail = newer uri uris := by
  cases uris with
  | nil => cases stored
  | cons first rest =>
    have different : first ≠ uri := by
      rintro rfl
      exact (List.nodup_cons.mp distinct).1 stored
    simp [newer, different]

theorem length_newer_lt {uri : Uri} {uris : List Uri} (stored : uri ∈ uris) :
    (newer uri uris).length < uris.length := by
  obtain ⟨older, rest, rfl, fresh⟩ := List.eq_append_cons_of_mem stored
  rw [newer_append_cons fresh, List.length_append, List.length_cons]
  omega

namespace Store

/-! ## Names after an operation -/

/-- Whether an operation makes a document give way. -/
def yields (store : Store) (operation : Operation) : Bool :=
  store.inserts operation && decide (store.maxDocuments ≤ store.size)

/-- Whether a name keeps its place: it is neither closed nor touched. -/
def keepsPlace (store : Store) (operation : Operation) (uri : Uri) : Bool :=
  !operation.discards uri && store.touches? operation != some uri

/-- The names in front of the one that an operation touches. -/
def remaining (store : Store) (operation : Operation) : List Uri :=
  if store.yields operation then store.uris.tail else store.uris

/-- Closed names are left out, the first name may give way, and a touched name comes last. -/
theorem uris_step (store : Store) (operation : Operation) :
    (store.step operation).uris =
      (store.remaining operation).filter (store.keepsPlace operation) ++
        (store.touches? operation).toList := by
  obtain ⟨document, gives, touches, put⟩ | ⟨document, gives, touches, -, read⟩ |
      ⟨gives, touches, closed⟩ := store.step_cases operation
  · have place : store.keepsPlace operation = (· != document.uri) := by
      funext uri
      simp [keepsPlace, discards_of_touches? touches, touches, bne, Bool.beq_comm]
    rw [put, place, touches, Option.toList_some, Store.put]
    split
    · next stored =>
      have stays : store.yields operation = false := by simp [yields, inserts, gives, stored]
      rw [uris_touch, remaining, stays]
      rfl
    · next absent =>
      rw [remaining, uris, documents_insert, List.map_append, staying]
      rw [contains_iff] at absent
      have others : ∀ uri ∈ store.uris, (uri != document.uri) = true := by
        intro uri present
        rw [bne_iff_ne]
        rintro rfl
        exact absent present
      have missing : store.contains document.uri = false := by
        rw [← Bool.not_eq_true, contains_iff]
        exact absent
      by_cases full : store.maxDocuments ≤ store.size
      · have gives : store.yields operation = true := by simp [yields, inserts, gives, missing, full]
        rw [gives, if_pos full, if_pos rfl, List.map_tail,
          List.filter_eq_self.mpr fun uri present => others uri (List.mem_of_mem_tail present)]
        rfl
      · have stays : store.yields operation = false := by simp [yields, full]
        rw [stays, if_neg full, if_neg Bool.false_ne_true, List.filter_eq_self.mpr others]
        rfl
  · have place : store.keepsPlace operation = (· != document.uri) := by
      funext uri
      simp [keepsPlace, discards_of_touches? touches, touches, bne, Bool.beq_comm]
    have stays : store.yields operation = false := by simp [yields, inserts, gives]
    rw [uris, read, ← uris, uris_touch, remaining, stays, place, touches]
    rfl
  · have place : store.keepsPlace operation = fun uri => !operation.discards uri := by
      funext uri
      simp [keepsPlace, touches]
    have stays : store.yields operation = false := by simp [yields, inserts, gives]
    rw [uris, closed, remaining, stays, place, touches, uris, Option.toList_none, List.append_nil]
    simp only [Bool.false_eq_true, if_false, List.filter_map]
    rfl

/-- An operation that makes a document give way touches a name that was not stored. -/
theorem touches?_of_yields {store : Store} {operation : Operation}
    (yields : store.yields operation = true) :
    store.maxDocuments ≤ store.size ∧
      ∃ inserted, store.touches? operation = some inserted ∧ inserted ∉ store.uris := by
  simp only [Store.yields, inserts, Bool.and_eq_true, decide_eq_true_eq] at yields
  refine ⟨yields.2, ?_⟩
  obtain ⟨document, gives, touches, -⟩ | ⟨document, gives, -⟩ | ⟨gives, -⟩ :=
    store.step_cases operation
  · rw [gives, Bool.not_eq_true', ← Bool.not_eq_true, contains_iff] at yields
    exact ⟨document.uri, touches, yields.1⟩
  · rw [gives] at yields
    cases yields.1
  · rw [gives] at yields
    cases yields.1

theorem keepsPlace_of_untouched {store : Store} {operation : Operation} {uri : Uri}
    (untouched : store.touches? operation ≠ some uri) (notClosed : operation.discards uri = false) :
    store.keepsPlace operation uri = true := by
  simp [keepsPlace, untouched, notClosed]

/-- The names behind a name that stays, after an operation that does not touch it. -/
theorem newer_step {store : Store} (distinct : store.Distinct) {operation : Operation} {uri : Uri}
    (untouched : store.touches? operation ≠ some uri) (notClosed : operation.discards uri = false)
    (stays : uri ∈ store.remaining operation) :
    newer uri (store.step operation).uris =
      (newer uri store.uris).filter (store.keepsPlace operation) ++
        (store.touches? operation).toList := by
  rw [uris_step, newer_filter_append stays (keepsPlace_of_untouched untouched notClosed)]
  unfold remaining at stays ⊢
  split
  · next yields =>
    rw [if_pos yields] at stays
    rw [newer_tail distinct stays]
  · rfl

/-! ## One operation -/

/-- A document stands in the store, and only the names listed have been touched after it. -/
structure RecentUpTo (store : Store) (uri : Uri) (others : List Uri) : Prop where
  stored : uri ∈ store.uris
  newer_subset : newer uri store.uris ⊆ others

theorem length_dedup_le_of_subset {names others : List Uri} (distinct : names.Nodup)
    (subset : names ⊆ others) : names.length ≤ others.dedup.length :=
  (distinct.subperm fun _ present => List.mem_dedup.mpr (subset present)).length_le

/-- A document does not give way while few others have been touched since it was: all documents
behind it have, and the one that comes in as well. -/
theorem RecentUpTo.step {store : Store} {uri : Uri} {others : List Uri}
    (recent : store.RecentUpTo uri others) (distinct : store.Distinct) {operation : Operation}
    (untouched : store.touches? operation ≠ some uri) (notClosed : operation.discards uri = false)
    (few : (others ++ (store.touches? operation).toList).dedup.length < store.maxDocuments) :
    (store.step operation).RecentUpTo uri (others ++ (store.touches? operation).toList) := by
  have stays : uri ∈ store.remaining operation := by
    unfold remaining
    split
    · next yields =>
      obtain ⟨full, inserted, touches, absent⟩ := touches?_of_yields yields
      cases names : store.uris with
      | nil => exact absurd recent.stored (by simp [names])
      | cons first rest =>
        by_contra gone
        -- only the first name can be gone, and then all others stand behind it
        have isFirst : uri = first := by
          rcases List.mem_cons.mp (names ▸ recent.stored) with same | later
          · exact same
          · exact absurd later gone
        subst isFirst
        have behind : newer uri store.uris = rest := by
          simp [names, newer]
        have fresh : (inserted :: rest).Nodup := by
          rw [names, List.mem_cons, not_or] at absent
          rw [Distinct, names] at distinct
          exact List.nodup_cons.mpr ⟨absent.2, (List.nodup_cons.mp distinct).2⟩
        have covered : inserted :: rest ⊆ others ++ (store.touches? operation).toList := by
          rw [touches]
          intro other present
          rcases List.mem_cons.mp present with rfl | later
          · simp
          · exact List.mem_append_left _ (recent.newer_subset (behind ▸ later))
        have many := length_dedup_le_of_subset fresh covered
        have size : store.size = rest.length + 1 := by
          rw [← length_uris, names, List.length_cons]
        rw [List.length_cons] at many
        omega
    · exact recent.stored
  constructor
  · rw [uris_step]
    exact List.mem_append_left _
      (List.mem_filter.mpr ⟨stays, keepsPlace_of_untouched untouched notClosed⟩)
  · rw [newer_step distinct untouched notClosed stays]
    intro other present
    rcases List.mem_append.mp present with behind | touched
    · exact List.mem_append_left _ (recent.newer_subset (List.mem_of_mem_filter behind))
    · exact List.mem_append_right _ touched

/-- As long as nothing is closed, every name touched since stands behind a document that is still
stored. -/
theorem subset_newer_step {store : Store} (distinct : store.Distinct) {operation : Operation}
    {uri : Uri} {others : List Uri} (before : uri ∈ store.uris → others ⊆ newer uri store.uris)
    (untouched : store.touches? operation ≠ some uri)
    (keepsAll : ∀ other, operation.discards other = false)
    (stored : uri ∈ (store.step operation).uris) :
    others ++ (store.touches? operation).toList ⊆ newer uri (store.step operation).uris := by
  rw [uris_step, List.mem_append, Option.mem_toList] at stored
  have stays := List.mem_of_mem_filter (stored.resolve_right untouched)
  have storedBefore : uri ∈ store.uris := by
    unfold remaining at stays
    split at stays
    · exact List.mem_of_mem_tail stays
    · exact stays
  rw [newer_step distinct untouched (keepsAll uri) stays]
  intro other present
  by_cases touches : store.touches? operation = some other
  · exact List.mem_append_right _ (by simp [touches])
  · rw [List.mem_append, Option.mem_toList] at present
    have behind := before storedBefore (present.resolve_right touches)
    exact List.mem_append_left _
      (List.mem_filter.mpr ⟨behind, keepsPlace_of_untouched touches (keepsAll other)⟩)

/-- Nothing stands behind a name that has just been touched. -/
theorem newer_of_touched {store : Store} {operation : Operation} {uri : Uri}
    (touches : store.touches? operation = some uri) :
    uri ∈ (store.step operation).uris ∧ newer uri (store.step operation).uris = [] := by
  rw [uris_step, touches, Option.toList_some]
  refine ⟨List.mem_append_right _ (List.mem_singleton_self uri), newer_append_cons ?_ []⟩
  intro present
  have place := (List.mem_filter.mp present).2
  simp [keepsPlace, touches] at place

/-! ## Whole runs -/

theorem maxDocuments_after {store : Store} {operations : List Operation}
    (constant : ∀ limit, .setMaxDocuments limit ∉ operations) :
    (store.after operations).maxDocuments = store.maxDocuments := by
  induction operations using List.reverseRecOn with
  | nil => rfl
  | append_singleton operations last ih =>
    simp only [List.mem_append, List.mem_singleton, not_or] at constant
    rw [after_append, after_singleton, maxDocuments_step]
    split
    · next limit => exact absurd rfl (constant limit).2
    · exact ih fun limit => (constant limit).1

section Since

variable {store : Store} {uri : Uri} {since : List Operation}

/-- A document that was touched last stays while few others are touched, and only these stand behind
it. -/
theorem newer_subset_touched (distinct : store.Distinct)
    (justTouched : store.RecentUpTo uri []) (untouched : uri ∉ store.touched since)
    (notClosed : ∀ operation ∈ since, operation.discards uri = false)
    (constant : ∀ limit, .setMaxDocuments limit ∉ since)
    (few : (store.touched since).dedup.length < store.maxDocuments) :
    (store.after since).RecentUpTo uri (store.touched since) := by
  induction since using List.reverseRecOn with
  | nil => exact justTouched
  | append_singleton since last ih =>
    simp only [List.mem_append, List.mem_singleton, not_or] at constant
    simp only [List.forall_mem_append, List.forall_mem_singleton] at notClosed
    rw [touched_concat] at untouched few ⊢
    rw [List.mem_append, Option.mem_toList, not_or] at untouched
    have fewer : (store.touched since).dedup.length < store.maxDocuments := by
      refine lt_of_le_of_lt (length_dedup_le_of_subset (List.nodup_dedup _) ?_) few
      intro other present
      exact List.mem_append_left _ (List.mem_dedup.mp present)
    have recent := ih untouched.1 notClosed.1 (fun limit => (constant limit).1) fewer
    rw [after_append, after_singleton]
    refine recent.step (distinct.after since) untouched.2 notClosed.2 ?_
    rw [maxDocuments_after fun limit => (constant limit).1]
    exact few

/-- While nothing is closed, everything touched since stands behind a document that is stored. -/
theorem touched_subset_newer (distinct : store.Distinct) (untouched : uri ∉ store.touched since)
    (keepsAll : ∀ operation ∈ since, ∀ other, operation.discards other = false)
    (stored : uri ∈ (store.after since).uris) :
    store.touched since ⊆ newer uri (store.after since).uris := by
  induction since using List.reverseRecOn with
  | nil => exact List.nil_subset _
  | append_singleton since last ih =>
    simp only [List.forall_mem_append, List.forall_mem_singleton] at keepsAll
    rw [touched_concat] at untouched ⊢
    rw [List.mem_append, Option.mem_toList, not_or] at untouched
    rw [after_append, after_singleton] at stored ⊢
    exact subset_newer_step (distinct.after since) (ih untouched.1 keepsAll.1) untouched.2
      keepsAll.2 stored

end Since

/-- **The documents touched least recently give way, and no others.**  In every run of a store that
allows a fixed number of documents, no more than these are stored.  A document that was not closed
since its last touch is stored, with the text it was given last, if fewer others than are allowed
have been touched since; and if nothing at all was closed since, it is stored no more when that many
others have been touched.  A store that goes by the times of the touches has the same documents. -/
theorem least_recently_touched_gives_way (limit maxBytes : Nat) (positive : 1 ≤ limit)
    (operations : List Operation) (constant : ∀ other, .setMaxDocuments other ∉ operations) :
    let start := ofLimits limit maxBytes
    let store := start.after operations
    store.size ≤ limit ∧
      (∀ before touching since uri, operations = before ++ touching :: since →
        (start.after before).touches? touching = some uri →
        let touched := (start.after (before ++ [touching])).touched since
        uri ∉ touched → (∀ operation ∈ since, operation.discards uri = false) →
        (touched.dedup.length < limit →
          ∃ document, store.find? uri = some document ∧
            start.lastText? operations uri = some document.text) ∧
        ((∀ operation ∈ since, ∀ other, operation.discards other = false) →
          limit ≤ touched.dedup.length → store.find? uri = none)) ∧
      ∀ (Time : Type) [LinearOrder Time] (clock : ℕ → Time)
        (scan : List (Stamped Time) → List (Stamped Time)), StrictMono clock →
        (∀ entries, (scan entries).Perm entries) →
        (StampedStore.after scan clock ⟨[], limit, maxBytes⟩ operations).plain.documents.Perm
          store.documents := by
  intro start store
  have distinct : start.Distinct := distinct_ofLimits limit maxBytes
  have small : store.size ≤ limit := by
    have empty : start.WithinLimit := Nat.zero_le _
    have within := (withinLimit_of_mem_steps empty operations ?_).2
    · rw [WithinLimit, maxDocuments_after constant] at within
      exact within.trans (max_le positive le_rfl)
    · intro met other visited
      obtain ⟨before, rest, split, -⟩ := (mem_visits_iff step).mp visited
      exact absurd (split ▸ List.mem_append_right _ (List.mem_cons_self ..)) (constant other)
  refine ⟨small, ?_, ?_⟩
  · intro before touching since uri split touches touched untouched notClosed
    subst split
    have reached : store = (start.after (before ++ [touching])).after since := by
      rw [← after_append, List.append_assoc, List.singleton_append]
    have distinctThen := distinct.after (before ++ [touching])
    have limitThen : (start.after (before ++ [touching])).maxDocuments = limit := by
      refine maxDocuments_after fun other => ?_
      have absent := constant other
      simp only [List.mem_append, List.mem_cons, not_or] at absent ⊢
      exact ⟨absent.1, absent.2.1, List.not_mem_nil⟩
    have justTouched : (start.after (before ++ [touching])).RecentUpTo uri [] := by
      rw [after_append, after_singleton]
      obtain ⟨stored, nothing⟩ := newer_of_touched touches
      exact ⟨stored, nothing ▸ List.Subset.refl _⟩
    refine ⟨fun few => ?_, fun keepsAll many => ?_⟩
    · have recent := newer_subset_touched distinctThen justTouched untouched notClosed
        (fun other present => constant other
          (List.mem_append_right _ (List.mem_cons_of_mem _ present)))
        (limitThen.symm ▸ few)
      rw [← reached] at recent
      obtain ⟨document, found⟩ := Option.isSome_iff_exists.mp
        ((contains_iff store uri).mpr recent.stored)
      exact ⟨document, found, lastText?_of_find? limit maxBytes _ found⟩
    · rw [find?_eq_none_iff]
      intro stored
      have behind := touched_subset_newer distinctThen untouched keepsAll (reached ▸ stored)
      rw [← reached] at behind
      -- all that was touched since stands behind the document, and there is no room for it all
      have room := length_newer_lt stored
      have fits : touched.dedup.length ≤ (newer uri store.uris).length :=
        ((List.nodup_dedup touched).subperm fun other present =>
          behind (List.mem_dedup.mp present)).length_le
      rw [length_uris] at room
      omega
  · intro Time _ clock scan movesOn listing
    exact (StampedStore.represents_after movesOn listing limit maxBytes operations).1.documents_perm

/-- Reading a document saves it from giving way, and the other one gives way in its place. -/
theorem least_recently_touched_gives_way_after_read :
    let opened (uri : Uri) : Operation := .openDocument uri "val x" 1 "kotlin"
    let store := (ofLimits 2 10).after [opened "file:///a.kt", opened "file:///b.kt",
      .snapshot "file:///a.kt", opened "file:///c.kt"]
    (∃ document, store.find? "file:///a.kt" = some document ∧ document.text = "val x") ∧
      store.find? "file:///b.kt" = none := by
  intro opened store
  have constant : ∀ other, .setMaxDocuments other ∉ [opened "file:///a.kt", opened "file:///b.kt",
      .snapshot "file:///a.kt", opened "file:///c.kt"] := by
    simp [opened]
  obtain ⟨-, recency, -⟩ := least_recently_touched_gives_way 2 10 (by decide) _ constant
  constructor
  · have kept := (recency [opened "file:///a.kt", opened "file:///b.kt"] (.snapshot "file:///a.kt")
      [opened "file:///c.kt"] "file:///a.kt" rfl (by decide) (by decide) (by decide)).1 (by decide)
    obtain ⟨document, found, last⟩ := kept
    have given : (ofLimits 2 10).lastText? [opened "file:///a.kt", opened "file:///b.kt",
        .snapshot "file:///a.kt", opened "file:///c.kt"] "file:///a.kt" = some "val x" := by decide
    rw [given] at last
    exact ⟨document, found, (Option.some.inj last).symm⟩
  · exact (recency [opened "file:///a.kt"] (opened "file:///b.kt")
      [.snapshot "file:///a.kt", opened "file:///c.kt"] "file:///b.kt" rfl (by decide) (by decide)
      (by decide)).2 (by simp [Operation.discards, opened]) (by decide)

end Store

end KotlinAssist
