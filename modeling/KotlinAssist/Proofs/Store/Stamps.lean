import KotlinAssist.Proofs.Store.Run
import Mathlib.Order.Lattice

/-!
# Times of touches

The order in which a store lists its documents stands for the times of their last touches.  Here is
the store that keeps the times: its documents stand in no particular order, each with the reading of
a clock, and the one to give way is looked for among all of them.  As long as the clock moves on
between two touches, both have the same documents after every run.

## Main definitions

* `Stamped`, `StampedStore` — documents with the times of their last touches
* `Stamped.oldest?` — the entry with the earliest time, by going through all of them
* `StampedStore.after` — a run by a given clock
* `StampedStore.Represents` — the entries in the order of their times are the documents of a store

## Main statements

* `Stamped.oldest?_eq_head?` — the earliest entry is the first one by time, however they are listed
* `StampedStore.Represents.step` — one operation keeps the two stores together
* `StampedStore.represents_after` — so does every run
-/

namespace KotlinAssist

variable {Time : Type} [LinearOrder Time]

/-- A document, and the time of its last touch. -/
structure Stamped (Time : Type) where
  document : Document
  time : Time

/-- A store that keeps its documents in no particular order, with the times of their last touches. -/
structure StampedStore (Time : Type) where
  entries : List (Stamped Time) := []
  maxDocuments : Nat
  maxBytes : Nat

namespace Stamped

/-- The earlier of the entry found so far and another one; the first of two of the same time. -/
def earlier (best : Option (Stamped Time)) (entry : Stamped Time) : Option (Stamped Time) :=
  match best with
  | none => some entry
  | some found => if entry.time < found.time then some entry else some found

/-- The entry with the earliest time. -/
def oldest? (entries : List (Stamped Time)) : Option (Stamped Time) :=
  entries.foldl earlier none

theorem foldl_earlier_some (entries : List (Stamped Time)) (best : Stamped Time) :
    ∃ found, entries.foldl earlier (some best) = some found ∧ found ∈ best :: entries ∧
      ∀ entry ∈ best :: entries, found.time ≤ entry.time := by
  induction entries generalizing best with
  | nil => exact ⟨best, rfl, List.mem_singleton_self best, by simp⟩
  | cons next entries ih =>
    rw [List.foldl_cons, earlier]
    split
    · next sooner =>
      obtain ⟨found, found_eq, member, least⟩ := ih next
      refine ⟨found, found_eq, List.mem_cons_of_mem _ member, ?_⟩
      intro entry listed
      rcases List.mem_cons.mp listed with rfl | later
      · exact (least next (List.mem_cons_self ..)).trans sooner.le
      · exact least entry later
    · next notSooner =>
      obtain ⟨found, found_eq, member, least⟩ := ih best
      refine ⟨found, found_eq, ?_, ?_⟩
      · rcases List.mem_cons.mp member with rfl | later
        · exact List.mem_cons_self ..
        · exact List.mem_cons_of_mem _ (List.mem_cons_of_mem _ later)
      · intro entry listed
        rcases List.mem_cons.mp listed with rfl | later
        · exact least entry (List.mem_cons_self ..)
        · rcases List.mem_cons.mp later with rfl | later
          · exact (least best (List.mem_cons_self ..)).trans (not_lt.mp notSooner)
          · exact least entry (List.mem_cons_of_mem _ later)

/-- The entry with the earliest time is the first in the order of the times, in whatever order the
entries are gone through. -/
theorem oldest?_eq_head? {entries ordered : List (Stamped Time)} (listed : entries.Perm ordered)
    (sorted : ordered.Pairwise (·.time < ·.time)) : oldest? entries = ordered.head? := by
  cases entries with
  | nil =>
    rw [List.nil_perm.mp listed]
    rfl
  | cons next entries =>
    obtain ⟨found, found_eq, member, least⟩ := foldl_earlier_some entries next
    rw [oldest?, List.foldl_cons, earlier, found_eq]
    cases ordered with
    | nil => exact absurd (listed.subset member) List.not_mem_nil
    | cons first rest =>
      rcases List.mem_cons.mp (listed.subset member) with rfl | later
      · rfl
      · have sooner := (List.pairwise_cons.mp sorted).1 found later
        have atMost := least first (listed.symm.subset (List.mem_cons_self ..))
        exact absurd sooner (not_lt.mpr atMost)

/-- An entry for a document, stamped anew when it is the one touched. -/
def restamp (document : Document) (now : Time) (entry : Stamped Time) : Stamped Time :=
  if entry.document.uri = document.uri then ⟨document, now⟩ else entry

omit [LinearOrder Time] in
/-- Stamping one entry anew is leaving it out and listing it last. -/
theorem map_restamp_perm {entries : List (Stamped Time)} {document : Document} (now : Time)
    (distinct : (entries.map (·.document.uri)).Nodup)
    (stored : document.uri ∈ entries.map (·.document.uri)) :
    (entries.map (restamp document now)).Perm
      (entries.filter (·.document.uri != document.uri) ++ [⟨document, now⟩]) := by
  induction entries with
  | nil => cases stored
  | cons entry entries ih =>
    rw [List.map_cons, List.nodup_cons] at distinct
    by_cases same : entry.document.uri = document.uri
    · have others : ∀ other ∈ entries, other.document.uri ≠ document.uri := by
        intro other listed equal
        rw [same, ← equal] at distinct
        exact distinct.1 (List.mem_map_of_mem listed)
      have unchanged : entries.map (restamp document now) = entries.map id :=
        List.map_congr_left fun other listed => if_neg (others other listed)
      have kept : entries.filter (·.document.uri != document.uri) = entries :=
        List.filter_eq_self.mpr fun other listed => bne_iff_ne.mpr (others other listed)
      rw [List.map_cons, unchanged, List.map_id, restamp, if_pos same,
        List.filter_cons_of_neg (by simp [same]), kept]
      exact (List.perm_append_singleton _ entries).symm
    · rw [List.map_cons, List.mem_cons] at stored
      rw [List.map_cons, restamp, if_neg same, List.filter_cons_of_pos (by simp [same])]
      exact (ih distinct.2 (stored.resolve_left (Ne.symm same))).cons entry

end Stamped

/-! ## Stores with times -/

namespace StampedStore

/-- The documents without their times. -/
def plain (stamped : StampedStore Time) : Store :=
  { documents := stamped.entries.map (·.document)
    maxDocuments := stamped.maxDocuments
    maxBytes := stamped.maxBytes }

/-- The entries that stay when one more is to come in.  The entries are gone through as `scan` lists
them. -/
def staying (scan : List (Stamped Time) → List (Stamped Time)) (stamped : StampedStore Time) :
    List (Stamped Time) :=
  if stamped.maxDocuments ≤ stamped.entries.length then
    match Stamped.oldest? (scan stamped.entries) with
    | some oldest => stamped.entries.filter (·.document.uri != oldest.document.uri)
    | none => stamped.entries
  else stamped.entries

variable (scan : List (Stamped Time) → List (Stamped Time)) (now : Time)

/-- Touches a document: one that is stored is replaced where it stands, and any other comes in. -/
def put (stamped : StampedStore Time) (document : Document) : StampedStore Time :=
  { stamped with
    entries :=
      if stamped.plain.contains document.uri then
        stamped.entries.map (Stamped.restamp document now)
      else ⟨document, now⟩ :: stamped.staying scan }

/-- What an operation does at a given time. -/
def step (stamped : StampedStore Time) : Store.Operation → StampedStore Time
  | .openDocument uri text version language =>
    if stamped.maxBytes < text.utf8ByteSize then stamped
    else stamped.put scan now ⟨uri, text, stamped.plain.versionAfter uri (some version), language⟩
  | .update uri text version =>
    if stamped.maxBytes < text.utf8ByteSize then stamped
    else stamped.put scan now
      ⟨uri, text, stamped.plain.versionAfter uri version, stamped.plain.languageAfter uri⟩
  | .snapshot uri =>
    match stamped.plain.find? uri with
    | some document => stamped.put scan now document
    | none => stamped
  | .remove uri => { stamped with entries := stamped.entries.filter (·.document.uri != uri) }
  | .clear => { stamped with entries := [] }
  | .setMaxDocuments limit => { stamped with maxDocuments := limit }
  | .setMaxBytes limit => { stamped with maxBytes := limit }
  | .inspect => stamped

/-- The store after a list of operations, each made at the next reading of a clock. -/
def after (clock : ℕ → Time) (stamped : StampedStore Time) (operations : List Store.Operation) :
    StampedStore Time :=
  operations.zipIdx.foldl (fun met (operation, reading) => met.step scan (clock reading) operation)
    stamped

/-- A store with times represents one without when its entries, in the order of their times, are the
documents of that one, and the limits are the same. -/
structure Represents (stamped : StampedStore Time) (store : Store) : Prop where
  maxDocuments : stamped.maxDocuments = store.maxDocuments
  maxBytes : stamped.maxBytes = store.maxBytes
  ordered : ∃ ordered : List (Stamped Time), ordered.Perm stamped.entries ∧
    ordered.Pairwise (·.time < ·.time) ∧ ordered.map (·.document) = store.documents

namespace Represents

variable {scan now} {stamped : StampedStore Time} {store : Store}

theorem documents_perm (represents : stamped.Represents store) :
    stamped.plain.documents.Perm store.documents := by
  obtain ⟨ordered, perm, -, documents⟩ := represents.ordered
  rw [← documents]
  exact (perm.map _).symm

theorem distinct_plain (represents : stamped.Represents store) (distinct : store.Distinct) :
    stamped.plain.Distinct :=
  (represents.documents_perm.map Document.uri).nodup_iff.mpr distinct

/-- Both stores find the same documents. -/
theorem find?_plain (represents : stamped.Represents store) (distinct : store.Distinct)
    (uri : Uri) : stamped.plain.find? uri = store.find? uri := by
  ext document
  rw [(represents.distinct_plain distinct).find?_eq_some_iff, distinct.find?_eq_some_iff,
    represents.documents_perm.mem_iff]

/-- The entry that gives way is the first in the order of the times. -/
theorem staying_perm {ordered : List (Stamped Time)} (perm : ordered.Perm stamped.entries)
    (sorted : ordered.Pairwise (·.time < ·.time))
    (distinct : (ordered.map (·.document.uri)).Nodup)
    (listing : ∀ entries, (scan entries).Perm entries) :
    (stamped.staying scan).Perm
      (if stamped.maxDocuments ≤ stamped.entries.length then ordered.tail else ordered) := by
  unfold staying
  split
  · rw [Stamped.oldest?_eq_head? ((listing stamped.entries).trans perm.symm) sorted]
    cases ordered with
    | nil => exact perm.symm
    | cons first rest =>
      have others : ∀ entry ∈ rest, entry.document.uri ≠ first.document.uri := by
        intro entry listed same
        rw [List.map_cons, List.nodup_cons, ← same] at distinct
        exact distinct.1 (List.mem_map_of_mem listed)
      have left : (first :: rest).filter (·.document.uri != first.document.uri) = rest := by
        rw [List.filter_cons_of_neg (by simp)]
        exact List.filter_eq_self.mpr fun entry listed => bne_iff_ne.mpr (others entry listed)
      have filtered := perm.symm.filter (·.document.uri != first.document.uri)
      rw [left] at filtered
      exact filtered
  · exact perm.symm

/-- Touching a document keeps the stores together when its time is later than all others. -/
theorem put (represents : stamped.Represents store) (distinct : store.Distinct)
    (listing : ∀ entries, (scan entries).Perm entries)
    (past : ∀ entry ∈ stamped.entries, entry.time < now) (document : Document) :
    (stamped.put scan now document).Represents (store.put document) where
  maxDocuments := by
    rw [Store.maxDocuments_put]
    exact represents.maxDocuments
  maxBytes := by
    rw [Store.maxBytes_put]
    exact represents.maxBytes
  ordered := by
    obtain ⟨ordered, perm, sorted, documents⟩ := represents.ordered
    let last : Stamped Time := ⟨document, now⟩
    have mapped : ordered.map (·.document.uri) = store.uris := by
      rw [Store.uris, ← documents, List.map_map]
      rfl
    have names : (ordered.map (·.document.uri)).Nodup := mapped ▸ distinct
    -- whatever stays comes before the entry that is touched now
    have sorted_concat (kept : List (Stamped Time)) (part : kept.Sublist ordered) :
        (kept ++ [last]).Pairwise (·.time < ·.time) := by
      refine List.pairwise_append.mpr ⟨sorted.sublist part, List.pairwise_singleton .., ?_⟩
      intro entry present other isLast
      rw [List.mem_singleton.mp isLast]
      exact past entry (perm.subset (part.subset present))
    have same : stamped.plain.contains document.uri = store.contains document.uri := by
      rw [Store.contains, Store.contains, represents.find?_plain distinct]
    simp only [StampedStore.put, Store.put, same]
    split
    · next stored =>
      rw [Store.contains_iff, ← mapped] at stored
      refine ⟨ordered.filter (·.document.uri != document.uri) ++ [last], ?_,
        sorted_concat _ List.filter_sublist, ?_⟩
      · exact (Stamped.map_restamp_perm now names stored).symm.trans (perm.map _)
      · rw [List.map_append, Store.touch, ← documents, List.filter_map]
        rfl
    · refine ⟨(if stamped.maxDocuments ≤ stamped.entries.length then ordered.tail else ordered) ++
          [last], ?_, sorted_concat _ ?_, ?_⟩
      · exact (List.perm_append_singleton last _).trans
          ((staying_perm perm sorted names listing).symm.cons last)
      · split
        · exact List.tail_sublist ordered
        · exact List.Sublist.refl ordered
      · have size : stamped.entries.length = store.size := by
          rw [← perm.length_eq, Store.size, ← documents, List.length_map]
        rw [Store.documents_insert, Store.staying, List.map_append, size, represents.maxDocuments,
          ← documents]
        split <;> simp [List.map_tail, last]

/-- **One operation keeps the two stores together** when it is made later than all touches. -/
theorem step (represents : stamped.Represents store) (distinct : store.Distinct)
    (listing : ∀ entries, (scan entries).Perm entries)
    (past : ∀ entry ∈ stamped.entries, entry.time < now) (operation : Store.Operation) :
    (stamped.step scan now operation).Represents (store.step operation) := by
  have version (uri : Uri) (supplied : Option Int) :
      stamped.plain.versionAfter uri supplied = store.versionAfter uri supplied := by
    rw [Store.versionAfter, Store.versionAfter, represents.find?_plain distinct]
  have language (uri : Uri) : stamped.plain.languageAfter uri = store.languageAfter uri := by
    rw [Store.languageAfter, Store.languageAfter, represents.find?_plain distinct]
  have touch := represents.put distinct listing past
  obtain ⟨ordered, perm, sorted, documents⟩ := represents.ordered
  cases operation with
  | openDocument uri text newVersion newLanguage =>
    simp only [StampedStore.step, Store.step, Store.openDocument_eq, represents.maxBytes, version]
    split
    · exact represents
    · exact touch _
  | update uri text newVersion =>
    simp only [StampedStore.step, Store.step, Store.update_eq, represents.maxBytes, version,
      language]
    split
    · exact represents
    · exact touch _
  | snapshot uri =>
    simp only [StampedStore.step, Store.step, Store.snapshot, represents.find?_plain distinct]
    cases found : store.find? uri with
    | none => exact ⟨represents.maxDocuments, represents.maxBytes, ordered, perm, sorted, documents⟩
    | some document =>
      have stored : store.contains document.uri = true := by
        rw [Store.uri_of_find? found, Store.contains, found]
        rfl
      have touched := touch document
      rw [Store.put, if_pos stored] at touched
      exact ⟨touched.maxDocuments, touched.maxBytes, touched.ordered⟩
  | remove uri =>
    refine ⟨represents.maxDocuments, represents.maxBytes,
      ordered.filter (·.document.uri != uri), perm.filter _, sorted.sublist List.filter_sublist, ?_⟩
    simp only [Store.step, Store.remove, ← documents, List.filter_map]
    rfl
  | clear => exact ⟨represents.maxDocuments, represents.maxBytes, [], .nil, .nil, rfl⟩
  | setMaxDocuments limit => exact ⟨rfl, represents.maxBytes, ordered, perm, sorted, documents⟩
  | setMaxBytes limit => exact ⟨represents.maxDocuments, rfl, ordered, perm, sorted, documents⟩
  | inspect => exact represents

end Represents

/-! ## Whole runs -/

section Runs

variable {scan now} {stamped : StampedStore Time}

theorem mem_of_mem_staying {entry : Stamped Time} (stays : entry ∈ stamped.staying scan) :
    entry ∈ stamped.entries := by
  unfold staying at stays
  split at stays
  · split at stays
    · exact List.mem_of_mem_filter stays
    · exact stays
  · exact stays

theorem time_of_mem_put {document : Document} {entry : Stamped Time}
    (present : entry ∈ (stamped.put scan now document).entries) :
    entry.time = now ∨ entry ∈ stamped.entries := by
  unfold put at present
  split at present
  · obtain ⟨before, stored, rfl⟩ := List.mem_map.mp present
    unfold Stamped.restamp
    split
    · exact .inl rfl
    · exact .inr stored
  · rcases List.mem_cons.mp present with rfl | stays
    · exact .inl rfl
    · exact .inr (mem_of_mem_staying stays)

/-- Every entry has the time of the operation, or was there before. -/
theorem time_of_mem_step {operation : Store.Operation} {entry : Stamped Time}
    (present : entry ∈ (stamped.step scan now operation).entries) :
    entry.time = now ∨ entry ∈ stamped.entries := by
  cases operation with
  | openDocument uri text version language =>
    simp only [step] at present
    split at present
    · exact .inr present
    · exact time_of_mem_put present
  | update uri text version =>
    simp only [step] at present
    split at present
    · exact .inr present
    · exact time_of_mem_put present
  | snapshot uri =>
    simp only [step] at present
    split at present
    · exact time_of_mem_put present
    · exact .inr present
  | remove uri => exact .inr (List.mem_of_mem_filter present)
  | clear => exact absurd present List.not_mem_nil
  | setMaxDocuments limit => exact .inr present
  | setMaxBytes limit => exact .inr present
  | inspect => exact .inr present

theorem after_concat (clock : ℕ → Time) (operations : List Store.Operation)
    (last : Store.Operation) :
    stamped.after scan clock (operations ++ [last]) =
      (stamped.after scan clock operations).step scan (clock operations.length) last := by
  simp [after, List.zipIdx_append]

/-- **Both stores have the same documents after every run**, when the clock moves on between any two
operations and the entries are gone through in any order. -/
theorem represents_after {clock : ℕ → Time} (movesOn : StrictMono clock)
    (listing : ∀ entries, (scan entries).Perm entries) (maxDocuments maxBytes : Nat)
    (operations : List Store.Operation) :
    (StampedStore.after scan clock ⟨[], maxDocuments, maxBytes⟩ operations).Represents
        ((Store.ofLimits maxDocuments maxBytes).after operations) ∧
      ∀ entry ∈ (StampedStore.after scan clock ⟨[], maxDocuments, maxBytes⟩ operations).entries,
        entry.time < clock operations.length := by
  induction operations using List.reverseRecOn with
  | nil => exact ⟨⟨rfl, rfl, [], .nil, .nil, rfl⟩, fun _ present => absurd present List.not_mem_nil⟩
  | append_singleton operations last ih =>
    obtain ⟨represents, past⟩ := ih
    have distinct := (Store.distinct_ofLimits maxDocuments maxBytes).after operations
    have ticks : clock operations.length < clock (operations ++ [last]).length :=
      movesOn (by simp)
    rw [after_concat, Store.after_append, Store.after_singleton]
    refine ⟨represents.step distinct listing past last, ?_⟩
    intro entry present
    rcases time_of_mem_step present with time | before
    · rw [time]
      exact ticks
    · exact (past entry before).trans ticks

end Runs

end StampedStore

end KotlinAssist
