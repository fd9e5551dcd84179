import KotlinAssist.Proofs.Store.Numbering
import KotlinAssist.Proofs.Store.Run
import Mathlib.Data.Option.Basic
import Mathlib.Order.Bounds.Basic

/-!
# The version of a document in closed form

Every text that a stored document gets either brings a greater version or counts the stored one up.
Seen from the end of a run, each version that came with a text has been counted up once for every
later text, unless a greater one overtook it on the way; so the stored version is the greatest of
these counts, cut off at the largest number of 32 bits.  The cut can be made once at the end: a
count that has reached the largest number stays there.

Only texts that are accepted matter.  A text that is refused, a document that is read and whatever
happens to other documents leave the version alone, as long as the document stays stored.

## Main definitions

* `Store.supplied` — what came with the texts that a document got in a run
* `Document.countedUp` — the versions that came with texts, each counted up to the end

## Main statements

* `Document.numbered_eq_countedUp` — the rule for one version after the other in closed form
* `Store.version_after` — the version of a document that stays stored, from what came with its texts
* `Store.version_is_greatest_count` — the closed form, and what each operation does to the version
-/

namespace KotlinAssist

/-! ## Counting up -/

namespace Document

/-- The version that a document started with and those that came with later texts, each counted up
once for every text after it. -/
def countedUp (initial : Int) (later : List (Option Int)) : Set Int :=
  {count | ∃ (place : Nat) (version : Int),
    (some initial :: later)[place]? = some (some version) ∧
      count = version + (later.length - place)}

/-- The rule for versions: count up or take over, whichever is greater, and stay below the limit. -/
theorem nextVersion_some_eq {current version : Int} (small : version ≤ maxVersion) :
    nextVersion current (some version) = min maxVersion (max (current + 1) version) := by
  simp only [nextVersion]
  split <;> omega

theorem nextVersion_none_eq (current : Int) :
    nextVersion current none = min maxVersion (current + 1) := by
  simp only [nextVersion]
  omega

/-- A text strictly raises the version of a document, or the version is the largest one and
stays. -/
theorem lt_nextVersion {current : Int} {supplied : Option Int} (small : current ≤ maxVersion)
    (sent : ∀ version ∈ supplied, version ≤ maxVersion) :
    current < nextVersion current supplied ∨
      current = maxVersion ∧ nextVersion current supplied = maxVersion := by
  cases supplied with
  | none =>
    rw [nextVersion_none_eq]
    omega
  | some version =>
    rw [nextVersion_some_eq (sent version rfl)]
    omega

theorem le_nextVersion {current version : Int} (small : version ≤ maxVersion) :
    version ≤ nextVersion current (some version) := by
  rw [nextVersion_some_eq small]
  omega

section CountedUp

variable {initial top : Int} {later : List (Option Int)}

theorem isGreatest_countedUp_nil : IsGreatest (countedUp initial []) initial := by
  constructor
  · exact ⟨0, initial, rfl, by simp⟩
  · rintro count ⟨place, version, found, rfl⟩
    match place with
    | 0 =>
      cases found
      simp
    | place + 1 => cases found

/-- One text more counts all earlier versions up, and adds its own. -/
theorem mem_countedUp_concat {next : Option Int} {count : Int} :
    count ∈ countedUp initial (later ++ [next]) ↔
      count - 1 ∈ countedUp initial later ∨ next = some count := by
  simp only [countedUp, Set.mem_ofPred_eq, ← List.cons_append, List.length_append,
    List.length_singleton]
  constructor
  · rintro ⟨place, version, found, rfl⟩
    rcases Nat.lt_trichotomy place (some initial :: later).length with inside | rfl | outside
    · rw [List.getElem?_append_left inside] at found
      exact .inl ⟨place, version, found, by omega⟩
    · rw [List.getElem?_concat_length] at found
      refine .inr ?_
      rw [Option.some.inj found, List.length_cons]
      simp
    · rw [List.getElem?_eq_none] at found
      · cases found
      · rw [List.length_append, List.length_singleton]
        omega
  · rintro (⟨place, version, found, same⟩ | rfl)
    · have inside : place < (some initial :: later).length :=
        (List.getElem?_eq_some_iff.mp found).1
      refine ⟨place, version, ?_, by omega⟩
      rw [List.getElem?_append_left inside]
      exact found
    · refine ⟨(some initial :: later).length, count, List.getElem?_concat_length, ?_⟩
      rw [List.length_cons]
      omega

theorem isGreatest_countedUp_none (greatest : IsGreatest (countedUp initial later) top) :
    IsGreatest (countedUp initial (later ++ [none])) (top + 1) := by
  constructor
  · rw [mem_countedUp_concat, Int.add_sub_cancel]
    exact .inl greatest.1
  · intro count counted
    rcases mem_countedUp_concat.mp counted with earlier | own
    · have below := greatest.2 earlier
      omega
    · cases own

theorem isGreatest_countedUp_some (greatest : IsGreatest (countedUp initial later) top)
    (version : Int) :
    IsGreatest (countedUp initial (later ++ [some version])) (max (top + 1) version) := by
  constructor
  · rw [mem_countedUp_concat]
    rcases le_total (top + 1) version with overtaken | kept
    · rw [max_eq_right overtaken]
      exact .inr rfl
    · rw [max_eq_left kept, Int.add_sub_cancel]
      exact .inl greatest.1
  · intro count counted
    rcases mem_countedUp_concat.mp counted with earlier | own
    · have below := greatest.2 earlier
      omega
    · cases own
      exact le_max_right _ _

/-- No version that came with a text is above the greatest count. -/
theorem le_of_isGreatest_countedUp (greatest : IsGreatest (countedUp initial later) top)
    {version : Int} (sent : some version ∈ some initial :: later) : version ≤ top := by
  obtain ⟨place, found⟩ := List.mem_iff_getElem?.mp sent
  have inside : place < (some initial :: later).length := (List.getElem?_eq_some_iff.mp found).1
  have counted := greatest.2 ⟨place, version, found, rfl⟩
  rw [List.length_cons] at inside
  omega

end CountedUp

/-- **The version after a list of texts is the greatest count**, cut off at the largest version. -/
theorem numbered_eq_countedUp (first : Option Int) (later : List (Option Int))
    (small : ∀ version, some version ∈ some (first.getD 1) :: later → version ≤ maxVersion) :
    ∃ top, IsGreatest (countedUp (first.getD 1) later) top ∧
      numbered (first :: later) = some (min maxVersion top) := by
  induction later using List.reverseRecOn with
  | nil =>
    refine ⟨first.getD 1, isGreatest_countedUp_nil, ?_⟩
    rw [min_eq_right (small _ List.mem_cons_self)]
    rfl
  | append_singleton later next ih =>
    rw [← List.cons_append] at small
    obtain ⟨top, greatest, numberedBefore⟩ := ih fun version sent =>
      small version (List.mem_append_left _ sent)
    rw [← List.cons_append, numbered_concat, numberedBefore]
    cases next with
    | none =>
      refine ⟨top + 1, isGreatest_countedUp_none greatest, congrArg some ?_⟩
      show nextVersion (min maxVersion top) none = _
      rw [nextVersion_none_eq]
      omega
    | some version =>
      have below := small version (List.mem_append_right _ List.mem_cons_self)
      refine ⟨max (top + 1) version, isGreatest_countedUp_some greatest version, congrArg some ?_⟩
      show nextVersion (min maxVersion top) (some version) = _
      rw [nextVersion_some_eq below]
      omega

end Document

/-! ## What operations supply -/

namespace Store

/-- The version that an operation comes with. -/
def Operation.version? : Operation → Option Int
  | .openDocument _ _ version _ => some version
  | .update _ _ version => version
  | _ => none

/-- What comes with the text that an operation gives to a document: a version, or none.  Nothing
comes with a text that is refused or that goes to another document. -/
def supplies? (store : Store) (uri : Uri) (operation : Operation) : Option (Option Int) :=
  match store.gives? operation with
  | some (given, _) => if given = uri then some operation.version? else none
  | none => none

/-- What came with the texts that a document got in a run. -/
def supplied (store : Store) (uri : Uri) (operations : List Operation) : List (Option Int) :=
  (store.steps operations).filterMap fun (met, operation) => met.supplies? uri operation

variable {store : Store} {uri : Uri} {operation : Operation}

theorem supplied_concat (store : Store) (uri : Uri) (operations : List Operation)
    (last : Operation) :
    store.supplied uri (operations ++ [last]) =
      store.supplied uri operations ++ ((store.after operations).supplies? uri last).toList := by
  simp only [supplied, steps, after, visits_concat, List.filterMap_append]
  cases found : (operations.foldl step store).supplies? uri last <;> simp [found]

theorem supplied_cons (store : Store) (uri : Uri) (first : Operation)
    (operations : List Operation) :
    store.supplied uri (first :: operations) =
      (store.supplies? uri first).toList ++ (store.step first).supplied uri operations := by
  simp only [supplied, steps, visits, List.filterMap_cons]
  cases store.supplies? uri first <;> rfl

theorem supplies?_eq_some_iff {supplied : Option Int} :
    store.supplies? uri operation = some supplied ↔
      (∃ text, store.gives? operation = some (uri, text)) ∧ operation.version? = supplied := by
  unfold supplies?
  cases store.gives? operation with
  | none => simp
  | some given =>
    obtain ⟨sent, text⟩ := given
    by_cases same : sent = uri <;> simp [same]

theorem supplies?_eq_none_iff :
    store.supplies? uri operation = none ↔ ∀ text, store.gives? operation ≠ some (uri, text) := by
  rw [Option.eq_none_iff_forall_ne_some]
  constructor
  · intro nothing text gives
    exact nothing operation.version? (supplies?_eq_some_iff.mpr ⟨⟨text, gives⟩, rfl⟩)
  · intro other supplied supplies
    obtain ⟨⟨text, gives⟩, -⟩ := supplies?_eq_some_iff.mp supplies
    exact other text gives

theorem mem_of_mem_supplied {operations : List Operation} {supplied : Option Int}
    (member : supplied ∈ store.supplied uri operations) :
    ∃ operation ∈ operations, operation.version? = supplied := by
  obtain ⟨⟨met, operation⟩, visited, supplies⟩ := List.mem_filterMap.mp member
  obtain ⟨front, rest, rfl, -⟩ := (mem_visits_iff step).mp visited
  refine ⟨operation, List.mem_append_right _ List.mem_cons_self, ?_⟩
  exact (supplies?_eq_some_iff.mp supplies).2

/-! ## One operation -/

/-- A text that is accepted is put into the store with the version that the rule gives. -/
theorem step_of_gives? {text : String} (gives : store.gives? operation = some (uri, text)) :
    ∃ document, store.step operation = store.put document ∧ document.uri = uri ∧
      document.version = store.versionAfter uri operation.version? := by
  cases operation with
  | openDocument given sent version language =>
    simp only [gives?, step, openDocument_eq] at gives ⊢
    split at gives
    · cases gives
    · next fits =>
      cases gives
      rw [if_neg fits]
      exact ⟨_, rfl, rfl, rfl⟩
  | update given sent version =>
    simp only [gives?, step, update_eq] at gives ⊢
    split at gives
    · cases gives
    · next fits =>
      cases gives
      rw [if_neg fits]
      exact ⟨_, rfl, rfl, rfl⟩
  | _ => cases gives

/-- The version of a document after an operation that gives it a text. -/
theorem find?_step_of_supplies? (distinct : store.Distinct) {supplied : Option Int}
    (supplies : store.supplies? uri operation = some supplied) :
    ∃ document, (store.step operation).find? uri = some document ∧
      document.version = Document.renumbered ((store.find? uri).map (·.version)) supplied := by
  obtain ⟨⟨text, gives⟩, rfl⟩ := supplies?_eq_some_iff.mp supplies
  obtain ⟨document, put, rfl, version⟩ := step_of_gives? gives
  refine ⟨document, ?_, ?_⟩
  · rw [put]
    exact find?_put_self distinct document
  · rw [version, versionAfter_eq_renumbered]

/-- A document that an operation gives no text to stays as it is, if it stays stored. -/
theorem find?_of_not_supplies? (distinct : store.Distinct)
    (nothing : store.supplies? uri operation = none) {document : Document}
    (found : (store.step operation).find? uri = some document) :
    store.find? uri = some document :=
  find?_of_find?_step distinct (supplies?_eq_none_iff.mp nothing) found

/-- An update returns the version that is then stored. -/
theorem version_of_update (distinct : store.Distinct) {text : String} {version : Option Int}
    {updated : Store} {returned : Int}
    (accepted : store.update uri text version = .ok (updated, returned)) :
    updated = store.step (.update uri text version) ∧
      ∃ document, updated.find? uri = some document ∧ document.version = returned := by
  have result := store.update_eq uri text version
  rw [accepted] at result
  split at result
  · cases result
  · cases result
    refine ⟨?_, _, find?_put_self distinct _, rfl⟩
    rw [step, accepted]
    rfl

/-! ## Whole runs -/

theorem exists_find?_of_mem_uris (stored : uri ∈ store.uris) :
    ∃ document, store.find? uri = some document := by
  rw [← Option.isSome_iff_exists]
  exact (contains_iff store uri).mpr stored

/-- **The version of a document that stays stored** comes from the texts that it got since it was
put into the store. -/
theorem version_after (distinct : store.Distinct) (absent : uri ∉ store.uris)
    (operations : List Operation)
    (stays : ∀ visit ∈ store.steps operations, uri ∈ (visit.1.step visit.2).uris) :
    ((store.after operations).find? uri).map (·.version) =
      Document.numbered (store.supplied uri operations) := by
  induction operations using List.reverseRecOn with
  | nil =>
    rw [after_nil, (find?_eq_none_iff store uri).mpr absent]
    rfl
  | append_singleton operations last ih =>
    rw [steps, visits_concat] at stays
    have before := ih fun visit visited => stays visit (List.mem_append_left _ visited)
    have stored := stays (store.after operations, last) (List.mem_append_right _ List.mem_cons_self)
    obtain ⟨document, found⟩ := exists_find?_of_mem_uris stored
    rw [after_append, after_singleton, supplied_concat]
    cases supplies : (store.after operations).supplies? uri last with
    | none =>
      rw [found, ← find?_of_not_supplies? (distinct.after operations) supplies found, before,
        Option.toList_none, List.append_nil]
    | some supplied =>
      obtain ⟨document', found', version⟩ :=
        find?_step_of_supplies? (distinct.after operations) supplies
      rw [found', Option.map_some, version, before, Option.toList_some, Document.numbered_concat]

/-- A document is put into the store by an operation and stays stored during those that follow it.
The versions that come with them are numbers of 32 bits. -/
structure StoredFrom (start : Store) (uri : Uri) (insertion : Operation)
    (during : List Operation) : Prop where
  absent : uri ∉ start.uris
  stays : ∀ visit ∈ start.steps (insertion :: during), uri ∈ (visit.1.step visit.2).uris
  small : ∀ operation ∈ insertion :: during, ∀ version ∈ operation.version?,
    version ≤ Document.maxVersion

/-- What an operation does to the version of a document that is stored before and after it. -/
structure RaisesVersion (store : Store) (uri : Uri) (operation : Operation)
    (old new : Document) : Prop where
  /-- A text that is accepted raises the version, unless it is the largest one already, and at least
  to the version that it comes with. -/
  raised : ∀ supplied, store.supplies? uri operation = some supplied →
    (old.version < new.version ∨
      old.version = Document.maxVersion ∧ new.version = Document.maxVersion) ∧
    ∀ version ∈ supplied, version ≤ new.version
  /-- All else leaves the document as it is. -/
  kept : store.supplies? uri operation = none → new = old

namespace StoredFrom

variable {start : Store} {insertion : Operation} {during front rest : List Operation}

/-- The document has been stored during the first operations too. -/
theorem of_append (since : start.StoredFrom uri insertion (front ++ rest)) :
    start.StoredFrom uri insertion front where
  absent := since.absent
  stays visit visited := by
    refine since.stays visit ?_
    rw [← List.cons_append, steps, visits_append]
    exact List.mem_append_left _ visited
  small operation member := by
    refine since.small operation ?_
    rw [← List.cons_append]
    exact List.mem_append_left _ member

/-- The first operation gives the document a text, and its version is the one it came with, or 1. -/
theorem exists_supplied (since : start.StoredFrom uri insertion during)
    (distinct : start.Distinct) :
    ∃ first, start.supplies? uri insertion = some first ∧
      ((start.step insertion).find? uri).map (·.version) = some (first.getD 1) := by
  have missing := (find?_eq_none_iff start uri).mpr since.absent
  obtain ⟨document, found⟩ :=
    exists_find?_of_mem_uris (since.stays (start, insertion) List.mem_cons_self)
  cases supplies : start.supplies? uri insertion with
  | none =>
    rw [find?_of_not_supplies? distinct supplies found] at missing
    cases missing
  | some first =>
    refine ⟨first, rfl, ?_⟩
    obtain ⟨document', found', version⟩ := find?_step_of_supplies? distinct supplies
    rw [found', Option.map_some, version, missing]
    rfl

/-- The versions that come with texts are numbers of 32 bits, also where 1 stands for none. -/
theorem version_le (since : start.StoredFrom uri insertion during) {first : Option Int}
    (supplies : start.supplies? uri insertion = some first) {version : Int}
    (sent : some version ∈ some (first.getD 1) :: (start.step insertion).supplied uri during) :
    version ≤ Document.maxVersion := by
  have bounded {supplied : Option Int}
      (listed : supplied ∈ start.supplied uri (insertion :: during)) :
      ∀ version ∈ supplied, version ≤ Document.maxVersion := by
    obtain ⟨operation, member, rfl⟩ := mem_of_mem_supplied listed
    exact since.small operation member
  rw [supplied_cons, supplies] at bounded
  rcases List.mem_cons.mp sent with initial | later
  · cases first with
    | none =>
      cases initial
      decide
    | some given => exact bounded (List.mem_append_left _ List.mem_cons_self) version initial.symm
  · exact bounded (List.mem_append_right _ later) version rfl

/-- **The stored version is the greatest count**, cut off at the largest version. -/
theorem exists_greatest (since : start.StoredFrom uri insertion during)
    (distinct : start.Distinct) {first : Option Int}
    (supplies : start.supplies? uri insertion = some first) :
    ∃ stored top, ((start.step insertion).after during).find? uri = some stored ∧
      IsGreatest (Document.countedUp (first.getD 1) ((start.step insertion).supplied uri during))
        top ∧
      stored.version = min Document.maxVersion top := by
  obtain ⟨top, greatest, numbered⟩ := Document.numbered_eq_countedUp first
    ((start.step insertion).supplied uri during) fun _ sent => since.version_le supplies sent
  have version := version_after distinct since.absent (insertion :: during) since.stays
  rw [supplied_cons, supplies, Option.toList_some, List.singleton_append, numbered,
    Option.map_eq_some_iff] at version
  obtain ⟨stored, found, isVersion⟩ := version
  exact ⟨stored, top, found, greatest, isVersion⟩

/-- The step of the run: what each operation does to the version. -/
theorem raisesVersion (since : start.StoredFrom uri insertion (front ++ operation :: rest))
    (distinct : start.Distinct) :
    ∃ old new, ((start.step insertion).after front).find? uri = some old ∧
      (((start.step insertion).after front).step operation).find? uri = some new ∧
      ((start.step insertion).after front).RaisesVersion uri operation old new := by
  obtain ⟨first, supplies, -⟩ := since.exists_supplied distinct
  obtain ⟨old, top, found, -, version⟩ := since.of_append.exists_greatest distinct supplies
  have distinctBefore := (distinct.step insertion).after front
  have stored : uri ∈ (((start.step insertion).after front).step operation).uris := by
    refine since.stays (_, operation) ?_
    exact (mem_visits_iff step).mpr ⟨insertion :: front, rest, rfl, rfl⟩
  obtain ⟨new, foundAfter⟩ := exists_find?_of_mem_uris stored
  refine ⟨old, new, found, foundAfter, ?_, ?_⟩
  · intro supplied supplies
    have sent : ∀ version ∈ supplied, version ≤ Document.maxVersion := by
      rw [← (supplies?_eq_some_iff.mp supplies).2]
      refine since.small operation ?_
      exact List.mem_cons_of_mem _ (List.mem_append_right _ List.mem_cons_self)
    obtain ⟨document, found', isVersion⟩ := find?_step_of_supplies? distinctBefore supplies
    rw [foundAfter] at found'
    cases found'
    rw [found, Option.map_some] at isVersion
    rw [isVersion]
    refine ⟨Document.lt_nextVersion (by omega) sent, ?_⟩
    rintro version ⟨⟩
    exact Document.le_nextVersion (sent version rfl)
  · intro nothing
    rw [find?_of_not_supplies? distinctBefore nothing foundAfter] at found
    exact Option.some.inj found

end StoredFrom

/-- **Versions have a closed form and only grow.**  From the operation that puts a document into the
store on, and as long as it stays there, its version is the greatest of all versions that came with
its texts, each counted up once for every later text, and at most the largest number of 32 bits.  It
is never below a version that came with a text; every text that is accepted strictly raises it
unless it is the largest one; nothing else changes it; and every update returns the version that is
then stored. -/
theorem version_is_greatest_count (maxDocuments maxBytes : Nat) (before : List Operation)
    (insertion : Operation) (during : List Operation) (uri : Uri)
    (since : ((ofLimits maxDocuments maxBytes).after before).StoredFrom uri insertion during) :
    let start := (ofLimits maxDocuments maxBytes).after before
    let inserted := start.step insertion
    let later := inserted.supplied uri during
    ∃ first stored top,
      start.supplies? uri insertion = some first ∧
      (inserted.find? uri).map (·.version) = some (first.getD 1) ∧
      (inserted.after during).find? uri = some stored ∧
      IsGreatest (Document.countedUp (first.getD 1) later) top ∧
      stored.version = min Document.maxVersion top ∧
      (∀ version, some version ∈ some (first.getD 1) :: later → version ≤ stored.version) ∧
      (∀ met operation, (met, operation) ∈ inserted.steps during →
        ∃ old new, met.find? uri = some old ∧ (met.step operation).find? uri = some new ∧
          met.RaisesVersion uri operation old new) ∧
      ∀ met text version updated returned,
        (met, .update uri text version) ∈ start.steps (insertion :: during) →
        met.update uri text version = .ok (updated, returned) →
        updated = met.step (.update uri text version) ∧
          ∃ document, updated.find? uri = some document ∧ document.version = returned := by
  intro start inserted later
  have distinct : start.Distinct := (distinct_ofLimits maxDocuments maxBytes).after before
  obtain ⟨first, supplies, initial⟩ := since.exists_supplied distinct
  obtain ⟨stored, top, found, greatest, version⟩ := since.exists_greatest distinct supplies
  refine ⟨first, stored, top, supplies, initial, found, greatest, version, ?_, ?_, ?_⟩
  · intro sentVersion sent
    rw [version]
    exact le_min (since.version_le supplies sent)
      (Document.le_of_isGreatest_countedUp greatest sent)
  · intro met operation visited
    obtain ⟨front, rest, rfl, rfl⟩ := (mem_visits_iff step).mp visited
    exact since.raisesVersion distinct
  · intro met text version updated returned visited accepted
    obtain ⟨front, rest, -, rfl⟩ := (mem_visits_iff step).mp visited
    exact version_of_update (distinct.after front) accepted

/-- A document that starts at version 1 is overtaken by version 5, gets a stale version, is refused
a text, and stays at the largest version once it has reached it. -/
theorem version_is_greatest_count_at_limit :
    let uri : Uri := "file:///a.kt"
    let other : Operation := .openDocument "file:///b.kt" "" 7 "kotlin"
    let start := (ofLimits 2 5).after [other]
    let insertion : Operation := .update uri "" none
    let during : List Operation := [.update uri "" (some 5), .openDocument uri "" 3 "kotlin",
      .update uri "val a = 1" (some 100), other, .update uri "" (some 2147483647), .snapshot uri,
      .update uri "" none]
    start.StoredFrom uri insertion during ∧
      (start.step insertion).supplied uri during = [some 5, some 3, some 2147483647, none] ∧
      ∃ top, IsGreatest (Document.countedUp 1 [some 5, some 3, some 2147483647, none]) top ∧
        Document.maxVersion < top ∧
        (((start.step insertion).after during).find? uri).map (·.version) =
          some (min Document.maxVersion top) := by
  intro uri other start insertion during
  have since : start.StoredFrom uri insertion during := ⟨by decide, by decide, by decide⟩
  have later : (start.step insertion).supplied uri during =
      [some 5, some 3, some 2147483647, none] := by decide
  obtain ⟨first, stored, top, supplies, -, found, greatest, version, -⟩ :=
    version_is_greatest_count 2 5 [other] insertion during uri since
  have initial : start.supplies? uri insertion = some none := by decide
  rw [initial] at supplies
  cases supplies
  rw [later] at greatest
  have overtaken := greatest.2 ⟨3, 2147483647, rfl, rfl⟩
  refine ⟨since, later, top, greatest, ?_, ?_⟩
  · exact lt_of_lt_of_le (by decide) overtaken
  · rw [found, Option.map_some, version]

end Store

end KotlinAssist
