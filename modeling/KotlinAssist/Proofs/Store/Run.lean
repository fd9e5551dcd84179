import KotlinAssist.Proofs.Run
import KotlinAssist.Proofs.Store.Eviction
import Mathlib.Data.List.Induction

/-!
# Runs of a store

A store is used by one operation after the other.  An operation gives a text to a document, reads
one, closes some, or leaves the documents alone; a text that is refused and a document that is not
there to be read leave them alone too.

## Main definitions

* `Store.Operation` — what can be done with a store
* `Store.step`, `Store.after` — what one operation and a list of operations do
* `Store.gives?`, `Store.touches?` — the text that an operation gives, the document that it touches
* `Store.touched`, `Store.lastText?` — the same about a whole run

## Main statements

* `Store.step_cases` — all that an operation can do to the documents
* `Store.lastText?_of_find?` — a stored document has the text that it was given last
-/

namespace KotlinAssist

namespace Store

/-- What can be done with a store. -/
inductive Operation where
  | openDocument (uri : Uri) (text : String) (version : Int) (language : String)
  | update (uri : Uri) (text : String) (version : Option Int)
  | snapshot (uri : Uri)
  | remove (uri : Uri)
  | clear
  | setMaxDocuments (limit : Nat)
  | setMaxBytes (limit : Nat)
  /-- Asks for names, counts or limits. -/
  | inspect
  deriving DecidableEq

/-- Whether an operation closes a document. -/
def Operation.discards (uri : Uri) : Operation → Bool
  | .remove closed => closed == uri
  | .clear => true
  | _ => false

/-- The store of given limits that has no documents. -/
def ofLimits (maxDocuments maxBytes : Nat) : Store :=
  { maxDocuments := maxDocuments, maxBytes := maxBytes }

/-- What an operation does.  One that fails changes nothing. -/
def step (store : Store) : Operation → Store
  | .openDocument uri text version language =>
    (store.openDocument uri text version language).toOption.getD store
  | .update uri text version => ((store.update uri text version).map (·.1)).toOption.getD store
  | .snapshot uri => (store.snapshot uri).1
  | .remove uri => store.remove uri
  | .clear => store.clear
  | .setMaxDocuments limit => store.setMaxDocuments limit
  | .setMaxBytes limit => store.setMaxBytes limit
  | .inspect => store

/-- The store after a list of operations. -/
def after (store : Store) (operations : List Operation) : Store :=
  operations.foldl step store

/-- The operations of a run, each with the store that it meets. -/
def steps (store : Store) (operations : List Operation) : List (Store × Operation) :=
  visits step store operations

/-- The text that an operation gives, and the document that it gives it to: only opening and
updating do so, and only when they succeed. -/
def gives? (store : Store) : Operation → Option (Uri × String)
  | .openDocument uri text version language =>
    (store.openDocument uri text version language).toOption.map fun _ => (uri, text)
  | .update uri text version => (store.update uri text version).toOption.map fun _ => (uri, text)
  | _ => none

/-- The document that an operation touches: one that gets a text, or is read and found. -/
def touches? (store : Store) : Operation → Option Uri
  | .snapshot uri => (store.snapshot uri).2.map fun _ => uri
  | operation => (store.gives? operation).map (·.1)

/-- The documents that are touched in a run, in the order of the touches. -/
def touched (store : Store) (operations : List Operation) : List Uri :=
  (store.steps operations).filterMap fun (met, operation) => met.touches? operation

/-- The texts that are given in a run, in their order. -/
def given (store : Store) (operations : List Operation) : List (Uri × String) :=
  (store.steps operations).filterMap fun (met, operation) => met.gives? operation

/-- The text that a document was given last. -/
def lastText? (store : Store) (operations : List Operation) (uri : Uri) : Option String :=
  (store.given operations).reverse.lookup uri

section Runs

variable (store : Store) (operations : List Operation) (last : Operation)

@[simp] theorem after_nil : store.after [] = store := rfl

@[simp] theorem after_append (more : List Operation) :
    store.after (operations ++ more) = (store.after operations).after more := by
  simp [after]

@[simp] theorem after_singleton : store.after [last] = store.step last := rfl

@[simp] theorem touched_nil : store.touched [] = [] := rfl

theorem touched_concat :
    store.touched (operations ++ [last]) =
      store.touched operations ++ ((store.after operations).touches? last).toList := by
  simp only [touched, steps, after, visits_concat, List.filterMap_append]
  cases found : (operations.foldl step store).touches? last <;> simp [found]

theorem given_concat :
    store.given (operations ++ [last]) =
      store.given operations ++ ((store.after operations).gives? last).toList := by
  simp only [given, steps, after, visits_concat, List.filterMap_append]
  cases found : (operations.foldl step store).gives? last <;> simp [found]

theorem lastText?_concat (uri : Uri) :
    store.lastText? (operations ++ [last]) uri =
      match (store.after operations).gives? last with
      | some (sent, text) => if uri = sent then some text else store.lastText? operations uri
      | none => store.lastText? operations uri := by
  rw [lastText?, given_concat]
  cases (store.after operations).gives? last with
  | none => simp [lastText?]
  | some given =>
    obtain ⟨sent, text⟩ := given
    by_cases same : uri = sent
    · simp [same]
    · have different : (uri == sent) = false := beq_false_of_ne same
      simp [List.lookup_cons, lastText?, same, different]

end Runs

/-! ## What an operation can do -/

/-- Either a document is put with the text that the operation gives it, or a stored document is read,
or no document is touched and only those that the operation closes are gone. -/
theorem step_cases (store : Store) (operation : Operation) :
    (∃ document, store.gives? operation = some (document.uri, document.text) ∧
      store.touches? operation = some document.uri ∧
      store.step operation = store.put document) ∨
    (∃ document, store.gives? operation = none ∧
      store.touches? operation = some document.uri ∧
      store.find? document.uri = some document ∧
      (store.step operation).documents = (store.touch document).documents) ∨
    (store.gives? operation = none ∧ store.touches? operation = none ∧
      (store.step operation).documents =
        store.documents.filter fun document => !operation.discards document.uri) := by
  cases operation with
  | openDocument uri text version language =>
    simp only [touches?, gives?, step, openDocument_eq]
    split
    · right; right
      simp [Except.toOption, Operation.discards]
    · left
      exact ⟨_, rfl, rfl, rfl⟩
  | update uri text version =>
    simp only [touches?, gives?, step, update_eq]
    split
    · right; right
      simp [Except.toOption, Except.map, Operation.discards]
    · left
      exact ⟨_, rfl, rfl, rfl⟩
  | snapshot uri =>
    right
    cases found : store.find? uri with
    | none =>
      right
      simp [gives?, touches?, step, snapshot, found, Operation.discards]
    | some document =>
      left
      have same := uri_of_find? found
      subst same
      exact ⟨document, rfl, by simp [touches?, found], found, by simp [step, snapshot, found]⟩
  | remove uri =>
    right; right
    refine ⟨rfl, rfl, List.filter_congr fun document _ => ?_⟩
    simp [Operation.discards, bne, Bool.beq_comm]
  | clear => right; right; simp [gives?, touches?, step, Store.clear, Operation.discards]
  | setMaxDocuments limit =>
    right; right; simp [gives?, touches?, step, Store.setMaxDocuments, Operation.discards]
  | setMaxBytes limit =>
    right; right; simp [gives?, touches?, step, Store.setMaxBytes, Operation.discards]
  | inspect => right; right; simp [gives?, touches?, step, Operation.discards]

/-- Only one operation changes the number of documents allowed. -/
theorem maxDocuments_step (store : Store) (operation : Operation) :
    (store.step operation).maxDocuments =
      match operation with
      | .setMaxDocuments limit => limit
      | _ => store.maxDocuments := by
  cases operation with
  | openDocument uri text version language =>
    simp only [step, openDocument_eq]
    split <;> simp [Except.toOption]
  | update uri text version =>
    simp only [step, update_eq]
    split <;> simp [Except.toOption, Except.map]
  | snapshot uri => simp [step]
  | remove uri => rfl
  | clear => rfl
  | setMaxDocuments limit => rfl
  | setMaxBytes limit => rfl
  | inspect => rfl

/-- Nothing is discarded when an operation gives or reads. -/
theorem discards_of_touches? {store : Store} {operation : Operation} {touched uri : Uri}
    (touches : store.touches? operation = some touched) : operation.discards uri = false := by
  cases operation <;> first | rfl | cases touches

/-! ## Names and texts -/

theorem Distinct.step {store : Store} (distinct : store.Distinct) (operation : Operation) :
    (store.step operation).Distinct := by
  obtain ⟨document, -, -, put⟩ | ⟨document, -, -, -, read⟩ | ⟨-, -, closed⟩ :=
    store.step_cases operation
  · rw [put]
    exact distinct.put document
  · rw [Distinct, uris, read]
    exact distinct.touch document
  · rw [Distinct, uris, closed]
    exact (List.filter_sublist.map Document.uri).nodup distinct

/-- No name is ever stored twice. -/
theorem Distinct.after {store : Store} (distinct : store.Distinct) (operations : List Operation) :
    (store.after operations).Distinct := by
  induction operations using List.reverseRecOn with
  | nil => exact distinct
  | append_singleton operations last ih =>
    rw [after_append, after_singleton]
    exact ih.step last

theorem distinct_ofLimits (maxDocuments maxBytes : Nat) :
    (ofLimits maxDocuments maxBytes).Distinct :=
  List.nodup_nil

/-- A document that an operation gives no text to is found as before, or not at all. -/
theorem find?_of_find?_step {store : Store} (distinct : store.Distinct) {operation : Operation}
    {uri : Uri} {found : Document}
    (other : ∀ text, store.gives? operation ≠ some (uri, text))
    (present : (store.step operation).find? uri = some found) : store.find? uri = some found := by
  obtain ⟨document, gives, -, put⟩ | ⟨document, -, -, stored, read⟩ | ⟨-, -, closed⟩ :=
    store.step_cases operation
  · rw [put] at present
    refine find?_of_find?_put distinct ?_ present
    rintro rfl
    exact other document.text gives
  · rw [find?, read, ← find?, find?_touch] at present
    split at present
    · next same =>
      cases present
      rw [← same]
      exact stored
    · exact present
  · obtain ⟨stored, named⟩ := (distinct.step operation).find?_eq_some_iff.mp present
    rw [closed] at stored
    exact distinct.find?_eq_some_iff.mpr ⟨List.mem_of_mem_filter stored, named⟩

/-- A document that an operation gives a text to is stored with it. -/
theorem text_of_gives? {store : Store} (distinct : store.Distinct) {operation : Operation}
    {uri : Uri} {text : String} (gives : store.gives? operation = some (uri, text)) :
    ∃ document, (store.step operation).find? uri = some document ∧ document.text = text := by
  obtain ⟨document, given, -, put⟩ | ⟨document, nothing, -⟩ | ⟨nothing, -⟩ :=
    store.step_cases operation
  · rw [given] at gives
    cases gives
    rw [put]
    exact ⟨document, find?_put_self distinct document, rfl⟩
  · rw [nothing] at gives
    cases gives
  · rw [nothing] at gives
    cases gives

/-- **A stored document has the text that it was given last**, in every run of a store that starts
without documents. -/
theorem lastText?_of_find? (maxDocuments maxBytes : Nat) (operations : List Operation) {uri : Uri}
    {document : Document}
    (found : ((ofLimits maxDocuments maxBytes).after operations).find? uri = some document) :
    (ofLimits maxDocuments maxBytes).lastText? operations uri = some document.text := by
  induction operations using List.reverseRecOn generalizing document with
  | nil => cases found
  | append_singleton operations last ih =>
    have distinct := (distinct_ofLimits maxDocuments maxBytes).after operations
    rw [after_append, after_singleton] at found
    rw [lastText?_concat]
    cases gives : ((ofLimits maxDocuments maxBytes).after operations).gives? last with
    | none =>
      refine ih (find?_of_find?_step distinct ?_ found)
      intro text
      simp [gives]
    | some sent =>
      obtain ⟨sent, text⟩ := sent
      by_cases same : uri = sent
      · subst same
        obtain ⟨stored, foundAfter, stores⟩ := text_of_gives? distinct gives
        rw [found] at foundAfter
        cases foundAfter
        simp [stores]
      · simp only [if_neg same]
        refine ih (find?_of_find?_step distinct ?_ found)
        intro other
        rw [gives]
        rintro ⟨⟩
        exact same rfl

end Store

end KotlinAssist
