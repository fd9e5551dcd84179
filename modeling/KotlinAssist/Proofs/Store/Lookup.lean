import KotlinAssist.Store
import Mathlib.Data.List.Nodup

/-!
# Looking up documents

What a store answers about a name after each of its operations.  The order of the documents, which
decides who gives way, is invisible through `Store.find?`; as long as there is room for a new
document nothing gives way, and a store is the map from names to documents that it looks like.

## Main statements

* `Store.openDocument_eq`, `Store.update_eq` — giving a text is putting a document, or a refusal
* `Store.find?_put`, `Store.find?_remove`, `Store.find?_snapshot` — lookups after a change
* `Store.Distinct` — no name twice, kept by every change
-/

namespace KotlinAssist

namespace Store

/-- No two documents of a store have the same name. -/
def Distinct (store : Store) : Prop :=
  store.uris.Nodup

/-! ## Lookups -/

theorem find?_eq_none_iff (store : Store) (uri : Uri) :
    store.find? uri = none ↔ uri ∉ store.uris := by
  simp only [find?, uris, List.find?_eq_none, List.mem_map, not_exists, not_and, beq_iff_eq]

/-- The document found under a name has that name. -/
theorem uri_of_find? {store : Store} {uri : Uri} {document : Document}
    (found : store.find? uri = some document) : document.uri = uri := by
  have same := List.find?_some found
  simpa using same

/-- Leaving out one name changes no lookup of another. -/
theorem find?_filter_of_ne (documents : List Document) {left uri : Uri} (different : left ≠ uri) :
    (documents.filter (·.uri != left)).find? (·.uri == uri) =
      documents.find? (·.uri == uri) := by
  rw [List.find?_filter]
  congr 1
  funext document
  by_cases same : document.uri = uri
  · simp [same, Ne.symm different]
  · simp [same]

theorem find?_filter_self (documents : List Document) (uri : Uri) :
    (documents.filter (·.uri != uri)).find? (·.uri == uri) = none := by
  rw [List.find?_eq_none]
  intro document kept
  have other := (List.mem_filter.mp kept).2
  simpa using other

/-- A touched document is found under its name, and all others are found as before. -/
theorem find?_touch (store : Store) (document : Document) (uri : Uri) :
    (store.touch document).find? uri =
      if document.uri = uri then some document else store.find? uri := by
  simp only [find?, touch, List.find?_append]
  split
  · next same =>
    subst same
    rw [find?_filter_self]
    simp
  · next different =>
    rw [find?_filter_of_ne store.documents different]
    simp [different]

/-- A closed document is found no more, and all others are found as before. -/
theorem find?_remove (store : Store) (closed uri : Uri) :
    (store.remove closed).find? uri = if closed = uri then none else store.find? uri := by
  simp only [find?, remove]
  split
  · next same =>
    subst same
    exact find?_filter_self store.documents closed
  · next different => exact find?_filter_of_ne store.documents different

/-- A new document is found under its name, and all others are found as before, as long as there is
room for it. -/
theorem find?_insert_of_room (store : Store) (document : Document) (uri : Uri)
    (room : store.size < store.maxDocuments) (absent : document.uri ∉ store.uris) :
    (store.insert document).find? uri =
      if document.uri = uri then some document else store.find? uri := by
  have full : ¬ store.maxDocuments ≤ store.size := Nat.not_le.mpr room
  simp only [insert, if_neg full, find?, List.find?_append]
  split
  · next same =>
    subst same
    have missing := (find?_eq_none_iff store document.uri).mpr absent
    rw [find?] at missing
    simp [missing]
  · next different => simp [different]

/-! ## Names -/

theorem uris_touch (store : Store) (document : Document) :
    (store.touch document).uris = store.uris.filter (· != document.uri) ++ [document.uri] := by
  simp only [uris, touch, List.map_append, List.map_cons, List.map_nil, List.filter_map]
  rfl

theorem uris_remove (store : Store) (closed : Uri) :
    (store.remove closed).uris = store.uris.filter (· != closed) := by
  simp only [uris, remove, List.filter_map]
  rfl

theorem uris_insert_of_room (store : Store) (document : Document)
    (room : store.size < store.maxDocuments) :
    (store.insert document).uris = store.uris ++ [document.uri] := by
  have full : ¬ store.maxDocuments ≤ store.size := Nat.not_le.mpr room
  simp [insert, if_neg full, uris]

theorem Distinct.touch {store : Store} (distinct : store.Distinct) (document : Document) :
    (store.touch document).Distinct := by
  rw [Distinct, uris_touch, List.nodup_append]
  refine ⟨distinct.filter _, List.nodup_singleton _, ?_⟩
  intro uri kept last isLast same
  have other := (List.mem_filter.mp kept).2
  rw [List.mem_singleton.mp isLast] at same
  simp [same] at other

theorem Distinct.remove {store : Store} (distinct : store.Distinct) (closed : Uri) :
    (store.remove closed).Distinct := by
  rw [Distinct, uris_remove]
  exact distinct.filter _

/-! ## Giving a text -/

/-- The store with a document that was given a text: touched if it was open, inserted if not. -/
def put (store : Store) (document : Document) : Store :=
  if store.contains document.uri then store.touch document else store.insert document

/-- The version of a document after a text was given to it together with a version. -/
def versionAfter (store : Store) (uri : Uri) (supplied : Option Int) : Int :=
  match store.find? uri with
  | some document => Document.nextVersion document.version supplied
  | none => supplied.getD 1

/-- The language of a document after a text was given to it without a language. -/
def languageAfter (store : Store) (uri : Uri) : String :=
  ((store.find? uri).map (·.language)).getD defaultLanguage

/-- Opening a document puts it into the store, unless its text is too large. -/
theorem openDocument_eq (store : Store) (uri : Uri) (text : String) (version : Int)
    (language : String) :
    store.openDocument uri text version language =
      if store.maxBytes < text.utf8ByteSize then .error ⟨uri, text.utf8ByteSize, store.maxBytes⟩
      else .ok (store.put ⟨uri, text, store.versionAfter uri (some version), language⟩) := by
  unfold openDocument checkSize put versionAfter contains
  split
  · rfl
  · cases store.find? uri <;> rfl

/-- Updating a document puts it into the store, unless its text is too large. -/
theorem update_eq (store : Store) (uri : Uri) (text : String) (version : Option Int) :
    store.update uri text version =
      if store.maxBytes < text.utf8ByteSize then .error ⟨uri, text.utf8ByteSize, store.maxBytes⟩
      else .ok (store.put ⟨uri, text, store.versionAfter uri version, store.languageAfter uri⟩,
        store.versionAfter uri version) := by
  unfold update checkSize put versionAfter languageAfter contains
  split
  · rfl
  · cases found : store.find? uri with
    | none => rfl
    | some document =>
      -- the stored document keeps its name, which is the one it was found by
      have same := uri_of_find? found
      subst same
      rfl

/-- The same about the store alone. -/
theorem map_fst_update_eq (store : Store) (uri : Uri) (text : String) (version : Option Int) :
    (store.update uri text version).map (·.1) =
      if store.maxBytes < text.utf8ByteSize then .error ⟨uri, text.utf8ByteSize, store.maxBytes⟩
      else .ok (store.put
        ⟨uri, text, store.versionAfter uri version, store.languageAfter uri⟩) := by
  rw [update_eq]
  split <;> rfl

/-- There is room for a document that is open already, or when the store is not full. -/
def HasRoomFor (store : Store) (uri : Uri) : Prop :=
  uri ∈ store.uris ∨ store.size < store.maxDocuments

theorem contains_iff (store : Store) (uri : Uri) :
    store.contains uri = true ↔ uri ∈ store.uris := by
  rw [contains, ← not_iff_not, ← find?_eq_none_iff]
  simp

/-- A document that was put is found under its name, and all others are found as before. -/
theorem find?_put (store : Store) (document : Document) (uri : Uri)
    (room : store.HasRoomFor document.uri) :
    (store.put document).find? uri =
      if document.uri = uri then some document else store.find? uri := by
  unfold put
  split
  · exact find?_touch store document uri
  · next closed =>
    rw [contains_iff] at closed
    exact find?_insert_of_room store document uri (room.resolve_left closed) closed

/-- Only the name of the document that was put is new. -/
theorem mem_uris_put {store : Store} {document : Document} {uri : Uri}
    (room : store.HasRoomFor document.uri) (present : uri ∈ (store.put document).uris) :
    uri = document.uri ∨ uri ∈ store.uris := by
  unfold put at present
  split at present
  · rw [uris_touch] at present
    simp only [List.mem_append, List.mem_filter, List.mem_singleton] at present
    exact present.symm.imp_right And.left
  · next closed =>
    rw [contains_iff] at closed
    rw [uris_insert_of_room store document (room.resolve_left closed)] at present
    simp only [List.mem_append, List.mem_singleton] at present
    exact present.symm

@[simp] theorem maxBytes_put (store : Store) (document : Document) :
    (store.put document).maxBytes = store.maxBytes := by
  simp only [put, touch, insert, evict]
  split
  · rfl
  · split
    · split <;> rfl
    · rfl

@[simp] theorem maxDocuments_put (store : Store) (document : Document) :
    (store.put document).maxDocuments = store.maxDocuments := by
  simp only [put, touch, insert, evict]
  split
  · rfl
  · split
    · split <;> rfl
    · rfl

/-! ## Reading -/

/-- Reading a document returns what is found, -/
@[simp] theorem snapshot_snd (store : Store) (uri : Uri) :
    (store.snapshot uri).2 = store.find? uri := by
  unfold snapshot
  split <;> simp_all

/-- and changes no lookup. -/
@[simp] theorem find?_snapshot (store : Store) (read uri : Uri) :
    (store.snapshot read).1.find? uri = store.find? uri := by
  unfold snapshot
  split
  · next document found =>
    have same := uri_of_find? found
    change (store.touch document).find? uri = store.find? uri
    rw [find?_touch]
    split
    · next equal =>
      rw [← equal, same, found]
    · rfl
  · rfl

theorem mem_uris_snapshot {store : Store} {read uri : Uri}
    (present : uri ∈ (store.snapshot read).1.uris) : uri ∈ store.uris := by
  by_contra absent
  rw [← find?_eq_none_iff, ← find?_snapshot store read, find?_eq_none_iff] at absent
  exact absent present

theorem Distinct.snapshot {store : Store} (distinct : store.Distinct) (uri : Uri) :
    (store.snapshot uri).1.Distinct := by
  unfold Store.snapshot
  split
  · next document _ => exact distinct.touch document
  · exact distinct

@[simp] theorem maxBytes_snapshot (store : Store) (uri : Uri) :
    (store.snapshot uri).1.maxBytes = store.maxBytes := by
  unfold snapshot
  split <;> rfl

@[simp] theorem maxDocuments_snapshot (store : Store) (uri : Uri) :
    (store.snapshot uri).1.maxDocuments = store.maxDocuments := by
  unfold snapshot
  split <;> rfl

end Store

end KotlinAssist
