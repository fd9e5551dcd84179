import KotlinAssist.Proofs.Store.Lookup

/-!
# Documents that give way

A document that is put into a full store takes the place of the one touched least recently.  Nothing
else is lost, nothing but the document itself is new, and it is found under its name in any case.

## Main statements

* `Store.find?_put_self` — a document that was put is found
* `Store.find?_of_find?_put` — all others are found as before, or not at all
* `Store.Distinct.put` — no name is stored twice
* `Store.size_insert` — how many documents there are then
-/

namespace KotlinAssist

namespace Store

/-- In a store without repeated names, the document of a name is the one stored with that name. -/
theorem Distinct.find?_eq_some_iff {store : Store} (distinct : store.Distinct) {uri : Uri}
    {document : Document} :
    store.find? uri = some document ↔ document ∈ store.documents ∧ document.uri = uri := by
  constructor
  · intro found
    exact ⟨List.mem_of_find?_eq_some found, uri_of_find? found⟩
  · rintro ⟨stored, rfl⟩
    cases found : store.find? document.uri with
    | none =>
      have absent := (find?_eq_none_iff store document.uri).mp found
      exact (absent (List.mem_map_of_mem stored)).elim
    | some other =>
      have same := List.inj_on_of_nodup_map distinct (List.mem_of_find?_eq_some found) stored
        (uri_of_find? found)
      rw [same]

/-! ## Inserting -/

/-- The documents that stay when a new one is inserted. -/
def staying (store : Store) : List Document :=
  if store.maxDocuments ≤ store.size then store.documents.tail else store.documents

theorem staying_sublist (store : Store) : store.staying.Sublist store.documents := by
  unfold staying
  split
  · exact List.tail_sublist store.documents
  · exact List.Sublist.refl _

/-- An inserted document is the one touched last. -/
theorem documents_insert (store : Store) (document : Document) :
    (store.insert document).documents = store.staying ++ [document] := by
  unfold insert staying
  split
  · unfold evict
    cases documents : store.documents <;> simp [documents]
  · rfl

/-- A store below its limit grows; any other keeps its size, and an empty one has a document. -/
theorem size_insert (store : Store) (document : Document) :
    (store.insert document).size =
      if store.maxDocuments ≤ store.size then max 1 store.size else store.size + 1 := by
  by_cases full : store.maxDocuments ≤ store.size
  · rw [if_pos full, size, documents_insert, staying, if_pos full, List.length_append,
      List.length_tail, List.length_singleton, size]
    omega
  · rw [if_neg full, size, documents_insert, staying, if_neg full, List.length_append,
      List.length_singleton, size]

theorem Distinct.insert {store : Store} (distinct : store.Distinct) {document : Document}
    (absent : document.uri ∉ store.uris) : (store.insert document).Distinct := by
  have names := store.staying_sublist.map Document.uri
  rw [Distinct, uris, documents_insert, List.map_append, List.nodup_append]
  refine ⟨names.nodup distinct, List.nodup_singleton _, ?_⟩
  intro uri stayed last isLast same
  rw [List.map_singleton, List.mem_singleton] at isLast
  rw [same, isLast] at stayed
  exact absent (names.subset stayed)

/-! ## Putting -/

theorem mem_documents_put {store : Store} {document stored : Document}
    (present : stored ∈ (store.put document).documents) :
    stored = document ∨ stored ∈ store.documents := by
  unfold put at present
  split at present
  · rcases List.mem_append.mp present with kept | last
    · exact .inr (List.mem_of_mem_filter kept)
    · exact .inl (List.mem_singleton.mp last)
  · rw [documents_insert] at present
    rcases List.mem_append.mp present with stayed | last
    · exact .inr (store.staying_sublist.subset stayed)
    · exact .inl (List.mem_singleton.mp last)

/-- A document that was put is stored, -/
theorem mem_documents_put_self (store : Store) (document : Document) :
    document ∈ (store.put document).documents := by
  unfold put
  split
  · exact List.mem_append_right _ (List.mem_singleton_self document)
  · rw [documents_insert]
    exact List.mem_append_right _ (List.mem_singleton_self document)

/-- and no name is stored twice, whether or not another document gave way. -/
theorem Distinct.put {store : Store} (distinct : store.Distinct) (document : Document) :
    (store.put document).Distinct := by
  unfold Store.put
  split
  · exact distinct.touch document
  · next closed =>
    rw [contains_iff] at closed
    exact distinct.insert closed

theorem find?_put_self {store : Store} (distinct : store.Distinct) (document : Document) :
    (store.put document).find? document.uri = some document :=
  (distinct.put document).find?_eq_some_iff.mpr ⟨store.mem_documents_put_self document, rfl⟩

/-- What is found under another name was there before. -/
theorem find?_of_find?_put {store : Store} (distinct : store.Distinct) {document found : Document}
    {uri : Uri} (other : document.uri ≠ uri) (present : (store.put document).find? uri = some found) :
    store.find? uri = some found := by
  obtain ⟨stored, named⟩ := (distinct.put document).find?_eq_some_iff.mp present
  rcases mem_documents_put stored with rfl | before
  · exact (other named).elim
  · exact distinct.find?_eq_some_iff.mpr ⟨before, named⟩

end Store

end KotlinAssist
