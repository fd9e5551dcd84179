import KotlinAssist.Completion
import Mathlib.Data.List.Basic

/-!
# Completions and the declarations they stand for

Three features look a declared name up on their own: the list of completions keeps the first
candidate of each group and label, the documentation of an item is that of the first declaration of
its kind and name, and a hover text goes through the kinds in a fixed order.  They agree, because
all three take the first of several declarations, and because functions come first among the kinds.

Functions and properties are offered in the same way and differ in what an item says about them; a
`DeclaredGroup` holds that difference.

## Main definitions

* `DeclaredGroup` — how the declarations of one kind are offered
* `DeclaredGroup.functions`, `DeclaredGroup.properties` — the two groups

## Main statements

* `Candidate.find?_of_mem_distinct` — what is kept of several candidates is the first
* `Candidate.labels_distinct` — the labels that are kept, in their order
* `completions_agree_with_declarations` — completions, their documentation and hover texts
-/

namespace KotlinAssist

open Text

/-! ## The first of several candidates -/

namespace Candidate

/-- Whether two candidates are taken for one: they have the same group and label. -/
def isSame (candidate other : Candidate) : Bool :=
  other.category == candidate.category && other.label == candidate.label

theorem isSame_iff {candidate other : Candidate} :
    candidate.isSame other = true ↔
      other.category = candidate.category ∧ other.label = candidate.label := by
  rw [isSame, Bool.and_eq_true, beq_iff_eq, beq_iff_eq]

theorem distinct_cons (candidate : Candidate) (rest : List Candidate) :
    distinct (candidate :: rest) =
      candidate :: (distinct rest).filter fun other => !candidate.isSame other :=
  rfl

/-- Candidates can be chosen by their group and label before or after repetitions are dropped. -/
theorem filter_distinct {keep : Candidate → Bool}
    (byKey : ∀ candidate other, isSame candidate other = true → keep other = keep candidate)
    (candidates : List Candidate) :
    (distinct candidates).filter keep = distinct (candidates.filter keep) := by
  induction candidates with
  | nil => rfl
  | cons candidate rest ih =>
    rw [distinct_cons]
    cases kept : keep candidate with
    | true =>
      rw [List.filter_cons_of_pos kept, List.filter_cons_of_pos kept, distinct_cons, ← ih,
        List.filter_filter, List.filter_filter]
      simp only [Bool.and_comm]
    | false =>
      have dropped : ¬ keep candidate = true := by rw [kept]; exact Bool.false_ne_true
      rw [List.filter_cons_of_neg dropped, List.filter_cons_of_neg dropped, ← ih,
        List.filter_filter]
      refine List.filter_congr fun other _ => ?_
      -- what is kept is not the same as a candidate that is not
      cases same : candidate.isSame other with
      | true => rw [byKey candidate other same, kept]; rfl
      | false => rw [Bool.not_false, Bool.and_true]

/-- Of the candidates of one group, choosing a group keeps all or none. -/
theorem filter_of_group {own : CompletionCategory} {candidates : List Candidate}
    (group : ∀ candidate ∈ candidates, candidate.category = own) (category : CompletionCategory) :
    candidates.filter (·.category == category) = if own = category then candidates else [] := by
  split
  · next same =>
    refine List.filter_eq_self.mpr fun candidate member => ?_
    rw [group candidate member, same, beq_self_eq_true]
  · next other =>
    refine List.filter_eq_nil_iff.mpr fun candidate member => ?_
    rw [group candidate member, beq_iff_eq]
    exact other

/-- **What is kept of several candidates is the first.** -/
theorem find?_of_mem_distinct {candidates : List Candidate} {candidate : Candidate}
    (member : candidate ∈ distinct candidates) :
    candidates.find? candidate.isSame = some candidate := by
  induction candidates with
  | nil => cases member
  | cons first rest ih =>
    rw [distinct_cons] at member
    rcases List.mem_cons.mp member with rfl | later
    · exact List.find?_cons_of_pos (isSame_iff.mpr ⟨rfl, rfl⟩)
    · obtain ⟨among, other⟩ := List.mem_filter.mp later
      have differs : ¬ candidate.isSame first = true := by
        intro same
        obtain ⟨category, label⟩ := isSame_iff.mp same
        rw [isSame_iff.mpr ⟨category.symm, label.symm⟩] at other
        cases other
      rw [List.find?_cons_of_neg differs]
      exact ih among

/-- The labels that are kept of one group: each label once, in the order of first appearance. -/
theorem labels_distinct {category : CompletionCategory} (candidates : List Candidate)
    (group : ∀ candidate ∈ candidates, candidate.category = category) :
    (distinct candidates).map Candidate.label = (candidates.map Candidate.label).eraseDups := by
  match candidates with
  | [] => rfl
  | first :: rest =>
    have later : (rest.filter fun other => !first.isSame other).map Candidate.label =
        (rest.map Candidate.label).filter fun label => !label == first.label := by
      rw [List.filter_map]
      refine congrArg _ (List.filter_congr fun other member => ?_)
      have sameGroup : other.category = first.category :=
        (group other (List.mem_cons_of_mem _ member)).trans
          (group first List.mem_cons_self).symm
      simp [isSame, sameGroup]
    have byKey (candidate other : Candidate) (same : isSame candidate other = true) :
        (!first.isSame other) = !first.isSame candidate := by
      obtain ⟨category, label⟩ := isSame_iff.mp same
      rw [isSame, isSame, category, label]
    have shorter := labels_distinct (rest.filter fun other => !first.isSame other)
      fun other member => group other (List.mem_cons_of_mem _ (List.mem_of_mem_filter member))
    rw [distinct_cons, filter_distinct byKey, List.map_cons, shorter, later, List.map_cons,
      List.eraseDups_cons]
termination_by candidates.length
decreasing_by exact Nat.lt_succ_of_le (List.length_filter_le _ _)

end Candidate

/-! ## The two groups of declarations -/

/-- How the declarations of one kind are offered. -/
structure DeclaredGroup where
  kind : DeclarationKind
  category : CompletionCategory
  /-- What an item says about its declaration. -/
  detail : Declaration → String
  insertText : Declaration → Option String

namespace DeclaredGroup

/-- Functions are shown with their signature and inserted as a call. -/
def functions : DeclaredGroup where
  kind := .function
  category := .function
  detail := Declaration.render
  insertText declaration := some (declaration.name ++ "()")

/-- Properties are shown with their signature and with whether they can change. -/
def properties : DeclaredGroup where
  kind := .property
  category := .property
  detail declaration :=
    let mutability := if declaration.mutable then "mutable" else "immutable"
    s!"{declaration.render} ({mutability})"
  insertText _ := none

/-- The declarations of a document that belong to a group, in line order. -/
def declared (group : DeclaredGroup) (document : List Line) : List Declaration :=
  (Declaration.ofLines document).filter (·.kind == group.kind)

/-- The first declaration of a group with a given name. -/
theorem find?_declared (group : DeclaredGroup) (document : List Line) (name : String) :
    (group.declared document).find? (·.name == name) =
      (Declaration.ofLines document).find? fun declaration =>
        declaration.kind == group.kind && declaration.name == name := by
  rw [declared, List.find?_filter]
  simp only [Bool.decide_and, Bool.decide_eq_true]

/-- What a declaration of a group is offered as. -/
def candidate (group : DeclaredGroup) (declaration : Declaration) : Candidate :=
  ⟨group.category, declaration.name, group.detail declaration, group.insertText declaration⟩

/-- The items of a group among completions. -/
def items (group : DeclaredGroup) (offered : List CompletionItem) : List CompletionItem :=
  offered.filter (·.kind == some group.category.kindCode)

/-- The candidates of a document, group by group. -/
theorem all_eq_distinct (document : List Line) (typed : List Char) :
    Candidate.all document typed =
      Candidate.distinct (Candidate.keywords typed ++ Candidate.types typed ++
        (functions.declared document).map functions.candidate ++
        (properties.declared document).map properties.candidate) :=
  rfl

variable {group : DeclaredGroup}

theorem category_of_mem_map {declarations : List Declaration} :
    ∀ candidate ∈ declarations.map group.candidate, candidate.category = group.category := by
  intro candidate member
  obtain ⟨declaration, -, rfl⟩ := List.mem_map.mp member
  rfl

/-- The candidates of a group are its declarations, of each name the first. -/
theorem filter_all (isGroup : group ∈ [functions, properties]) (document : List Line)
    (typed : List Char) :
    (Candidate.all document typed).filter (·.category == group.category) =
      Candidate.distinct ((group.declared document).map group.candidate) := by
  have keywords : ∀ candidate ∈ Candidate.keywords typed, candidate.category = .keyword := by
    intro candidate member
    obtain ⟨word, -, rfl⟩ := List.mem_map.mp member
    rfl
  have types : ∀ candidate ∈ Candidate.types typed, candidate.category = .type := by
    intro candidate member
    obtain ⟨name, -, rfl⟩ := List.mem_map.mp member
    rfl
  have byKey (candidate other : Candidate) (same : candidate.isSame other = true) :
      (other.category == group.category) = (candidate.category == group.category) := by
    rw [(Candidate.isSame_iff.mp same).1]
  rw [all_eq_distinct, Candidate.filter_distinct byKey]
  simp only [List.filter_append, Candidate.filter_of_group keywords,
    Candidate.filter_of_group types, Candidate.filter_of_group category_of_mem_map]
  simp only [List.mem_cons, List.not_mem_nil, or_false] at isGroup
  rcases isGroup with rfl | rfl
  · simp [functions, properties]
  · simp [functions, properties]

/-- A declaration is kept as a candidate when it is the first of its group and name. -/
theorem exists_first_of_mem_filter (isGroup : group ∈ [functions, properties])
    {document : List Line} {typed : List Char} {candidate : Candidate}
    (member : candidate ∈ (Candidate.all document typed).filter (·.category == group.category)) :
    ∃ first, (group.declared document).find? (·.name == candidate.label) = some first ∧
      candidate = group.candidate first := by
  have category : candidate.category = group.category :=
    eq_of_beq (List.mem_filter.mp member).2
  rw [filter_all isGroup] at member
  have found := Candidate.find?_of_mem_distinct member
  rw [List.find?_map] at found
  obtain ⟨first, isFirst, rfl⟩ := Option.map_eq_some_iff.mp found
  refine ⟨first, ?_, rfl⟩
  rw [← isFirst]
  refine congrArg (List.find? · _) (funext fun other => ?_)
  simp [Candidate.isSame, candidate]

end DeclaredGroup

/-! ## Items -/

theorem CompletionCategory.kindCode_inj {left right : CompletionCategory} :
    left.kindCode = right.kindCode ↔ left = right := by
  cases left <;> cases right <;> simp [kindCode]

@[simp] theorem CompletionCategory.ofLabel?_label (category : CompletionCategory) :
    ofLabel? category.label = some category := by
  cases category <;> decide

/-- The data that an item carries are understood when it comes back. -/
theorem Candidate.data?_toItem {uri : Uri} (absolute : Uri.isAbsolute uri = true)
    (candidate : Candidate) (place : Nat) :
    (candidate.toItem uri place).data? = some ⟨uri, candidate.category⟩ := by
  have parts : CompletionData.ofParts? (.str uri) (.str candidate.category.label) =
      some ⟨uri, candidate.category⟩ := by
    simp [CompletionData.ofParts?, Json.str?, Json.choice?, absolute]
  rw [← parts]
  rfl

/-- An item whose documentation is found keeps all else. -/
theorem CompletionItem.resolve_of_documentation? {item : CompletionItem} {data : CompletionData}
    {document : Option (List Line)} {markup : Markup} (carried : item.data? = some data)
    (found : item.documentation? data.category document = some markup) :
    item.resolve document = { item with documentation := some markup } := by
  rw [resolve, carried, Option.bind_some, found]

/-- Completions are the candidates for what has been typed, each at its place. -/
theorem exists_candidates_of_completions {uri : Uri} {document : List Line} {position : Position}
    (nonempty : completions uri document position ≠ []) :
    ∃ typed, completions uri document position =
      (Candidate.all document typed).mapIdx fun place candidate => candidate.toItem uri place := by
  rw [completions] at nonempty ⊢
  split
  · next missing =>
    rw [missing] at nonempty
    exact absurd rfl nonempty
  · next typed _ => exact ⟨typed, rfl⟩

namespace DeclaredGroup

/-- The items of a group are its candidates at their places. -/
theorem items_mapIdx (group : DeclaredGroup) (uri : Uri) (candidates : List Candidate) :
    group.items (candidates.mapIdx fun place candidate => candidate.toItem uri place) =
      (candidates.zipIdx.filter fun entry => entry.1.category == group.category).map
        fun entry => entry.1.toItem uri entry.2 := by
  rw [items, List.mapIdx_eq_zipIdx_map, List.filter_map]
  refine congrArg _ (List.filter_congr fun entry _ => ?_)
  rw [Bool.eq_iff_iff]
  simp [Candidate.toItem, CompletionCategory.kindCode_inj]

theorem labels_items (group : DeclaredGroup) (uri : Uri) (candidates : List Candidate) :
    (group.items (candidates.mapIdx fun place candidate => candidate.toItem uri place)).map
        CompletionItem.label =
      (candidates.filter (·.category == group.category)).map Candidate.label := by
  conv_rhs => rw [← List.zipIdx_map_fst 0 candidates, List.filter_map, List.map_map]
  rw [items_mapIdx, List.map_map]
  rfl

theorem exists_of_mem_items {group : DeclaredGroup} {uri : Uri} {candidates : List Candidate}
    {item : CompletionItem}
    (member : item ∈ group.items
      (candidates.mapIdx fun place candidate => candidate.toItem uri place)) :
    ∃ candidate ∈ candidates.filter (·.category == group.category), ∃ place,
      item = candidate.toItem uri place := by
  rw [items_mapIdx] at member
  obtain ⟨⟨candidate, place⟩, found, rfl⟩ := List.mem_map.mp member
  obtain ⟨among, chosen⟩ := List.mem_filter.mp found
  have offered := (List.mem_zipIdx among).2.2 ▸ List.getElem_mem _
  exact ⟨candidate, List.mem_filter.mpr ⟨offered, chosen⟩, place, rfl⟩

/-- The documentation of an item is the hover text of the first declaration of its group and
name. -/
theorem documentation?_of_first {group : DeclaredGroup} (isGroup : group ∈ [functions, properties])
    {document : List Line} {item : CompletionItem} {first : Declaration}
    (isFirst : (group.declared document).find? (·.name == item.label) = some first) :
    item.documentation? group.category (some document) =
      some (.markdown (Hover.ofDeclaration document first)) := by
  have documented : item.declared? group.kind document =
      some (.markdown (Hover.ofDeclaration document first)) := by
    rw [CompletionItem.declared?, ← find?_declared, isFirst, Option.map_some]
  simp only [List.mem_cons, List.not_mem_nil, or_false] at isGroup
  rcases isGroup with rfl | rfl
  · exact documented
  · exact documented

end DeclaredGroup

/-- A name that is no reserved word with a description shows the first function of that name. -/
theorem Hover.ofWord?_of_function {document : List Line} {name : String} {first : Declaration}
    (noDescription : Vocabulary.keywordDoc? name = none)
    (isFirst : (DeclaredGroup.functions.declared document).find? (·.name == name) = some first) :
    ofWord? document name = some (ofDeclaration document first) := by
  have found : ((Declaration.ofLines document).filter (·.name == name)).find?
      (·.kind == .function) = some first := by
    rw [← isFirst, DeclaredGroup.find?_declared, List.find?_filter]
    simp only [Bool.decide_and, Bool.decide_eq_true, Bool.and_comm]
    rfl
  rw [ofWord?, noDescription, Declaration.find?, found]
  rfl

/-- **Completions, their documentation and hover texts agree on declarations.**  Where there are
completions at all, those of functions are the names of the functions of the document, each once and
in the order of first declaration; an item shows the signature of the first function of its name,
its documentation is the hover text of that function and changes nothing else, and so is the hover
text of every word with that name which is no reserved word with a description.  Likewise those of
properties, up to hover texts, where other kinds of declarations come first. -/
theorem completions_agree_with_declarations (uri : Uri) (absolute : Uri.isAbsolute uri = true)
    (document : List Line) (position : Position)
    (nonempty : completions uri document position ≠ []) :
    ∀ group ∈ [DeclaredGroup.functions, DeclaredGroup.properties],
      (group.items (completions uri document position)).map CompletionItem.label =
        ((group.declared document).map Declaration.name).eraseDups ∧
      ∀ item ∈ group.items (completions uri document position),
        ∃ first, (group.declared document).find? (·.name == item.label) = some first ∧
          item.detail = some (group.detail first) ∧
          item.resolve (some document) =
            { item with documentation := some (.markdown (Hover.ofDeclaration document first)) } ∧
          (group.kind = .function → Vocabulary.keywordDoc? item.label = none →
            ∀ place word, wordAtPosition? document place = some word → word.text = item.label →
              Hover.at? document place =
                some ⟨Hover.ofDeclaration document first, word.range place.line⟩) := by
  intro group isGroup
  obtain ⟨typed, offered⟩ := exists_candidates_of_completions nonempty
  rw [offered]
  constructor
  · rw [DeclaredGroup.labels_items, DeclaredGroup.filter_all isGroup,
      Candidate.labels_distinct _ DeclaredGroup.category_of_mem_map, List.map_map]
    rfl
  · intro item member
    obtain ⟨candidate, kept, place, rfl⟩ := DeclaredGroup.exists_of_mem_items member
    obtain ⟨first, isFirst, rfl⟩ := DeclaredGroup.exists_first_of_mem_filter isGroup kept
    refine ⟨first, isFirst, rfl, ?_, ?_⟩
    · refine CompletionItem.resolve_of_documentation? (Candidate.data?_toItem absolute _ place) ?_
      exact DeclaredGroup.documentation?_of_first isGroup isFirst
    · intro isFunction noDescription seen word found same
      simp only [List.mem_cons, List.not_mem_nil, or_false] at isGroup
      obtain rfl : group = .functions := isGroup.resolve_right fun other => by
        rw [other] at isFunction
        cases isFunction
      rw [Hover.at?, found, Option.bind_eq_bind, Option.bind_some, same,
        Hover.ofWord?_of_function noDescription isFirst]
      rfl

/-- A property and two functions share a name: the first function is offered and shown. -/
theorem completions_agree_with_declarations_overloads :
    let uri := "file:///a.kt"
    let document := lines "val f = 1\n/**\n * Adds.\n */\nfun f(n: Int) = n\nfun f() = 2\n"
    let items := DeclaredGroup.functions.items (completions uri document ⟨0, 3⟩)
    Uri.isAbsolute uri = true ∧ completions uri document ⟨0, 3⟩ ≠ [] ∧
      ∃ item, items = [item] ∧ item.label = "f" ∧ item.detail = some "fun f(n: Int)" ∧
        Vocabulary.keywordDoc? item.label = none ∧
        (item.resolve (some document)).documentation =
          some (.markdown "```kotlin\nfun f(n: Int)\n```\n\n---\n\nAdds.") ∧
        (Hover.at? document ⟨0, 4⟩).map Hover.value =
          some "```kotlin\nfun f(n: Int)\n```\n\n---\n\nAdds." := by
  intro uri document items
  have absolute : Uri.isAbsolute uri = true := by decide +kernel
  have nonempty : completions uri document ⟨0, 3⟩ ≠ [] := by
    rw [← List.isEmpty_eq_false_iff]
    decide +kernel
  have names : ((DeclaredGroup.functions.declared document).map Declaration.name).eraseDups =
      ["f"] := by decide +kernel
  have signature : ((DeclaredGroup.functions.declared document).find? (·.name == "f")).map
      (fun first => (first.render, Hover.ofDeclaration document first)) =
        some ("fun f(n: Int)", "```kotlin\nfun f(n: Int)\n```\n\n---\n\nAdds.") := by decide +kernel
  have word : wordAtPosition? document ⟨0, 4⟩ = some ⟨"f", ⟨4, 5⟩⟩ := by decide +kernel
  obtain ⟨labels, agrees⟩ := completions_agree_with_declarations uri absolute document ⟨0, 3⟩
    nonempty .functions List.mem_cons_self
  rw [names] at labels
  obtain ⟨item, only, isNamed⟩ := List.map_eq_singleton_iff.mp labels
  obtain ⟨first, isFirst, detail, resolved, shown⟩ :=
    agrees item (by rw [only]; exact List.mem_singleton_self item)
  rw [isNamed] at isFirst shown
  rw [isFirst, Option.map_some, Option.some.injEq, Prod.mk.injEq] at signature
  have noDescription : Vocabulary.keywordDoc? "f" = none := by decide +kernel
  refine ⟨absolute, nonempty, item, only, isNamed, ?_, ?_, ?_, ?_⟩
  · rw [detail]
    exact congrArg some signature.1
  · rw [isNamed]
    exact noDescription
  · rw [resolved]
    exact congrArg (some ∘ Markup.markdown) signature.2
  · rw [shown rfl noDescription ⟨0, 4⟩ _ word rfl]
    exact congrArg some signature.2

end KotlinAssist
