import KotlinAssist.Proofs.Grammar.Writing

/-!
# Signatures are read back

The signature of a declaration, read as a line of its own, declares the same: the same kind of thing
under the same name, with the same modifiers, parameters and type.  What a line says beside that is
gone: markers, type parameters and receiver types, the value of a property and the body of a
function.  A second signature is therefore the same as the first.

## Main definitions

* `SameSignature` — declarations that agree in all that a signature says

## Main statements

* `render_ofFunction` and others — how a signature is written
* `render_reads_back` — a signature declares what it was written for
-/

namespace KotlinAssist

open Text Grammar

/-! ## Modifiers -/

namespace Grammar

theorem isModifier_of_mem_modifierWords (lead : List Char) :
    ∀ word ∈ modifierWords lead, Vocabulary.isModifier word = true := by
  intro word member
  exact (List.mem_filter.mp member).2

/-- The words of written modifiers are the modifiers. -/
theorem modifierWords_spaced {modifiers : List String}
    (modified : ∀ word ∈ modifiers, Vocabulary.isModifier word = true) :
    modifierWords (spaced modifiers) = modifiers := by
  induction modifiers with
  | nil => rfl
  | cons word rest ih =>
    rw [List.forall_mem_cons] at modified
    have named := isName_modifier modified.1
    have nonempty := ne_nil_of_isName named
    have first : words (spaced (word :: rest)) = word.toList :: words (spaced rest) := by
      rw [← words_append_blank nonempty (isBlank_of_isName named)
        (show isBlank ' ' = true by decide)]
      simp [spaced]
    unfold modifierWords at ih ⊢
    rw [first, List.map_cons, String.ofList_toList, List.filter_cons_of_pos modified.1,
      ih modified.2]

end Grammar

namespace Declaration

/-! ## What a signature says -/

/-- Declarations that agree in all that a signature says. -/
structure SameSignature (left right : Declaration) : Prop where
  name : left.name = right.name
  kind : left.kind = right.kind
  modifiers : left.modifiers = right.modifiers
  parameters : left.parameters = right.parameters
  declaredType : left.declaredType = right.declaredType
  mutable : left.mutable = right.mutable

theorem SameSignature.render_eq {left right : Declaration} (same : SameSignature left right) :
    left.render = right.render := by
  simp only [render, body, typeSuffix, same.name, same.kind, same.modifiers, same.parameters,
    same.declaredType, same.mutable]

theorem toList_render (declaration : Declaration) :
    declaration.render.toList = spaced declaration.modifiers ++ declaration.body.toList := by
  rw [render, String.toList_append, String.toList_join]
  simp [spaced, List.flatMap_map]

theorem toList_typeSuffix (declaration : Declaration) :
    declaration.typeSuffix.toList = typePart (declaration.declaredType.map String.toList) := by
  rw [typeSuffix]
  split <;> next same => simp [same, typePart]

/-! ## How signatures are written -/

/-- The word that introduces a type of a given kind. -/
def typeWord : DeclarationKind → String
  | .interface => "interface"
  | .object => "object"
  | _ => "class"

/-- The kind of a class with given modifiers. -/
def classKind (modifiers : List String) : DeclarationKind :=
  if modifiers.contains "enum" then .enumClass else .plainClass

theorem ofClass_eq (index : Nat) (line : Line) (head : Head) :
    ofClass index line head = ofHead index line (classKind (modifierWords head.lead)) head :=
  rfl

section Render

variable (index : Nat) (line : Line)

theorem render_ofHead {kind : DeclarationKind} (typeLike : kind.isTypeLike = true) (head : Head) :
    (ofHead index line kind head).render.toList =
      written (modifierWords head.lead) (typeWord kind) head.name := by
  rw [toList_render]
  cases kind with
  | function | property => contradiction
  | _ => simp [ofHead, body, written, typeWord]

theorem render_ofFunction (head : FunctionHead) :
    (ofFunction index line head).render.toList =
      written (modifierWords head.lead) "fun"
        (head.name ++ '(' :: (trim head.parameters ++ ')' ::
          typePart ((returnType? head).map String.toList))) := by
  rw [toList_render]
  simp [ofFunction, ofHead, body, written, toList_typeSuffix, (trimmed_trim _).trim_eq]

theorem render_ofProperty (head : PropertyHead) :
    (ofProperty index line head).render.toList =
      written (modifierWords head.lead) (if head.mutable then "var" else "val")
        (head.name ++ typePart ((head.clause.bind typeText?).map String.toList)) := by
  rw [toList_render]
  cases mutable : head.mutable <;>
    simp [ofProperty, ofHead, body, written, toList_typeSuffix, mutable]

end Render

/-! ## Types -/

theorem typeText?_eq_some {clause : TypeClause} {type : String}
    (found : typeText? clause = some type) :
    trim clause.type ≠ [] ∧ type.toList = trim clause.type := by
  unfold typeText? at found
  split at found
  · cases found
  · next nonempty =>
    cases found
    exact ⟨nonempty, String.toList_ofList⟩

/-- A type that trimming leaves as it is, is read as it is. -/
theorem typeText?_mk (colon : List Char) {type : String} (trimmed : Trimmed type.toList)
    (nonempty : type.toList ≠ []) : typeText? ⟨colon, type.toList⟩ = some type := by
  unfold typeText?
  rw [trimmed.trim_eq]
  split
  · contradiction
  · rw [String.ofList_toList]

theorem bind_typeText?_map (colon : List Char) {type : Option String}
    (types : ∀ t ∈ type.map String.toList, Trimmed t ∧ t ≠ []) :
    ((type.map String.toList).map (TypeClause.mk colon)).bind typeText? = type := by
  cases type with
  | none => rfl
  | some type =>
    obtain ⟨trimmed, nonempty⟩ := types type.toList rfl
    exact typeText?_mk colon trimmed nonempty

theorem returnType_of_returnType? (head : FunctionHead) :
    ∀ t ∈ (returnType? head).map String.toList, ReturnType t := by
  intro t member
  obtain ⟨type, found, rfl⟩ := Option.map_eq_some_iff.mp member
  rw [returnType?] at found
  split at found
  · obtain ⟨clause, read, found⟩ := Option.bind_eq_some_iff.mp found
    obtain ⟨nonempty, same⟩ := typeText?_eq_some found
    rw [same]
    exact returnType_of_returnClause? read nonempty
  · cases found

theorem propertyType_of_propertyHead? {text : List Char} {head : PropertyHead}
    (read : propertyHead? text = some head) :
    ∀ t ∈ (head.clause.bind typeText?).map String.toList, PropertyType t := by
  intro t member
  obtain ⟨type, found, rfl⟩ := Option.map_eq_some_iff.mp member
  obtain ⟨clause, isClause, found⟩ := Option.bind_eq_some_iff.mp found
  obtain ⟨nonempty, same⟩ := typeText?_eq_some found
  obtain ⟨rest, ending, clauseRead⟩ := (stands_of_propertyHead? read).2 clause isClause
  rw [same]
  exact propertyType_of_propertyClause? clauseRead nonempty

/-! ## Reading a signature -/

section Read

variable {modifiers : List String}
  (modified : ∀ word ∈ modifiers, Vocabulary.isModifier word = true)
  {name : List Char} (named : isName name = true) (index : Nat)

include modified

/-- Neither a class nor an object is read where another word introduces the declaration. -/
theorem ofLine?_written_of_ne {introducer : String} (introduces : introducer ∈ introducers)
    (no_class : introducer ≠ "class") (no_object : introducer ≠ "object") {text : List Char}
    (trimmed : Trimmed (written modifiers introducer text)) :
    let line := written modifiers introducer text
    ofLine? index line =
      (((interfaceHead? line).map (ofHead index line .interface)) <|>
      ((functionHead? line).map (ofFunction index line)) <|>
      ((propertyHead? line).map (ofProperty index line))) := by
  intro line
  have no_class : classHead? line = none :=
    introducedHead?_written_of_ne modified introduces (by decide) no_class.symm text
  have no_object : objectHead? line = none :=
    introducedHead?_written_of_ne modified introduces (by decide) no_object.symm text
  rw [ofLine?, trimmed.trim_eq, no_class, no_object]
  rfl

include named

theorem trimmed_written_name {introducer : String} (introduces : introducer ∈ introducers) :
    Trimmed (written modifiers introducer name) :=
  trimmed_written modified introduces (ne_nil_of_isName named) (getLast?_of_isName named)

theorem ofLine?_written_class :
    ofLine? index (written modifiers "class" name) =
      some (ofClass index (written modifiers "class" name)
        ⟨spaced modifiers, "class".toList ++ [' '], name⟩) := by
  have introduces : "class" ∈ introducers := by decide
  have read : classHead? (written modifiers "class" (name ++ [])) = _ :=
    introducedHead?_written modified introduces named rfl
  rw [List.append_nil] at read
  rw [ofLine?, (trimmed_written_name modified named introduces).trim_eq, read]
  rfl

theorem ofLine?_written_object :
    ofLine? index (written modifiers "object" name) =
      some (ofHead index (written modifiers "object" name) .object
        ⟨spaced modifiers, "object".toList ++ [' '], name⟩) := by
  have introduces : "object" ∈ introducers := by decide
  have no_class : classHead? (written modifiers "object" name) = none :=
    introducedHead?_written_of_ne modified introduces (by decide) (by decide) name
  have read : objectHead? (written modifiers "object" (name ++ [])) = _ :=
    introducedHead?_written modified introduces named rfl
  rw [List.append_nil] at read
  rw [ofLine?, (trimmed_written_name modified named introduces).trim_eq, no_class, read]
  rfl

theorem ofLine?_written_interface :
    ofLine? index (written modifiers "interface" name) =
      some (ofHead index (written modifiers "interface" name) .interface
        ⟨spaced modifiers, "interface".toList ++ [' '], name⟩) := by
  have introduces : "interface" ∈ introducers := by decide
  have read : interfaceHead? (written modifiers "interface" (name ++ [])) = _ :=
    interfaceHead?_written modified named rfl
  rw [List.append_nil] at read
  rw [ofLine?_written_of_ne modified index introduces (by decide) (by decide)
    (trimmed_written_name modified named introduces), read]
  rfl

/-- A written function is read as one.  Its parameters are closed, and all that follows them is its
type. -/
theorem ofLine?_written_function {parameters : List Char} (closes : ')' ∉ parameters)
    {type : Option (List Char)} (types : ∀ t ∈ type, Trimmed t ∧ t ≠ []) :
    let line := written modifiers "fun" (name ++ '(' :: (parameters ++ ')' :: typePart type))
    ofLine? index line =
      some (ofFunction index line
        { lead := spaced modifiers
          introducer := "fun".toList ++ [' ']
          name := name
          space := []
          parameters := parameters
          closed := true
          rest := typePart type }) := by
  intro line
  have introduces : "fun" ∈ introducers := by decide
  have trimmed : Trimmed line := by
    have closed : (name ++ '(' :: parameters ++ [')']).getLast?.any isBlank = false := by
      rw [List.getLast?_concat]
      decide
    have ends := getLast?_append_typePart closed types
    refine trimmed_written modified introduces (by simp) ?_
    simpa using ends
  rw [ofLine?_written_of_ne modified index introduces (by decide) (by decide) trimmed,
    interfaceHead?_written_function modified named, functionHead?_written modified named closes]
  rfl

/-- A written property is read as one. -/
theorem ofLine?_written_property (mutable : Bool) {type : Option (List Char)}
    (types : ∀ t ∈ type, PropertyType t) :
    let line := written modifiers (if mutable then "var" else "val") (name ++ typePart type)
    ofLine? index line =
      some (ofProperty index line
        { lead := spaced modifiers
          introducer := (if mutable then "var" else "val").toList ++ [' ']
          name := name
          mutable := mutable
          clause := type.map (TypeClause.mk [':', ' '])
          ending := [] }) := by
  intro line
  have introduces : (if mutable then "var" else "val") ∈ introducers := by
    cases mutable <;> decide
  have trimmed : Trimmed line := by
    refine trimmed_written modified introduces ?_ ?_
    · exact List.append_ne_nil_of_left_ne_nil (ne_nil_of_isName named) _
    · refine getLast?_append_typePart (getLast?_of_isName named) ?_
      intro t member
      exact ⟨(types t member).trimmed, (types t member).nonempty⟩
  rw [ofLine?_written_of_ne modified index introduces (by cases mutable <;> decide)
      (by cases mutable <;> decide) trimmed,
    interfaceHead?_written_of_ne modified introduces (by cases mutable <;> decide)
      (by cases mutable <;> decide),
    functionHead?_written_of_ne modified introduces (by cases mutable <;> decide),
    propertyHead?_written modified named types]
  rfl

end Read

/-! ## Signatures are read back -/

/-- A declaration whose signature, wherever it stands, declares the same. -/
def ReadsBack (declaration : Declaration) : Prop :=
  ∀ index, ∃ again, ofLine? index declaration.render.toList = some again ∧
    SameSignature again declaration

/-- A head with the same name and the same modifiers declares the same. -/
theorem sameSignature_ofHead {index index' : Nat} {line line' : Line} (kind : DeclarationKind)
    {head head' : Head} (name : head.name = head'.name)
    (modifiers : modifierWords head.lead = modifierWords head'.lead) :
    SameSignature (ofHead index line kind head) (ofHead index' line' kind head') where
  name := congrArg String.ofList name
  kind := rfl
  modifiers := modifiers
  parameters := rfl
  declaredType := rfl
  mutable := rfl

section ReadsBack

variable (index : Nat) (line : Line)

theorem readsBack_ofClass {head : Head} (named : isName head.name = true) :
    ReadsBack (ofClass index line head) := by
  intro index'
  have modified := isModifier_of_mem_modifierWords head.lead
  have typeLike : (classKind (modifierWords head.lead)).isTypeLike = true := by
    unfold classKind
    split <;> rfl
  have word : typeWord (classKind (modifierWords head.lead)) = "class" := by
    unfold classKind
    split <;> rfl
  rw [ofClass_eq, render_ofHead index line typeLike, word]
  refine ⟨_, ofLine?_written_class modified named index', ?_⟩
  rw [ofClass_eq, modifierWords_spaced modified]
  exact sameSignature_ofHead _ rfl (modifierWords_spaced modified)

theorem readsBack_ofObject {head : Head} (named : isName head.name = true) :
    ReadsBack (ofHead index line .object head) := by
  intro index'
  have modified := isModifier_of_mem_modifierWords head.lead
  rw [render_ofHead index line rfl]
  refine ⟨_, ofLine?_written_object modified named index', ?_⟩
  exact sameSignature_ofHead .object rfl (modifierWords_spaced modified)

theorem readsBack_ofInterface {head : Head} (named : isName head.name = true) :
    ReadsBack (ofHead index line .interface head) := by
  intro index'
  have modified := isModifier_of_mem_modifierWords head.lead
  rw [render_ofHead index line rfl]
  refine ⟨_, ofLine?_written_interface modified named index', ?_⟩
  exact sameSignature_ofHead .interface rfl (modifierWords_spaced modified)

theorem readsBack_ofFunction {head : FunctionHead} (named : isName head.name = true)
    (closes : ')' ∉ head.parameters) : ReadsBack (ofFunction index line head) := by
  intro index'
  have modified := isModifier_of_mem_modifierWords head.lead
  have types := returnType_of_returnType? head
  have solid : ∀ t ∈ (returnType? head).map String.toList, Trimmed t ∧ t ≠ [] := by
    intro t member
    exact ⟨(types t member).trimmed, (types t member).nonempty⟩
  have closes' : ')' ∉ trim head.parameters := by
    intro member
    exact closes (mem_of_mem_trim member)
  rw [render_ofFunction]
  refine ⟨_, ofLine?_written_function modified named index' closes' solid, ?_⟩
  refine ⟨rfl, rfl, modifierWords_spaced modified, ?_, ?_, rfl⟩
  · show some (String.ofList (trim (trim head.parameters))) = _
    rw [(trimmed_trim head.parameters).trim_eq]
    rfl
  · show (returnClause? (typePart ((returnType? head).map String.toList))).bind typeText? = _
    rw [returnClause?_typePart types]
    exact bind_typeText?_map _ solid

theorem readsBack_ofProperty {text : List Char} {head : PropertyHead}
    (read : propertyHead? text = some head) : ReadsBack (ofProperty index line head) := by
  intro index'
  have modified := isModifier_of_mem_modifierWords head.lead
  have types := propertyType_of_propertyHead? read
  rw [render_ofProperty]
  refine ⟨_, ofLine?_written_property modified (stands_of_propertyHead? read).1.named index'
    head.mutable types, ?_⟩
  refine ⟨rfl, rfl, modifierWords_spaced modified, rfl, ?_, rfl⟩
  refine bind_typeText?_map _ ?_
  intro t member
  exact ⟨(types t member).trimmed, (types t member).nonempty⟩

end ReadsBack

/-- **A signature declares what it was written for.**  On whatever line it stands, it is read as a
declaration of the same kind, with the same name, modifiers, parameters, type and mutability, and
the signature of what is read is the signature itself. -/
theorem render_reads_back {index : Nat} {line : Line} {declaration : Declaration}
    (found : ofLine? index line = some declaration) (index' : Nat) :
    ∃ again, ofLine? index' declaration.render.toList = some again ∧
      SameSignature again declaration ∧ again.render = declaration.render := by
  have readsBack : ReadsBack declaration := by
    rcases ofLine?_cases found with ⟨head, read, rfl⟩ | ⟨head, read, rfl⟩ | ⟨head, read, rfl⟩ |
      ⟨head, read, rfl⟩ | ⟨head, read, rfl⟩
    · exact readsBack_ofClass index line (stands_of_introducedHead? "class" read).named
    · exact readsBack_ofObject index line (stands_of_introducedHead? "object" read).named
    · exact readsBack_ofInterface index line (stands_of_interfaceHead? read).named
    · obtain ⟨stands, closes⟩ := stands_of_functionHead? read
      exact readsBack_ofFunction index line stands.named closes
    · exact readsBack_ofProperty index line read
  obtain ⟨again, read, same⟩ := readsBack index'
  exact ⟨again, read, same, same.render_eq⟩

/-- A property with a marker, a receiver and a delegate.  The modifier among the marker's arguments
counts, and `by` ends the type only where it stands as a word. -/
theorem render_reads_back_delegated_property :
    ∃ declaration again,
      ofLine? 4 "  @Named( open ) lateinit var List<T>.tag : Map<bybit, by2>  by lazy()".toList =
        some declaration ∧
      declaration.render = "open lateinit var tag: Map<bybit, by2>" ∧
      ofLine? 0 declaration.render.toList = some again ∧
      SameSignature again declaration ∧ again.render = declaration.render := by
  have found : ofLine? 4
      "  @Named( open ) lateinit var List<T>.tag : Map<bybit, by2>  by lazy()".toList =
      some
        { name := "tag"
          kind := .property
          line := 4
          range := .onLine 4 0 70
          selection := .onLine 4 38 41
          modifiers := ["open", "lateinit"]
          signature := "@Named( open ) lateinit var List<T>.tag : Map<bybit, by2>  by lazy()"
          parameters := none
          declaredType := some "Map<bybit, by2>"
          mutable := true } := by
    decide +kernel
  obtain ⟨again, read, same, rendered⟩ := render_reads_back found 0
  exact ⟨_, again, found, by decide +kernel, read, same, rendered⟩

end Declaration

end KotlinAssist
