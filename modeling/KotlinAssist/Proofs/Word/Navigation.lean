import KotlinAssist.Proofs.Grammar.Named
import KotlinAssist.Proofs.Word.Definition

/-!
# Declarations can be navigated to

From a word, its definition is looked for on the first line that declares it.  Every declaration
that is read from a document is found in this way: its line declares its name, and the name stands
on the line as a whole word.  For a type this needs that no identifier character follows the
declared name; an identifier character of another script would make the word longer than the name.

## Main statements

* `Declaration.declares_of_ofLine?` — a line declares the name that is read from it
* `exists_definition?_le` — a definition is found no later than on a line that has one
* `declarations_navigable` — every declaration can be navigated to, and its definition is one of the
  references
-/

namespace KotlinAssist

open Text

namespace Declaration

open Grammar

/-- What follows a head on its line. -/
theorem head?_drop_of_text {line : Line} {head : Head} {after : List Char}
    (whole : trim line = head.text ++ after) :
    (line.drop (indentation line + head.nameStart + head.name.length)).head?.any isIdentifierChar =
      after.head?.any isIdentifierChar := by
  obtain ⟨tail, behind, blank⟩ := drop_of_text whole
  rw [behind, head?_append_blanks blank fun _ => isIdentifierChar_of_isBlank]

/-- **A line declares the name that is read from it**, and the name ends there.  Of a type, the
latter has to be known. -/
theorem declares_of_ofLine? {index : Nat} {line : Line} {declaration : Declaration}
    (found : ofLine? index line = some declaration)
    (ends : declaration.kind.isTypeLike = true →
      (line.drop declaration.selection.stop.character).head?.any isIdentifierChar = false) :
    declares declaration.name.toList (trim line) = true ∧
      (line.drop declaration.selection.stop.character).head?.any isIdentifierChar = false := by
  have ofType (kind : DeclarationKind) {head : Head} {after : List Char}
      (whole : trim line = head.text ++ after)
      (declared : after.head?.any isIdentifierChar = false →
        declaresType head.name (trim line) = true)
      (stop : (line.drop (ofHead index line kind head).selection.stop.character).head?.any
        isIdentifierChar = false) :
      declares (ofHead index line kind head).name.toList (trim line) = true := by
    have here := declared ((head?_drop_of_text whole).symm.trans stop)
    show declares (String.ofList head.name).toList (trim line) = true
    rw [String.toList_ofList, declares, here, Bool.true_or, Bool.true_or]
  rcases ofLine?_cases found with ⟨head, read, rfl⟩ | ⟨head, read, rfl⟩ | ⟨head, read, rfl⟩ |
    ⟨head, read, rfl⟩ | ⟨head, read, rfl⟩
  · obtain ⟨_, _, after, -, -, -, whole⟩ := introducedHead?_eq_some read
    have isType : (ofClass index line head).kind.isTypeLike = true := by
      simp only [ofClass, ofHead]
      split <;> rfl
    refine ⟨ofType _ whole ?_ (ends isType), ends isType⟩
    intro stop
    exact declaresType_of_introducedHead? whole stop (by decide) read
  · obtain ⟨_, _, after, -, -, -, whole⟩ := introducedHead?_eq_some read
    refine ⟨ofType _ whole ?_ (ends rfl), ends rfl⟩
    intro stop
    exact declaresType_of_introducedHead? whole stop (by decide) read
  · obtain ⟨_, _, _, _, _, after, -, -, -, -, -, whole⟩ := interfaceHead?_eq_some read
    refine ⟨ofType _ whole ?_ (ends rfl), ends rfl⟩
    intro stop
    exact declaresType_of_interfaceHead? whole stop read
  · obtain ⟨declared, after, whole, stop⟩ := declaresFunction_of_functionHead? read
    refine ⟨?_, (head?_drop_of_text whole).trans stop⟩
    show declares (String.ofList head.name).toList (trim line) = true
    rw [String.toList_ofList, declares, declared, Bool.or_true, Bool.true_or]
  · obtain ⟨declared, after, whole, stop⟩ := declaresProperty_of_propertyHead? read
    refine ⟨?_, (head?_drop_of_text whole).trans stop⟩
    show declares (String.ofList head.name).toList (trim line) = true
    rw [String.toList_ofList, declares, declared, Bool.or_true]

/-- Whether the declared name ends its word: no identifier character follows it on its line. -/
def EndsWord (document : List Line) (declaration : Declaration) : Prop :=
  ∀ line, document[declaration.line]? = some line →
    (line.drop declaration.selection.stop.character).head?.any isIdentifierChar = false

/-- The declared name is found as a word of its line. -/
theorem exists_declaredOn? {index : Nat} {line : Line} {declaration : Declaration}
    (found : ofLine? index line = some declaration) (isWord : IsWord declaration.name.toList)
    (ends : declaration.kind.isTypeLike = true →
      (line.drop declaration.selection.stop.character).head?.any isIdentifierChar = false) :
    ∃ span, declaredOn? declaration.name.toList line = some span := by
  obtain ⟨declared, stop⟩ := declares_of_ofLine? found ends
  obtain ⟨front, back, whole, apart, -, selected⟩ := exists_cut_of_ofLine? found
  have behind : line.drop declaration.selection.stop.character = back := by
    rw [selected, whole]
    show (front ++ declaration.name.toList ++ back).drop
      (front.length + declaration.name.toList.length) = back
    rw [← List.length_append, List.drop_left]
  rw [behind] at stop
  have member : Span.after front declaration.name.toList ∈ wordSpans line declaration.name.toList :=
    (mem_wordSpans_iff isWord).mpr ⟨front, back, ⟨isWord, whole, apart, stop⟩, rfl⟩
  rw [declaredOn?, if_pos declared]
  exact ⟨_, List.head?_eq_some_head (List.ne_nil_of_mem member)⟩

end Declaration

/-! ## Looking for the definition -/

/-- The first hit of a search through numbered lines is not behind any line that has one. -/
theorem exists_findSome?_zipIdx_le {α : Type} {read : Line → Option α} {document : List Line}
    {index : Nat} {line : Line} {hit : α} (present : document[index]? = some line)
    (found : read line = some hit) (start : Nat) :
    ∃ first place, (document.zipIdx start).findSome? (fun x => (read x.1).map (·, x.2)) =
      some (first, place) ∧ place ≤ start + index := by
  induction document generalizing index start with
  | nil => cases present
  | cons other document ih =>
    rw [List.zipIdx_cons, List.findSome?_cons]
    cases here : read other with
    | some first => exact ⟨first, start, rfl, Nat.le_add_right _ _⟩
    | none =>
      cases index with
      | zero =>
        cases present
        rw [here] at found
        cases found
      | succ index =>
        obtain ⟨first, place, later, bound⟩ := ih present (start + 1)
        exact ⟨first, place, later, by omega⟩

theorem exists_definition?_le (uri : Uri) {document : List Line} {position : Position} {word : Word}
    (cursor : wordAtPosition? document position = some word) {index : Nat} {line : Line}
    {span : Span} (present : document[index]? = some line)
    (declared : declaredOn? word.text.toList line = some span) :
    ∃ location, definition? uri document position = some location ∧
      location.range.start.line ≤ index := by
  obtain ⟨first, place, found, bound⟩ := exists_findSome?_zipIdx_le present declared 0
  rw [Nat.zero_add] at bound
  refine ⟨⟨uri, .onLine place first.start first.stop⟩, ?_, bound⟩
  exact Option.bind_eq_some_iff.mpr
    ⟨word, cursor, Option.bind_eq_some_iff.mpr ⟨(first, place), found, rfl⟩⟩

/-- **Every declaration can be navigated to.**  From a word, for every declaration of that name that
is a function, a property, or a type whose name ends its word, a definition is found, on the line of
the declaration or before it.  A definition that is found is one of the references. -/
theorem declarations_navigable (uri : Uri) (text : String) (position : Position) (word : Word)
    (cursor : wordAtPosition? (lines text) position = some word) :
    (∀ declaration ∈ Declaration.ofLines (lines text), declaration.name = word.text →
      (declaration.kind = .function ∨ declaration.kind = .property ∨
        declaration.kind.isTypeLike = true ∧ declaration.EndsWord (lines text)) →
      ∃ location, definition? uri (lines text) position = some location ∧
        location.range.start.line ≤ declaration.line) ∧
    ∀ location, definition? uri (lines text) position = some location →
      location ∈ references uri (lines text) position := by
  have isWord := isWord_of_wordAtPosition? cursor
  constructor
  · intro declaration listed named readable
    obtain ⟨line, present, found⟩ := Declaration.mem_ofLines_iff.mp listed
    have ends : declaration.kind.isTypeLike = true →
        (line.drop declaration.selection.stop.character).head?.any isIdentifierChar = false := by
      intro isType
      rcases readable with isFunction | isProperty | ⟨-, endsWord⟩
      · rw [isFunction] at isType
        cases isType
      · rw [isProperty] at isType
        cases isType
      · exact endsWord line present
    rw [← named] at isWord
    obtain ⟨span, declared⟩ := Declaration.exists_declaredOn? found isWord ends
    rw [named] at declared
    exact exists_definition?_le uri cursor present declared
  · intro location found
    obtain ⟨index, line, front, back, present, -, cut, rfl⟩ := definition?_eq_some cursor found
    have member : Span.after front word.text.toList ∈ wordSpans line word.text.toList :=
      (mem_wordSpans_iff isWord).mpr ⟨front, back, cut.toCutsWord, rfl⟩
    rw [references_of_word cursor]
    exact List.mem_map_of_mem (mem_wordRanges_iff.mpr ⟨index, line, _, present, member, rfl⟩)

/-- An extension function with type parameters is reached from its use before it. -/
theorem declarations_navigable_extension :
    let text := "val a = f()\nfun <T> List<T>.f () = 1"
    wordAtPosition? (lines text) ⟨0, 8⟩ = some ⟨"f", ⟨8, 9⟩⟩ ∧
      ∃ location, definition? "file:///a.kt" (lines text) ⟨0, 8⟩ = some location ∧
        location.range.start.line ≤ 1 ∧
        location ∈ references "file:///a.kt" (lines text) ⟨0, 8⟩ := by
  intro text
  have cursor : wordAtPosition? (lines text) ⟨0, 8⟩ = some ⟨"f", ⟨8, 9⟩⟩ := by decide
  have listed : (⟨"f", .function, 1, .onLine 1 0 24, .onLine 1 16 17, [],
      "fun <T> List<T>.f () = 1", some "", none, false⟩ : Declaration) ∈
        Declaration.ofLines (lines text) := by
    rw [Declaration.mem_ofLines_iff]
    exact ⟨"fun <T> List<T>.f () = 1".toList, by decide, by decide +kernel⟩
  have navigable := declarations_navigable "file:///a.kt" text _ _ cursor
  obtain ⟨location, found, bound⟩ := navigable.1 _ listed rfl (.inl rfl)
  exact ⟨cursor, location, found, bound, navigable.2 location found⟩

end KotlinAssist
