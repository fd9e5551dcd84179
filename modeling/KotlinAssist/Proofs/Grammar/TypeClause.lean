import KotlinAssist.Declaration
import KotlinAssist.Proofs.Text.Blank
import Mathlib.Data.List.Basic

/-!
# Types behind a colon

The result type of a function goes up to a brace or an equals sign.  The type of a property is the
shortest text that the end of its head can follow.  Both may be read again: written behind a colon
and a space, a type is read as it is, and nothing is left.

For a property this takes an argument, because taking away what follows the type moves the end of
the text.  Ends join: where a head can end in front of a piece, and can end behind the piece, it can
end in front of the two.  So a shorter type that ends well within the type alone would have ended
well within the whole text too.

## Main definitions

* `ReturnType`, `PropertyType` — the types that are read as they are
* `typePart` — a type behind a colon

## Main statements

* `isSome_propertyEnd?_append` — ends join
* `typeThenEnd?_self` — the type of a property is its own shortest type
* `returnClause?_typePart`, `propertyClause?_typePart` — a written type is read
-/

namespace KotlinAssist.Grammar

open Text

/-! ## The end of a property head -/

/-- Blanks are read up to the first other character. -/
theorem blanks_append_of_all {space rest : List Char} (all : ∀ c ∈ space, isBlank c = true)
    (stop : rest.head?.any isBlank = false) : blanks (space ++ rest) = (space, rest) := by
  rw [blanks, takeWhile_run_append all stop, dropWhile_run_append all stop]

/-- One space is read where no blank follows it. -/
theorem blanks_space {rest : List Char} (stop : rest.head?.any isBlank = false) :
    blanks (' ' :: rest) = ([' '], rest) := by
  show blanks ([' '] ++ rest) = ([' '], rest)
  apply blanks_append_of_all _ stop
  rw [List.forall_mem_singleton]
  decide

theorem exists_blanks_cut (text : List Char) :
    ∃ space rest, text = space ++ rest ∧ (∀ c ∈ space, isBlank c = true) ∧
      rest.head?.any isBlank = false := by
  refine ⟨(blanks text).1, (blanks text).2, (blanks_append text).symm, ?_, ?_⟩
  · intro c member
    exact List.mem_takeWhile_imp member
  · exact head?_dropWhile_any text

/-- Behind a word character the head ends only where the word does. -/
theorem endsWord_of_propertyEnd? {before : Char} {text ending : List Char}
    (inWord : isWordChar before = true) (found : propertyEnd? before text = some ending) :
    endsWord text = true := by
  cases text with
  | nil => rfl
  | cons c rest =>
    rw [endsWord, Bool.not_eq_true']
    cases blank : isBlank c with
    | true => exact isWordChar_of_isBlank blank
    | false =>
      have read : blanks ([] ++ c :: rest) = ([], c :: rest) :=
        blanks_append_of_all (List.forall_mem_nil _) blank
      rw [List.nil_append] at read
      unfold propertyEnd? at found
      rw [read] at found
      dsimp only at found
      split at found
      · contradiction
      · next same =>
        cases same
        decide
      · next after same =>
        rw [List.getLast?_nil, Option.getD_none, inWord] at found
        contradiction
      · contradiction

/-- Blanks in front of a text do not change whether the head ends there. -/
theorem isSome_propertyEnd?_blanks {before : Char} {space back : List Char}
    (nonempty : space ≠ []) (all : ∀ c ∈ space, isBlank c = true) :
    (propertyEnd? before (space ++ back)).isSome =
      (propertyEnd? (space.getLast nonempty) back).isSome := by
  obtain ⟨space', rest, rfl, all', stop⟩ := exists_blanks_cut back
  have joined : ∀ c ∈ space ++ space', isBlank c = true := by
    intro c member
    rcases List.mem_append.mp member with inFirst | inSecond
    · exact all c inFirst
    · exact all' c inSecond
  have last : (space ++ space').getLast?.getD before =
      space'.getLast?.getD (space.getLast nonempty) := by
    rw [List.getLast?_append, List.getLast?_eq_some_getLast nonempty]
    cases space'.getLast? <;> rfl
  rw [← List.append_assoc]
  unfold propertyEnd?
  rw [blanks_append_of_all joined stop, blanks_append_of_all all' stop]
  dsimp only
  split
  · rfl
  · rfl
  · rw [last]
    split <;> rfl
  · rfl

/-- The word `by`, where it ends within a piece or with it, still ends when a head can end behind the
piece. -/
theorem endsWord_append_of_propertyEnd? {space after back : List Char}
    (nonempty : space ++ 'b' :: 'y' :: after ≠ []) (ends : endsWord after = true)
    (second : (propertyEnd? ((space ++ 'b' :: 'y' :: after).getLast nonempty) back).isSome = true) :
    endsWord (after ++ back) = true := by
  cases after with
  | nil =>
    obtain ⟨ending, found⟩ := Option.isSome_iff_exists.mp second
    have last : (space ++ ['b', 'y']).getLast nonempty = 'y' := by
      rw [List.getLast_append_of_ne_nil nonempty (List.cons_ne_nil _ _)]
      rfl
    rw [last] at found
    exact endsWord_of_propertyEnd? (by decide) found
  | cons c after => exact ends

/-- **Ends join.**  Where a head can end in front of a piece, and can end behind the piece, it can
end in front of the two. -/
theorem isSome_propertyEnd?_append {before : Char} {front back : List Char}
    (nonempty : front ≠ []) (first : (propertyEnd? before front).isSome = true)
    (second : (propertyEnd? (front.getLast nonempty) back).isSome = true) :
    (propertyEnd? before (front ++ back)).isSome = true := by
  obtain ⟨space, rest, rfl, all, stop⟩ := exists_blanks_cut front
  cases rest with
  | nil =>
    simp only [List.append_nil] at nonempty second ⊢
    rw [isSome_propertyEnd?_blanks nonempty all]
    exact second
  | cons c rest =>
    have stop' : (c :: rest ++ back).head?.any isBlank = false := stop
    unfold propertyEnd? at first
    rw [blanks_append_of_all all stop] at first
    rw [List.append_assoc]
    unfold propertyEnd?
    rw [blanks_append_of_all all stop']
    dsimp only at first
    split at first
    · contradiction
    · next same =>
      cases same
      rfl
    · next after same =>
      cases same
      split at first
      · next starts =>
        rw [Bool.and_eq_true] at starts
        have ends := endsWord_append_of_propertyEnd? nonempty starts.2 second
        show (if (!isWordChar (space.getLast?.getD before) && endsWord (after ++ back)) = true
          then some (space ++ ['b', 'y']) else none).isSome = true
        rw [starts.1, ends]
        rfl
      · contradiction
    · contradiction

/-! ## The type of a property -/

/-- A type is the start of the text that it is read from, and the head ends behind it. -/
theorem exists_rest_of_typeThenEnd? {text type ending : List Char}
    (found : typeThenEnd? text = some (type, ending)) :
    ∃ (nonempty : type ≠ []) (rest : List Char), text = type ++ rest ∧
      propertyEnd? (type.getLast nonempty) rest = some ending := by
  induction text generalizing type with
  | nil => cases found
  | cons c text ih =>
    rw [typeThenEnd?] at found
    split at found
    · cases found
    · split at found
      · next here =>
        cases found
        exact ⟨List.cons_ne_nil c [], text, rfl, here⟩
      · obtain ⟨⟨later, last⟩, read, same⟩ := Option.map_eq_some_iff.mp found
        cases same
        obtain ⟨nonempty, rest, rfl, ends⟩ := ih read
        refine ⟨List.cons_ne_nil c later, rest, rfl, ?_⟩
        rw [List.getLast_cons nonempty]
        exact ends

/-- The first character of a type in front of which the head does not end. -/
theorem typeThenEnd?_cons {c : Char} {type rest ending : List Char} (apart : c ≠ '=')
    (goesOn : propertyEnd? c rest = none) (later : typeThenEnd? rest = some (type, ending)) :
    typeThenEnd? (c :: rest) = some (c :: type, ending) := by
  rw [typeThenEnd?, if_neg apart, goesOn, later]
  rfl

/-- **The type of a property is its own shortest type.** -/
theorem typeThenEnd?_self {text type ending : List Char}
    (found : typeThenEnd? text = some (type, ending)) : typeThenEnd? type = some (type, []) := by
  induction text generalizing type with
  | nil => cases found
  | cons c text ih =>
    rw [typeThenEnd?] at found
    split at found
    · cases found
    · next apart =>
      split at found
      · cases found
        rw [typeThenEnd?, if_neg apart]
        rfl
      · next goesOn =>
        obtain ⟨⟨later, last⟩, read, same⟩ := Option.map_eq_some_iff.mp found
        cases same
        obtain ⟨nonempty, rest, rfl, ends⟩ := exists_rest_of_typeThenEnd? read
        refine typeThenEnd?_cons apart ?_ (ih read)
        -- an end in front of the shorter text would join with the one behind it
        by_contra endsHere
        have joined := isSome_propertyEnd?_append nonempty
          (Option.isSome_iff_ne_none.mpr endsHere) (Option.isSome_of_mem ends)
        rw [goesOn] at joined
        contradiction

/-- Only a type of one character ends with a blank: the head would have ended before the blank. -/
theorem length_of_typeThenEnd? {text type ending : List Char}
    (found : typeThenEnd? text = some (type, ending))
    (blank : type.getLast?.any isBlank = true) : type.length = 1 := by
  induction text generalizing type with
  | nil => cases found
  | cons c text ih =>
    rw [typeThenEnd?] at found
    split at found
    · cases found
    · split at found
      · cases found
        rfl
      · next goesOn =>
        obtain ⟨⟨later, last⟩, read, same⟩ := Option.map_eq_some_iff.mp found
        cases same
        obtain ⟨nonempty, rest, rfl, ends⟩ := exists_rest_of_typeThenEnd? read
        have blankLater : later.getLast?.any isBlank = true := by
          rw [List.getLast?_cons, List.getLast?_eq_some_getLast nonempty] at blank
          rwa [List.getLast?_eq_some_getLast nonempty]
        obtain ⟨d, rfl⟩ := List.length_eq_one_iff.mp (ih read blankLater)
        have all : ∀ c ∈ [d], isBlank c = true := by
          rintro c (_ | ⟨_, ⟨⟩⟩)
          exact blankLater
        have joined : (propertyEnd? c ([d] ++ rest)).isSome = true := by
          rw [isSome_propertyEnd?_blanks nonempty all]
          exact Option.isSome_of_mem ends
        rw [goesOn] at joined
        contradiction

/-- A type has no blank at either end, unless the text that it is read from starts with one. -/
theorem trimmed_of_typeThenEnd? {text type ending : List Char}
    (stop : text.head?.any isBlank = false)
    (found : typeThenEnd? text = some (type, ending)) : Trimmed type := by
  obtain ⟨nonempty, rest, rfl, -⟩ := exists_rest_of_typeThenEnd? found
  have starts : type.head?.any isBlank = false := by
    rwa [List.head?_append_of_ne_nil type nonempty] at stop
  refine ⟨starts, ?_⟩
  by_contra blank
  rw [Bool.not_eq_false] at blank
  obtain ⟨c, rfl⟩ := List.length_eq_one_iff.mp (length_of_typeThenEnd? found blank)
  rw [List.head?_cons] at starts
  rw [List.getLast?_singleton, starts] at blank
  contradiction

/-! ## Types that are read as they are -/

/-- The type of a property that is read as it is, when nothing follows it. -/
structure PropertyType (type : List Char) : Prop where
  trimmed : Trimmed type
  shortest : typeThenEnd? type = some (type, [])

/-- The result type of a function that is read as it is. -/
structure ReturnType (type : List Char) : Prop where
  trimmed : Trimmed type
  nonempty : type ≠ []
  inside : ∀ c ∈ type, inReturnType c = true

theorem PropertyType.nonempty {type : List Char} (is_type : PropertyType type) : type ≠ [] := by
  obtain ⟨nonempty, -⟩ := exists_rest_of_typeThenEnd? is_type.shortest
  exact nonempty

/-- What follows a colon and its blanks starts with no blank. -/
theorem head?_of_colon? {text colon rest : List Char} (found : colon? text = some (colon, rest)) :
    rest.head?.any isBlank = false := by
  obtain ⟨⟨word, after⟩, -, same⟩ := Option.bind_eq_some_iff.mp found
  cases same
  exact head?_dropWhile_any after

/-- The clause that has a blank for its type has no text in it. -/
theorem trim_of_blankClause? {colon : List Char} {clause : TypeClause}
    (found : blankClause? colon = some clause) : trim clause.type = [] := by
  unfold blankClause? at found
  split at found
  · next c _ =>
    split at found
    · next blank =>
      cases found
      simp [trim, trimEnd, trimStart, blank]
    · cases found
  · cases found

/-- The text of a type clause of a property is a type, if there is one. -/
theorem propertyType_of_propertyClause? {text ending : List Char} {clause : TypeClause}
    (found : propertyClause? text = some (clause, ending)) (some_text : trim clause.type ≠ []) :
    PropertyType (trim clause.type) := by
  obtain ⟨⟨colon, rest⟩, read, found⟩ := Option.bind_eq_some_iff.mp found
  dsimp only at found
  split at found
  · next type ending' shortest =>
    cases found
    have trimmed : Trimmed type := trimmed_of_typeThenEnd? (head?_of_colon? read) shortest
    rw [trimmed.trim_eq]
    exact ⟨trimmed, typeThenEnd?_self shortest⟩
  · obtain ⟨blank, read, found⟩ := Option.bind_eq_some_iff.mp found
    obtain ⟨last, -, same⟩ := Option.bind_eq_some_iff.mp found
    cases same
    exact absurd (trim_of_blankClause? read) some_text

/-- The text of a result type is a type, if there is one. -/
theorem returnType_of_returnClause? {text : List Char} {clause : TypeClause}
    (found : returnClause? text = some clause) (some_text : trim clause.type ≠ []) :
    ReturnType (trim clause.type) := by
  refine ⟨trimmed_trim _, some_text, ?_⟩
  intro c member
  obtain ⟨⟨colon, rest⟩, -, found⟩ := Option.bind_eq_some_iff.mp found
  dsimp only at found
  split at found
  · exact absurd (trim_of_blankClause? found) some_text
  · cases found
    exact List.mem_takeWhile_imp (mem_of_mem_trim member)

/-! ## Writing a type -/

/-- A type behind a colon and a space, if there is one. -/
def typePart (type : Option (List Char)) : List Char :=
  type.elim [] fun type => ':' :: ' ' :: type

/-- A text that ends with no blank still ends with none when a type follows. -/
theorem getLast?_append_typePart {front : List Char} {type : Option (List Char)}
    (ends : front.getLast?.any isBlank = false) (types : ∀ t ∈ type, Trimmed t ∧ t ≠ []) :
    (front ++ typePart type).getLast?.any isBlank = false := by
  cases type with
  | none =>
    show (front ++ []).getLast?.any isBlank = false
    rw [List.append_nil]
    exact ends
  | some type =>
    obtain ⟨trimmed, nonempty⟩ := types type rfl
    show (front ++ ([':', ' '] ++ type)).getLast?.any isBlank = false
    rw [← List.append_assoc, List.getLast?_append_of_ne_nil _ nonempty]
    exact trimmed.ends

theorem colon?_typePart {type : List Char} (trimmed : Trimmed type) :
    colon? (typePart (some type)) = some ([':', ' '], type) := by
  show (some ([':'] ++ (blanks (' ' :: type)).1, (blanks (' ' :: type)).2) : Option Reading) =
    some ([':', ' '], type)
  rw [blanks_space trimmed.starts]
  rfl

/-- **A written result type is read.** -/
theorem returnClause?_typePart {type : Option (List Char)} (types : ∀ t ∈ type, ReturnType t) :
    returnClause? (typePart type) = type.map (TypeClause.mk [':', ' ']) := by
  cases type with
  | none => rfl
  | some type =>
    obtain ⟨trimmed, nonempty, inside⟩ := types type rfl
    have whole : type.takeWhile inReturnType = type := List.takeWhile_eq_self_iff.mpr inside
    unfold returnClause?
    rw [colon?_typePart trimmed]
    dsimp only [Option.bind_eq_bind, Option.bind_some]
    rw [whole]
    split
    · contradiction
    · rfl

/-- **A written property type is read.** -/
theorem propertyClause?_typePart {type : Option (List Char)}
    (types : ∀ t ∈ type, PropertyType t) :
    propertyClause? (typePart type) = type.map fun t => (⟨[':', ' '], t⟩, []) := by
  cases type with
  | none => rfl
  | some type =>
    obtain ⟨trimmed, shortest⟩ := types type rfl
    unfold propertyClause?
    rw [colon?_typePart trimmed]
    dsimp only [Option.bind_eq_bind, Option.bind_some]
    rw [shortest]
    rfl

end KotlinAssist.Grammar
