import KotlinAssist.Proofs.Signature

/-!
# Declarations behind a marker

A marker is read off the start of a line and goes to the lead-in; whatever is read behind it is read
as it would be without the marker.  So a line declares something with a marker before it exactly if
it does without, and the name, the parameters, the type and the mutability are the same.  The name
stands farther to the right by the length of the marker.

The modifiers are the modifiers among the words of the lead-in, and the words of a marker belong to
it.  A marker without arguments is one word and no modifier.  Arguments may hold blanks, and then a
modifier that stands between two of them is taken for a modifier of the declaration: the `enum` of
`@Deprecated("use enum now")` makes an enumeration of a class.  Nothing else of a marker is ever
taken for a modifier, so a marker leaves the signature alone exactly if its arguments hold no
modifier between blanks.

## Main definitions

* `Marker` — a marker as it is written
* `Marker.Holds` — a word between blanks in the arguments of a marker
* `Declaration.behind` — a declaration with a marker before it

## Main statements

* `leadIn_marker` — a marker goes to the lead-in
* `Declaration.ofLine?_marker` — what a line declares behind a marker
* `mem_modifierWords_marker_iff` — the modifiers that are read from a marker
* `Declaration.signature_kept_behind_marker_iff` — when the signature stays the same
-/

namespace KotlinAssist

open Text

namespace Grammar

/-! ## Markers -/

/-- A marker: an at sign, a name, perhaps arguments in parentheses, and blanks. -/
structure Marker where
  name : List Char
  /-- What stands between the parentheses. -/
  arguments : Option (List Char)
  /-- The blanks behind the marker. -/
  space : List Char
  named : isName name = true
  closes : ∀ inner ∈ arguments, ')' ∉ inner
  spaced : space ≠ []
  blank : ∀ c ∈ space, isBlank c = true

namespace Marker

/-- The arguments with their parentheses. -/
def brackets (marker : Marker) : List Char :=
  marker.arguments.elim [] fun inner => '(' :: inner ++ [')']

/-- The text of a marker with the blanks behind it. -/
def text (marker : Marker) : List Char :=
  '@' :: marker.name ++ marker.brackets ++ marker.space

/-- A word between two blanks in the arguments of a marker. -/
def Holds (marker : Marker) (word : String) : Prop :=
  ∃ inner ∈ marker.arguments, ∃ front before behind back,
    inner = front ++ before :: (word.toList ++ behind :: back) ∧
      isBlank before = true ∧ isBlank behind = true

/-- The arguments of a marker hold a modifier between two blanks. -/
def HoldsModifier (marker : Marker) : Prop :=
  ∃ word, Vocabulary.isModifier word = true ∧ marker.Holds word

theorem length_text_pos (marker : Marker) : 0 < marker.text.length := by
  simp [text]

/-- A marker starts with no blank. -/
theorem head?_text_append (marker : Marker) (rest : List Char) :
    (marker.text ++ rest).head?.any isBlank = false :=
  show isBlank '@' = false by decide

/-- A marker is followed by a blank. -/
theorem exists_space_eq (marker : Marker) :
    ∃ blank rest, marker.space = blank :: rest ∧ isBlank blank = true := by
  obtain ⟨blank, rest, same⟩ := List.exists_cons_of_ne_nil marker.spaced
  refine ⟨blank, rest, same, marker.blank blank ?_⟩
  rw [same]
  exact List.mem_cons_self

/-- A marker ends with a blank. -/
theorem exists_text_eq (marker : Marker) :
    ∃ front blank, marker.text = front ++ [blank] ∧ isBlank blank = true := by
  refine ⟨'@' :: marker.name ++ marker.brackets ++ marker.space.dropLast,
    marker.space.getLast marker.spaced, ?_, ?_⟩
  · rw [List.append_assoc, List.dropLast_concat_getLast]
    rfl
  · exact marker.blank _ (List.getLast_mem marker.spaced)

end Marker

/-! ## Reading a marker -/

/-- A bracket is read up to the first character that closes it. -/
theorem bracketed?_append (opening : Char) {closing : Char} {inner : List Char}
    (closes : closing ∉ inner) (rest : List Char) :
    bracketed? opening closing (opening :: inner ++ [closing] ++ rest) =
      some (opening :: inner ++ [closing], rest) := by
  have all := bne_of_not_mem closes
  have stop : (closing :: rest).head?.any (· != closing) = false := by
    rw [List.head?_cons, Option.any_some, bne_self_eq_false]
  rw [List.append_assoc, List.singleton_append, List.cons_append, bracketed?, if_pos rfl,
    takeWhile_run_append all stop, dropWhile_run_append all stop]

section Marker

variable (marker : Marker)

/-- Behind its name a marker goes on with a parenthesis or a blank. -/
theorem Marker.head?_brackets_append (rest : List Char) :
    (marker.brackets ++ (marker.space ++ rest)).head?.any isNamePart = false := by
  unfold Marker.brackets
  cases marker.arguments with
  | some inner => exact show isNamePart '(' = false by decide
  | none =>
    obtain ⟨blank, space, same, isBlank_blank⟩ := marker.exists_space_eq
    rw [same]
    exact isNamePart_of_isBlank isBlank_blank

theorem Marker.optional_brackets (rest : List Char) :
    optional (bracketed? '(' ')') (marker.brackets ++ (marker.space ++ rest)) =
      (marker.brackets, marker.space ++ rest) := by
  unfold Marker.brackets
  cases given : marker.arguments with
  | some inner =>
    rw [Option.elim_some, optional, bracketed?_append '(' (marker.closes inner given)]
    rfl
  | none =>
    obtain ⟨blank, space, same, isBlank_blank⟩ := marker.exists_space_eq
    have no_bracket : blank ≠ '(' := by
      rintro rfl
      exact absurd isBlank_blank (by decide)
    rw [Option.elim_none, List.nil_append]
    refine optional_eq_of_none ?_
    rw [same, List.cons_append, bracketed?, if_neg no_bracket]

variable {rest : List Char} (stop : rest.head?.any isBlank = false)

include stop

/-- A written marker is read. -/
theorem marker?_append : marker? (marker.text ++ rest) = some (marker.text, rest) := by
  have named := name?_append marker.named (marker.head?_brackets_append rest)
  have spaced := blanks_append_of_all marker.blank stop
  have whole : marker.text ++ rest =
      '@' :: (marker.name ++ (marker.brackets ++ (marker.space ++ rest))) := by
    simp [Marker.text]
  rw [whole, marker?]
  dsimp only [Option.bind_eq_bind]
  rw [named, Option.bind_some]
  dsimp only
  rw [marker.optional_brackets]
  dsimp only
  rw [spaced]
  split
  · next same => exact absurd (congrArg Prod.fst same) marker.spaced
  · next same =>
    cases same
    rfl

/-- **A marker goes to the lead-in** of what stands behind it. -/
theorem leadIn_marker :
    leadIn (marker.text ++ rest) = (marker.text ++ (leadIn rest).1, (leadIn rest).2) := by
  have shorter : rest.length < (marker.text ++ rest).length := by
    have positive := marker.length_text_pos
    rw [List.length_append]
    omega
  unfold leadIn
  rw [many_of_read (marker?_append marker stop) shorter]
  simp only [List.append_assoc]

end Marker

/-! ## Heads behind a marker -/

/-- A head with a marker before it. -/
def Head.behind (marker : Marker) (head : Head) : Head :=
  { head with lead := marker.text ++ head.lead }

def FunctionHead.behind (marker : Marker) (head : FunctionHead) : FunctionHead :=
  { head with toHead := head.toHead.behind marker }

def PropertyHead.behind (marker : Marker) (head : PropertyHead) : PropertyHead :=
  { head with toHead := head.toHead.behind marker }

section Heads

variable (marker : Marker)

theorem nameStart_behind (head : Head) :
    (head.behind marker).nameStart = head.nameStart + marker.text.length := by
  simp only [Head.behind, Head.nameStart, List.length_append]
  omega

/-- What is read behind a marker is read as it is without; only the lead-in is longer. -/
theorem read?_behind (lead introducer text : List Char) :
    Head.read? (marker.text ++ lead) introducer text =
      (Head.read? lead introducer text).map fun (head, rest) => (head.behind marker, rest) := by
  unfold Head.read?
  cases name? text <;> rfl

variable {text : List Char} (stop : text.head?.any isBlank = false)

include stop

theorem introducedHead?_behind (word : String) :
    introducedHead? word (marker.text ++ text) =
      (introducedHead? word text).map (Head.behind marker) := by
  unfold introducedHead?
  rw [leadIn_marker marker stop]
  dsimp only [Option.bind_eq_bind]
  cases spacedWord? word (leadIn text).2 with
  | none => rfl
  | some reading =>
    simp only [Option.bind_some, read?_behind]
    cases Head.read? (leadIn text).1 reading.1 reading.2 <;> rfl

theorem interfaceHead?_behind :
    interfaceHead? (marker.text ++ text) = (interfaceHead? text).map (Head.behind marker) := by
  unfold interfaceHead?
  rw [leadIn_marker marker stop]
  dsimp only [Option.bind_eq_bind]
  generalize optional (spacedWord? "fun") (leadIn text).2 = functional
  cases spacedWord? "interface" functional.2 with
  | none => rfl
  | some reading =>
    simp only [Option.bind_some, read?_behind]
    cases Head.read? (leadIn text).1 (functional.1 ++ reading.1) reading.2 <;> rfl

theorem functionHead?_behind :
    functionHead? (marker.text ++ text) =
      (functionHead? text).map (FunctionHead.behind marker) := by
  unfold functionHead?
  rw [leadIn_marker marker stop]
  dsimp only [Option.bind_eq_bind]
  cases spacedWord? "fun" (leadIn text).2 with
  | none => rfl
  | some reading =>
    simp only [Option.bind_some, read?_behind]
    generalize optional typeParameters? reading.2 = generics
    generalize optional (qualifier? inFunctionReceiver) generics.2 = receiver
    cases Head.read? (leadIn text).1 (reading.1 ++ generics.1 ++ receiver.1) receiver.2 with
    | none => rfl
    | some found =>
      simp only [Option.map_some, Option.bind_some]
      split <;> rfl

theorem propertyHead?_behind :
    propertyHead? (marker.text ++ text) =
      (propertyHead? text).map (PropertyHead.behind marker) := by
  unfold propertyHead?
  rw [leadIn_marker marker stop]
  dsimp only [Option.bind_eq_bind]
  cases propertyWord? (leadIn text).2 with
  | none => rfl
  | some reading =>
    simp only [Option.bind_some, read?_behind]
    generalize optional (qualifier? inPropertyReceiver) reading.2.2 = receiver
    cases Head.read? (leadIn text).1 (reading.2.1 ++ receiver.1) receiver.2 with
    | none => rfl
    | some found =>
      simp only [Option.map_some, Option.bind_some]
      split
      · rfl
      · show (found.1.name.getLast?.bind _) = _
        cases found.1.name.getLast? with
        | none => rfl
        | some last =>
          simp only [Option.bind_some]
          cases propertyEnd? last found.2 <;> rfl

end Heads

/-! ## Modifiers -/

/-- The modifiers of a lead-in behind a marker are those of the marker and those of the lead-in. -/
theorem modifierWords_append (marker : Marker) (lead : List Char) :
    modifierWords (marker.text ++ lead) = modifierWords marker.text ++ modifierWords lead := by
  obtain ⟨front, blank, whole, isBlank_blank⟩ := marker.exists_text_eq
  have alone := words_append_cons isBlank_blank front []
  have both := words_append_cons isBlank_blank front lead
  rw [show words [] = [] from rfl, List.append_nil] at alone
  unfold modifierWords
  rw [whole, List.append_assoc, List.singleton_append, both, alone, List.map_append,
    List.filter_append]

/-- A modifier holds no at sign and no parenthesis. -/
theorem not_mem_of_isModifier {word : String} (isModifier : Vocabulary.isModifier word = true)
    {c : Char} (apart : isNamePart c = false) : c ∉ word.toList := by
  intro member
  rw [isNamePart_of_isName (isName_modifier isModifier) c member] at apart
  contradiction

theorem mem_modifierWords_iff (lead : List Char) (word : String) :
    word ∈ modifierWords lead ↔ word.toList ∈ words lead ∧ Vocabulary.isModifier word = true := by
  rw [modifierWords, List.mem_filter, List.mem_map]
  refine and_congr_left fun _ => ⟨?_, fun member => ⟨_, member, String.ofList_toList⟩⟩
  rintro ⟨chars, member, rfl⟩
  rwa [String.toList_ofList]

/-- The at sign and the name of a marker hold no blank. -/
theorem Marker.isBlank_of_mem_start (marker : Marker) {tail : List Char}
    (solid : ∀ c ∈ tail, isBlank c = false) :
    ∀ c ∈ '@' :: marker.name ++ tail, isBlank c = false := by
  rw [List.cons_append, List.forall_mem_cons, List.forall_mem_append]
  exact ⟨by decide, isBlank_of_isName marker.named, solid⟩

/-- A word that is held is a word of the marker. -/
theorem Marker.Holds.mem_words {marker : Marker} {word : String}
    (isModifier : Vocabulary.isModifier word = true) (holds : marker.Holds word) :
    word.toList ∈ words marker.text := by
  obtain ⟨inner, given, front, before, behind, back, rfl, isBlank_before, isBlank_behind⟩ := holds
  have named := isName_modifier isModifier
  have whole : marker.text = ('@' :: marker.name ++ '(' :: front) ++
      before :: (word.toList ++ behind :: (back ++ ')' :: marker.space)) := by
    simp [text, brackets, Option.mem_def.mp given]
  rw [whole, words_append_cons isBlank_before,
    words_append_blank (ne_nil_of_isName named) (isBlank_of_isName named) isBlank_behind]
  exact List.mem_append_right _ List.mem_cons_self

/-- A word before a closing parenthesis is followed by a blank. -/
theorem exists_cut_of_mem_words_closed {text word : List Char} (nonempty : word ≠ [])
    (no_parenthesis : ')' ∉ word) (member : word ∈ words (text ++ [')'])) :
    ∃ front behind back, text = front ++ (word ++ behind :: back) ∧ isBlank behind = true ∧
      (front = [] ∨ ∃ front' before, front = front' ++ [before] ∧ isBlank before = true) := by
  obtain ⟨front, back, cut, starts, ends⟩ := exists_cut_of_mem_words member
  rcases ends with rfl | ⟨behind, back, rfl, isBlank_behind⟩
  · -- the parenthesis would be the end of the word
    obtain ⟨word, last, rfl⟩ := (List.eq_nil_or_concat' word).resolve_left nonempty
    rw [List.append_nil, ← List.append_assoc] at cut
    have same := (List.append_inj' cut rfl).2
    rw [List.singleton_inj] at same
    rw [same] at no_parenthesis
    exact absurd (List.mem_append_right word List.mem_cons_self) no_parenthesis
  · rcases List.eq_nil_or_concat' back with rfl | ⟨back, last, rfl⟩
    · -- the parenthesis would be the blank
      rw [← List.append_assoc] at cut
      have same := (List.append_inj' cut rfl).2
      rw [List.singleton_inj] at same
      rw [← same] at isBlank_behind
      exact absurd isBlank_behind (by decide)
    · have divided : text ++ [')'] = front ++ (word ++ behind :: back) ++ [last] := by
        rw [cut]
        simp
      exact ⟨front, behind, back, (List.append_inj' divided rfl).1, isBlank_behind, starts⟩

/-- **A modifier among the words of a marker stands between blanks in its arguments.** -/
theorem Marker.holds_of_mem_words {marker : Marker} {word : String}
    (isModifier : Vocabulary.isModifier word = true) (member : word.toList ∈ words marker.text) :
    marker.Holds word := by
  have no_parenthesis : ')' ∉ word.toList := not_mem_of_isModifier isModifier (by decide)
  -- no modifier is the first word, which starts with the at sign
  have apart (tail : List Char) : word.toList ≠ '@' :: tail := by
    intro same
    have no_at : '@' ∉ word.toList := not_mem_of_isModifier isModifier (by decide)
    rw [same] at no_at
    exact no_at List.mem_cons_self
  rw [text, words_append_blanks marker.blank] at member
  unfold brackets at member
  cases given : marker.arguments with
  | none =>
    have solid : ∀ c ∈ [], isBlank c = false := List.forall_mem_nil _
    rw [given, Option.elim_none, words_of_solid (by simp) (marker.isBlank_of_mem_start solid),
      List.mem_singleton] at member
    exact absurd member (apart _)
  | some inner =>
    rw [given, Option.elim_some] at member
    rcases exists_first_blank inner with solid | ⟨first, blank, rest, rfl, isBlank_blank, solid⟩
    · have closed : ∀ c ∈ '(' :: inner ++ [')'], isBlank c = false := by
        rw [List.cons_append, List.forall_mem_cons, List.forall_mem_append,
          List.forall_mem_singleton]
        exact ⟨by decide, solid, by decide⟩
      rw [words_of_solid (by simp) (marker.isBlank_of_mem_start closed), List.mem_singleton]
        at member
      exact absurd member (apart _)
    · have opening : ∀ c ∈ '(' :: first, isBlank c = false := by
        rw [List.forall_mem_cons]
        exact ⟨by decide, solid⟩
      have cut : '@' :: marker.name ++ ('(' :: (first ++ blank :: rest) ++ [')']) =
          ('@' :: marker.name ++ '(' :: first) ++ blank :: (rest ++ [')']) := by
        simp
      rw [cut, words_append_blank (by simp) (marker.isBlank_of_mem_start opening) isBlank_blank,
        List.mem_cons] at member
      obtain ⟨front, behind, back, rfl, isBlank_behind, starts⟩ :=
        exists_cut_of_mem_words_closed (ne_nil_of_isName (isName_modifier isModifier))
          no_parenthesis (member.resolve_left (apart _))
      rcases starts with rfl | ⟨front, before, rfl, isBlank_before⟩
      · exact ⟨_, given, first, blank, behind, back, rfl, isBlank_blank, isBlank_behind⟩
      · refine ⟨_, given, first ++ blank :: front, before, behind, back, ?_, isBlank_before,
          isBlank_behind⟩
        simp

/-- **The modifiers that are read from a marker** are those that its arguments hold. -/
theorem mem_modifierWords_marker_iff (marker : Marker) (word : String) :
    word ∈ modifierWords marker.text ↔ Vocabulary.isModifier word = true ∧ marker.Holds word := by
  rw [mem_modifierWords_iff]
  constructor
  · rintro ⟨member, isModifier⟩
    exact ⟨isModifier, Marker.holds_of_mem_words isModifier member⟩
  · rintro ⟨isModifier, holds⟩
    exact ⟨holds.mem_words isModifier, isModifier⟩

theorem modifierWords_marker_eq_nil_iff (marker : Marker) :
    modifierWords marker.text = [] ↔ ¬ marker.HoldsModifier := by
  rw [List.eq_nil_iff_forall_not_mem, Marker.HoldsModifier, not_exists]
  exact forall_congr' fun word => not_congr (mem_modifierWords_marker_iff marker word)

end Grammar

/-! ## Declarations behind a marker -/

/-- A range moved to the right. -/
def Range.moved (count : Nat) (range : Range) : Range :=
  ⟨⟨range.start.line, range.start.character + count⟩,
    ⟨range.stop.line, range.stop.character + count⟩⟩

namespace Declaration

open Grammar

/-- The kind of a declaration behind a marker: a class is an enumeration there if the marker makes
it one. -/
def kindBehind (marker : Marker) : DeclarationKind → DeclarationKind
  | .plainClass => classKind (modifierWords marker.text)
  | kind => kind

/-- A declaration with a marker before it.  The words of the marker count among the modifiers, and
all columns but the start of the line are moved by the length of the marker. -/
def behind (marker : Marker) (declaration : Declaration) : Declaration :=
  { declaration with
    kind := kindBehind marker declaration.kind
    range := { declaration.range.moved marker.text.length with start := declaration.range.start }
    selection := declaration.selection.moved marker.text.length
    modifiers := modifierWords marker.text ++ declaration.modifiers
    signature := String.ofList marker.text ++ declaration.signature }

theorem kindBehind_classKind (marker : Marker) (modifiers : List String) :
    kindBehind marker (classKind modifiers) =
      classKind (modifierWords marker.text ++ modifiers) := by
  simp only [classKind, List.contains_append]
  cases modifiers.contains "enum" with
  | true =>
    rw [Bool.or_true]
    rfl
  | false =>
    rw [Bool.or_false]
    rfl

section Line

variable (marker : Marker) (index : Nat) {line : Line} (nonempty : line ≠ [])
  (solid : line.head?.any isBlank = false)

include solid

theorem indentation_of_solid : indentation line = 0 := by
  rw [indentation, takeWhile_eq_nil_of_head? solid]
  rfl

include nonempty

theorem trim_marker_append : trim (marker.text ++ line) = marker.text ++ trim line := by
  have left : trimEnd line ≠ [] := by
    rw [Ne, trimEnd_eq_nil_iff]
    intro blank
    obtain ⟨c, rest, rfl⟩ := List.exists_cons_of_ne_nil nonempty
    rw [List.head?_cons, Option.any_some, blank c List.mem_cons_self] at solid
    contradiction
  unfold trim trimStart
  rw [dropWhile_eq_self_of_head? (marker.head?_text_append line),
    dropWhile_eq_self_of_head? solid, trimEnd_append_of_ne_nil _ left]

theorem ofHead_behind (kind : DeclarationKind) (head : Head) :
    ofHead index (marker.text ++ line) (kindBehind marker kind) (head.behind marker) =
      (ofHead index line kind head).behind marker := by
  have modifiers : modifierWords (head.behind marker).lead = _ :=
    modifierWords_append marker head.lead
  have range : Range.wholeLine index (marker.text ++ line) =
      { (Range.wholeLine index line).moved marker.text.length with start := ⟨index, 0⟩ } := by
    rw [Range.wholeLine, List.length_append, Nat.add_comm]
    rfl
  have selection : Range.onLine index (head.behind marker).nameStart
        ((head.behind marker).nameStart + (head.behind marker).name.length) =
      (Range.onLine index head.nameStart (head.nameStart + head.name.length)).moved
        marker.text.length := by
    rw [nameStart_behind, Nat.add_right_comm]
    rfl
  unfold ofHead
  rw [indentation_of_solid solid, indentation_of_solid (marker.head?_text_append line),
    trim_marker_append marker nonempty solid, String.ofList_append, range, modifiers]
  simp only [Nat.zero_add]
  rw [selection]
  rfl

theorem ofClass_behind (head : Head) :
    ofClass index (marker.text ++ line) (head.behind marker) =
      (ofClass index line head).behind marker := by
  have kind := kindBehind_classKind marker (modifierWords head.lead)
  rw [← modifierWords_append] at kind
  rw [ofClass_eq, ofClass_eq, ← ofHead_behind marker index nonempty solid, kind]
  rfl

theorem ofFunction_behind (head : FunctionHead) :
    ofFunction index (marker.text ++ line) (head.behind marker) =
      (ofFunction index line head).behind marker := by
  have same : ofHead index (marker.text ++ line) .function (head.behind marker).toHead = _ :=
    ofHead_behind marker index nonempty solid .function head.toHead
  unfold ofFunction
  rw [same]
  rfl

theorem ofProperty_behind (head : PropertyHead) :
    ofProperty index (marker.text ++ line) (head.behind marker) =
      (ofProperty index line head).behind marker := by
  have same : ofHead index (marker.text ++ line) .property (head.behind marker).toHead = _ :=
    ofHead_behind marker index nonempty solid .property head.toHead
  unfold ofProperty
  rw [same]
  rfl

/-- **What a line declares behind a marker** is what it declares without, and nothing if that is
nothing. -/
theorem ofLine?_marker :
    ofLine? index (marker.text ++ line) = (ofLine? index line).map (behind marker) := by
  have stop := (trimmed_trim line).starts
  have asClass := ofClass_behind marker index nonempty solid
  have asObject := ofHead_behind marker index nonempty solid .object
  have asInterface := ofHead_behind marker index nonempty solid .interface
  have asFunction := ofFunction_behind marker index nonempty solid
  have asProperty := ofProperty_behind marker index nonempty solid
  unfold ofLine? classHead? objectHead?
  rw [trim_marker_append marker nonempty solid]
  simp only [introducedHead?_behind marker stop, interfaceHead?_behind marker stop,
    functionHead?_behind marker stop, propertyHead?_behind marker stop, Option.map_map,
    Option.orElse_eq_orElse, Option.orElse_eq_or, Option.map_or, Function.comp_def, asClass,
    ← asObject, ← asInterface, asFunction, asProperty]
  rfl

end Line

/-- The signature is the same behind a marker from which no modifiers are read, and only then. -/
theorem sameSignature_behind_iff (marker : Marker) (declaration : Declaration) :
    SameSignature (declaration.behind marker) declaration ↔ modifierWords marker.text = [] := by
  constructor
  · intro same
    exact List.append_left_eq_self.mp same.modifiers
  · intro none_read
    refine ⟨rfl, ?_, ?_, rfl, rfl, rfl⟩
    · show kindBehind marker declaration.kind = declaration.kind
      cases declaration.kind with
      | plainClass =>
        rw [kindBehind, none_read]
        rfl
      | _ => rfl
    · show modifierWords marker.text ++ declaration.modifiers = declaration.modifiers
      rw [none_read, List.nil_append]

/-- **A marker changes the modifiers and the kind only if its arguments hold a modifier between
blanks.**  A line that starts with no blank and declares something declares the same name behind a
marker, with the same parameters, type and mutability, and with the name moved to the right by the
length of the marker.  The modifiers and the kind are the same as well exactly if the arguments of
the marker hold no modifier. -/
theorem signature_kept_behind_marker_iff (marker : Marker) {index : Nat} {line : Line}
    {declaration : Declaration} (solid : line.head?.any isBlank = false)
    (read : ofLine? index line = some declaration) :
    ofLine? index (marker.text ++ line) = some (declaration.behind marker) ∧
      (SameSignature (declaration.behind marker) declaration ↔ ¬ marker.HoldsModifier) := by
  have nonempty : line ≠ [] := by
    rintro rfl
    obtain ⟨front, back, cut, -, named, -⟩ := exists_cut_of_ofLine? read
    rw [List.nil_eq, List.append_eq_nil_iff, List.append_eq_nil_iff] at cut
    exact ne_nil_of_isName named cut.1.2
  refine ⟨?_, ?_⟩
  · rw [ofLine?_marker marker index nonempty solid, read]
    rfl
  · rw [sameSignature_behind_iff, modifierWords_marker_eq_nil_iff]

/-- Modifiers in quotes are held by no marker: they do not stand between blanks. -/
theorem signature_kept_behind_marker_iff_quoted :
    ∃ (marker : Marker) (declaration : Declaration),
      marker.text = "@Suppress(\"open\", \"sealed\")  ".toList ∧
      ofLine? 3 "enum class Color(val code: Int)".toList = some declaration ∧
      ofLine? 3 (marker.text ++ "enum class Color(val code: Int)".toList) =
        some (declaration.behind marker) ∧
      SameSignature (declaration.behind marker) declaration := by
  let marker : Marker :=
    { name := "Suppress".toList
      arguments := some "\"open\", \"sealed\"".toList
      space := [' ', ' ']
      named := by decide +kernel
      closes := by simp
      spaced := by decide
      blank := by
        rw [List.forall_mem_cons, List.forall_mem_singleton]
        exact ⟨by decide, by decide⟩ }
  have read : ofLine? 3 "enum class Color(val code: Int)".toList =
      some
        { name := "Color"
          kind := .enumClass
          line := 3
          range := .onLine 3 0 31
          selection := .onLine 3 11 16
          modifiers := ["enum"]
          signature := "enum class Color(val code: Int)"
          parameters := none
          declaredType := none
          mutable := false } := by
    decide +kernel
  have none_read : modifierWords marker.text = [] := by
    decide +kernel
  obtain ⟨behind, same⟩ := signature_kept_behind_marker_iff marker (by decide) read
  exact ⟨marker, _, by decide +kernel, read, behind,
    same.mpr ((modifierWords_marker_eq_nil_iff marker).mp none_read)⟩

/-- A class behind a marker whose argument speaks of enumerations is taken for one. -/
theorem class_read_as_enumeration_behind_marker :
    ∃ (marker : Marker) (declaration annotated : Declaration),
      marker.text = "@Deprecated(\"use enum now\") ".toList ∧
      ofLine? 0 "class Color".toList = some declaration ∧
      declaration.kind = .plainClass ∧ declaration.modifiers = [] ∧
      ofLine? 0 (marker.text ++ "class Color".toList) = some annotated ∧
      annotated.kind = .enumClass ∧ annotated.modifiers = ["enum"] := by
  let marker : Marker :=
    { name := "Deprecated".toList
      arguments := some "\"use enum now\"".toList
      space := [' ']
      named := by decide +kernel
      closes := by simp
      spaced := by decide
      blank := by
        rw [List.forall_mem_singleton]
        decide }
  refine ⟨marker,
    { name := "Color"
      kind := .plainClass
      line := 0
      range := .onLine 0 0 11
      selection := .onLine 0 6 11
      modifiers := []
      signature := "class Color"
      parameters := none
      declaredType := none
      mutable := false },
    { name := "Color"
      kind := .enumClass
      line := 0
      range := .onLine 0 0 39
      selection := .onLine 0 34 39
      modifiers := ["enum"]
      signature := "@Deprecated(\"use enum now\") class Color"
      parameters := none
      declaredType := none
      mutable := false }, ?_, ?_, rfl, rfl, ?_, rfl, rfl⟩ <;> decide +kernel

end Declaration

end KotlinAssist
