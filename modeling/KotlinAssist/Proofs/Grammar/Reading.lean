import KotlinAssist.Declaration
import KotlinAssist.Proofs.Text.Blank

/-!
# Readings lose nothing

What a reader takes and what it leaves make up the text that it was given.  So the pieces of the
head of a declaration are, in their order, the start of its line, and the columns of the declared
name lie on the line.  What stands before the name ends with a blank, a dot or a bracket, so no word
reaches into the name from the left.

## Main definitions

* `Reader.Lossless` — a reader that loses nothing
* `PartsWords` — a text that ends outside of words
* `Head.Stands` — a head at the start of a text

## Main statements

* `many_append`, `lossless_spacedWord?` and others — the readers of the grammar
* `functionHead?_eq_some` and others — what was read when a head was read
* `stands_of_functionHead?` and others — the heads of declarations
* `Declaration.ofLine?_cases` — the ways in which a line can be read
* `Declaration.exists_cut_of_ofLine?` — a line cut around its declared name
* `Declaration.mem_ofLines_iff` — the declarations of a document
-/

namespace KotlinAssist

open Text

namespace Grammar

/-- What the reader takes and what it leaves are the text. -/
def Reader.Lossless (reader : Reader) : Prop :=
  ∀ text taken rest, reader text = some (taken, rest) → taken ++ rest = text

/-! ## Readers -/

theorem lossless_name? : Reader.Lossless name? := by
  intro text taken rest found
  cases text with
  | nil => cases found
  | cons c text =>
    rw [name?] at found
    split at found
    · cases found
      rw [List.cons_append, List.takeWhile_append_dropWhile]
    · cases found

theorem isBlank_of_blanks {text space rest : List Char} (read : blanks text = (space, rest)) :
    ∀ c ∈ space, isBlank c = true := by
  intro c member
  have inside : c ∈ (blanks text).1 := by
    rw [read]
    exact member
  exact List.mem_takeWhile_imp inside

/-- A fixed word that is read comes with the blanks after it, of which there is one at least. -/
theorem spacedWord?_eq_some {word : String} {text taken rest : List Char}
    (found : spacedWord? word text = some (taken, rest)) :
    ∃ space, blanks (space ++ rest) = (space, rest) ∧ space ≠ [] ∧
      taken = word.toList ++ space ∧ text = taken ++ rest := by
  obtain ⟨⟨front, back⟩, first, second⟩ := Option.bind_eq_some_iff.mp found
  obtain ⟨left, stripped, same⟩ := Option.map_eq_some_iff.mp first
  cases same
  have whole := stripFront?_eq_some_iff.mp stripped
  have spaced := blanks_append back
  dsimp only at second
  split at second
  · cases second
  · next space after some_blank read =>
    cases second
    rw [read] at spaced
    dsimp only at spaced
    rw [← spaced] at read whole
    refine ⟨space, read, fun none_left => some_blank none_left, rfl, ?_⟩
    rw [whole, List.append_assoc]

theorem lossless_spacedWord? (word : String) : Reader.Lossless (spacedWord? word) := by
  intro text taken rest found
  obtain ⟨space, -, -, -, whole⟩ := spacedWord?_eq_some found
  exact whole.symm

theorem lossless_bracketed? (opening closing : Char) :
    Reader.Lossless (bracketed? opening closing) := by
  intro text taken rest found
  cases text with
  | nil => cases found
  | cons c text =>
    rw [bracketed?] at found
    split at found
    · have divided := List.takeWhile_append_dropWhile (p := (· != closing)) (l := text)
      split at found
      · cases found
      · next close after read =>
        cases found
        rw [read] at divided
        simpa using divided
    · cases found

theorem lossless_qualifier? (inside : Char → Bool) : Reader.Lossless (qualifier? inside) := by
  intro text taken rest found
  cases text with
  | nil => cases found
  | cons c text =>
    rw [qualifier?] at found
    split at found
    · have divided := List.takeWhile_append_dropWhile (p := inside) (l := text)
      split at found
      · next after read =>
        cases found
        rw [read] at divided
        simpa using divided
      · cases found
    · cases found

/-- A reader that may find nothing loses nothing. -/
theorem optional_append {reader : Reader} (lossless : reader.Lossless) (text : List Char) :
    (optional reader text).1 ++ (optional reader text).2 = text := by
  rw [optional]
  cases found : reader text with
  | none => rfl
  | some reading => exact lossless text reading.1 reading.2 found

/-- What may be read was read, or it is nothing. -/
theorem optional_cases {reader : Reader} {text taken rest : List Char}
    (read : optional reader text = (taken, rest)) :
    taken = [] ∧ rest = text ∨ reader text = some (taken, rest) := by
  rw [optional] at read
  cases found : reader text with
  | none =>
    rw [found] at read
    cases read
    exact .inl ⟨rfl, rfl⟩
  | some reading =>
    rw [found] at read
    exact .inr (congrArg some read)

/-- Reading as often as possible loses nothing. -/
theorem many_append {reader : Reader} (lossless : reader.Lossless) (text : List Char) :
    (many reader text).1 ++ (many reader text).2 = text := by
  fun_induction many reader text with
  | case1 text found => rfl
  | case2 text taken rest found shorter more last joined ih =>
    rw [joined] at ih
    rw [List.append_assoc, ih]
    exact lossless text taken rest found
  | case3 text taken rest found longer => rfl

theorem lossless_marker? : Reader.Lossless marker? := by
  intro text taken rest found
  unfold marker? at found
  split at found
  · next text =>
    obtain ⟨⟨name, afterName⟩, named, found⟩ := Option.bind_eq_some_iff.mp found
    have first := lossless_name? text name afterName named
    have second := optional_append (lossless_bracketed? '(' ')') afterName
    have third := blanks_append (optional (bracketed? '(' ')') afterName).2
    dsimp only at found
    split at found
    · cases found
    · next space after _ read =>
      cases found
      rw [read] at third
      simp only [List.cons_append, List.append_assoc, List.cons.injEq, true_and]
      rw [third, second, first]
  · cases found

theorem lossless_modifier? : Reader.Lossless modifier? := by
  intro text taken rest found
  obtain ⟨word, -, read⟩ := List.exists_of_findSome?_eq_some found
  exact lossless_spacedWord? word text taken rest read

theorem leadIn_append (text : List Char) : (leadIn text).1 ++ (leadIn text).2 = text := by
  have first := many_append lossless_marker? text
  have second := many_append lossless_modifier? (many marker? text).2
  simp only [leadIn]
  rw [List.append_assoc, second, first]

/-- Type parameters stand in a bracket, with blanks behind it. -/
theorem typeParameters?_eq_some {text taken rest : List Char}
    (found : typeParameters? text = some (taken, rest)) :
    ∃ parameters after, bracketed? '<' '>' text = some (parameters, after) ∧
      taken = parameters ++ after.takeWhile isBlank ∧ rest = trimStart after := by
  obtain ⟨⟨parameters, after⟩, read, same⟩ := Option.bind_eq_some_iff.mp found
  cases same
  exact ⟨parameters, after, read, rfl, rfl⟩

theorem lossless_typeParameters? : Reader.Lossless typeParameters? := by
  intro text taken rest found
  obtain ⟨parameters, after, read, rfl, rfl⟩ := typeParameters?_eq_some found
  have first := lossless_bracketed? '<' '>' text parameters after read
  rw [trimStart, List.append_assoc, List.takeWhile_append_dropWhile, first]

/-! ## Names and what stands before them -/

theorem isName_of_name? {text name rest : List Char} (found : name? text = some (name, rest)) :
    isName name = true := by
  cases text with
  | nil => cases found
  | cons c text =>
    rw [name?] at found
    split at found
    · next starts =>
      cases found
      rw [isName, starts, Bool.true_and, List.all_eq_true]
      intro d member
      exact List.mem_takeWhile_imp member
    · cases found

/-- A name goes as far as it can. -/
theorem head?_of_name? {text name rest : List Char} (found : name? text = some (name, rest)) :
    rest.head?.any isNamePart = false := by
  cases text with
  | nil => cases found
  | cons c text =>
    rw [name?] at found
    split at found
    · cases found
      exact head?_dropWhile_any text
    · cases found

/-- A text that ends with a character of no word. -/
def PartsWords (text : List Char) : Prop :=
  ∃ front c, text = front ++ [c] ∧ isIdentifierChar c = false

/-- A reader whose pieces end outside of words. -/
def Reader.PartsWords (reader : Reader) : Prop :=
  ∀ text taken rest, reader text = some (taken, rest) → Grammar.PartsWords taken

theorem PartsWords.append {back : List Char} (parts : PartsWords back) (front : List Char) :
    PartsWords (front ++ back) := by
  obtain ⟨inner, c, rfl, apart⟩ := parts
  exact ⟨front ++ inner, c, (List.append_assoc _ _ _).symm, apart⟩

/-- Blanks, of which there is one at least, part words. -/
theorem partsWords_blanks {text space rest : List Char} (read : blanks text = (space, rest))
    (some_blank : space ≠ []) : PartsWords space := by
  refine ⟨space.dropLast, space.getLast some_blank, ?_, ?_⟩
  · exact (List.dropLast_concat_getLast some_blank).symm
  · exact isIdentifierChar_of_isBlank (isBlank_of_blanks read _ (List.getLast_mem some_blank))

theorem partsWords_spacedWord? (word : String) : Reader.PartsWords (spacedWord? word) := by
  intro text taken rest found
  obtain ⟨space, read, some_blank, rfl, -⟩ := spacedWord?_eq_some found
  exact (partsWords_blanks read some_blank).append word.toList

/-- A qualifier ends with its dot. -/
theorem exists_of_qualifier? {inside : Char → Bool} {text taken rest : List Char}
    (found : qualifier? inside text = some (taken, rest)) : ∃ front, taken = front ++ ['.'] := by
  cases text with
  | nil => cases found
  | cons c text =>
    rw [qualifier?] at found
    split at found
    · split at found
      · cases found
        exact ⟨_, rfl⟩
      · cases found
    · cases found

theorem partsWords_qualifier? (inside : Char → Bool) :
    Reader.PartsWords (qualifier? inside) := by
  intro text taken rest found
  obtain ⟨front, rfl⟩ := exists_of_qualifier? found
  exact ⟨front, '.', rfl, by decide⟩

/-- A bracket ends with the character that closes it. -/
theorem exists_of_bracketed? {opening closing : Char} {text taken rest : List Char}
    (found : bracketed? opening closing text = some (taken, rest)) :
    ∃ front, taken = front ++ [closing] := by
  cases text with
  | nil => cases found
  | cons c text =>
    rw [bracketed?] at found
    split at found
    · split at found
      · cases found
      · next close after read =>
        -- what is dropped ends before the closing bracket
        have stop := List.head?_dropWhile_not (· != closing) text
        rw [read, List.head?_cons] at stop
        cases found
        rw [show close = closing by simpa using stop]
        exact ⟨_, rfl⟩
    · cases found

theorem partsWords_bracketed? {opening closing : Char}
    (apart : isIdentifierChar closing = false) :
    Reader.PartsWords (bracketed? opening closing) := by
  intro text taken rest found
  obtain ⟨front, rfl⟩ := exists_of_bracketed? found
  exact ⟨front, closing, rfl, apart⟩

theorem partsWords_typeParameters? : Reader.PartsWords typeParameters? := by
  intro text taken rest found
  obtain ⟨parameters, after, read, rfl, -⟩ := typeParameters?_eq_some found
  have closed : PartsWords parameters :=
    partsWords_bracketed? (by decide) text parameters after read
  by_cases some_blank : after.takeWhile isBlank = []
  · rw [some_blank, List.append_nil]
    exact closed
  · exact (partsWords_blanks rfl some_blank).append parameters

/-- What may be read behind a text that parts words leaves it so. -/
theorem PartsWords.append_optional {front : List Char} (parts : PartsWords front)
    {reader : Reader} (parting : reader.PartsWords) (text : List Char) :
    PartsWords (front ++ (optional reader text).1) := by
  rw [optional]
  cases found : reader text with
  | none =>
    show PartsWords (front ++ [])
    rw [List.append_nil]
    exact parts
  | some reading => exact (parting text reading.1 reading.2 found).append front

/-! ## Heads -/

/-- A head at the start of a text: its pieces are the start of the text, its name is one and goes as
far as it can, and no word reaches into the name from the left. -/
structure Head.Stands (text : List Char) (head : Head) : Prop where
  starts : ∃ after, text = head.text ++ after ∧ after.head?.any isNamePart = false
  parts : PartsWords head.introducer
  named : isName head.name = true

/-- A text is a head and what follows it when the lead-in and the introducer stand before what the
name is read from. -/
theorem text_append_of_name? {text rest after : List Char} {head : Head}
    (before : head.lead ++ (head.introducer ++ rest) = text)
    (named : name? rest = some (head.name, after)) : text = head.text ++ after := by
  have divided := lossless_name? rest head.name after named
  rw [Head.text, List.append_assoc, List.append_assoc, divided, before]

/-- What was read when a lead-in, an introducer and a name were read. -/
theorem read?_eq_some {lead introducer text rest : List Char} {head : Head}
    (read : Head.read? lead introducer text = some (head, rest)) :
    head.lead = lead ∧ head.introducer = introducer ∧ name? text = some (head.name, rest) := by
  obtain ⟨⟨name, after⟩, named, same⟩ := Option.bind_eq_some_iff.mp read
  cases same
  exact ⟨rfl, rfl, named⟩

/-- What was read when a declaration that one word introduces was read. -/
theorem introducedHead?_eq_some {word : String} {text : List Char} {head : Head}
    (found : introducedHead? word text = some head) :
    ∃ rest rest' after, leadIn text = (head.lead, rest) ∧
      spacedWord? word rest = some (head.introducer, rest') ∧
      name? rest' = some (head.name, after) ∧ text = head.text ++ after := by
  have whole := leadIn_append text
  unfold introducedHead? at found
  generalize leadIn text = reading at found whole
  obtain ⟨lead, rest⟩ := reading
  obtain ⟨⟨introducer, rest'⟩, introduced, found⟩ := Option.bind_eq_some_iff.mp found
  obtain ⟨⟨head', after⟩, read, same⟩ := Option.bind_eq_some_iff.mp found
  cases same
  obtain ⟨rfl, rfl, named⟩ := read?_eq_some read
  refine ⟨rest, rest', after, rfl, introduced, named, text_append_of_name? ?_ named⟩
  rw [lossless_spacedWord? word rest _ rest' introduced, whole]

/-- The head of a type: a lead-in, one word that introduces the declaration, and the name. -/
theorem stands_of_introducedHead? (word : String) {text : List Char} {head : Head}
    (found : introducedHead? word text = some head) : head.Stands text := by
  obtain ⟨rest, rest', after, -, introduced, named, whole⟩ := introducedHead?_eq_some found
  exact ⟨⟨after, whole, head?_of_name? named⟩, partsWords_spacedWord? word rest _ rest' introduced,
    isName_of_name? named⟩

/-- What was read when an interface was read. -/
theorem interfaceHead?_eq_some {text : List Char} {head : Head}
    (found : interfaceHead? text = some head) :
    ∃ rest functional rest' introducer rest'' after, leadIn text = (head.lead, rest) ∧
      optional (spacedWord? "fun") rest = (functional, rest') ∧
      spacedWord? "interface" rest' = some (introducer, rest'') ∧
      head.introducer = functional ++ introducer ∧ name? rest'' = some (head.name, after) ∧
      text = head.text ++ after := by
  have whole := leadIn_append text
  unfold interfaceHead? at found
  generalize leadIn text = reading at found whole
  obtain ⟨lead, rest⟩ := reading
  have kept := optional_append (lossless_spacedWord? "fun") rest
  dsimp only at found
  generalize perhaps : optional (spacedWord? "fun") rest = reading at found kept
  obtain ⟨functional, rest'⟩ := reading
  obtain ⟨⟨introducer, rest''⟩, introduced, found⟩ := Option.bind_eq_some_iff.mp found
  obtain ⟨⟨head', after⟩, read, same⟩ := Option.bind_eq_some_iff.mp found
  cases same
  obtain ⟨rfl, joined, named⟩ := read?_eq_some read
  refine ⟨rest, functional, rest', introducer, rest'', after, rfl, perhaps, introduced, joined,
    named, text_append_of_name? ?_ named⟩
  rw [joined, List.append_assoc,
    lossless_spacedWord? "interface" rest' introducer rest'' introduced, kept, whole]

theorem stands_of_interfaceHead? {text : List Char} {head : Head}
    (found : interfaceHead? text = some head) : head.Stands text := by
  obtain ⟨rest, functional, rest', introducer, rest'', after, -, -, introduced, joined, named,
    whole⟩ := interfaceHead?_eq_some found
  have parts := partsWords_spacedWord? "interface" rest' introducer rest'' introduced
  refine ⟨⟨after, whole, head?_of_name? named⟩, ?_, isName_of_name? named⟩
  rw [joined]
  exact parts.append functional

/-- What was read when a function was read.  Its parameters end before the first closing
parenthesis. -/
theorem functionHead?_eq_some {text : List Char} {head : FunctionHead}
    (found : functionHead? text = some head) :
    ∃ rest introducer rest' generics rest'' receiver last after,
      leadIn text = (head.lead, rest) ∧ spacedWord? "fun" rest = some (introducer, rest') ∧
      optional typeParameters? rest' = (generics, rest'') ∧
      optional (qualifier? inFunctionReceiver) rest'' = (receiver, last) ∧
      head.introducer = introducer ++ generics ++ receiver ∧
      name? last = some (head.name, after) ∧ text = head.text ++ after ∧
      (trimStart after).head? = some '(' ∧ ')' ∉ head.parameters := by
  have whole := leadIn_append text
  unfold functionHead? at found
  generalize leadIn text = reading at found whole
  obtain ⟨lead, rest⟩ := reading
  obtain ⟨⟨introducer, rest'⟩, introduced, found⟩ := Option.bind_eq_some_iff.mp found
  have keptGenerics := optional_append lossless_typeParameters? rest'
  dsimp only at found
  generalize generic : optional typeParameters? rest' = reading at found keptGenerics
  obtain ⟨generics, rest''⟩ := reading
  have keptReceiver := optional_append (lossless_qualifier? inFunctionReceiver) rest''
  dsimp only at found
  generalize received : optional (qualifier? inFunctionReceiver) rest'' = reading
    at found keptReceiver
  obtain ⟨receiver, last⟩ := reading
  obtain ⟨⟨head', after⟩, read, found⟩ := Option.bind_eq_some_iff.mp found
  dsimp only at found
  split at found
  · next inside parenthesis =>
    cases found
    obtain ⟨rfl, joined, named⟩ := read?_eq_some read
    refine ⟨rest, introducer, rest', generics, rest'', receiver, last, after, rfl, introduced,
      generic, received, joined, named, text_append_of_name? ?_ named, ?_, ?_⟩
    · rw [joined, List.append_assoc, List.append_assoc, keptReceiver, keptGenerics,
        lossless_spacedWord? "fun" rest introducer rest' introduced, whole]
    · show (after.dropWhile isBlank).head? = some '('
      rw [show after.dropWhile isBlank = '(' :: inside from parenthesis, List.head?_cons]
    · intro member
      exact absurd (List.mem_takeWhile_imp member) (by decide)
  · cases found

/-- The head of a function.  Its parameters end before the first closing parenthesis. -/
theorem stands_of_functionHead? {text : List Char} {head : FunctionHead}
    (found : functionHead? text = some head) :
    head.toHead.Stands text ∧ ')' ∉ head.parameters := by
  obtain ⟨rest, introducer, rest', generics, rest'', receiver, last, after, -, introduced, generic,
    received, joined, named, whole, -, closes⟩ := functionHead?_eq_some found
  have parts := ((partsWords_spacedWord? "fun" rest introducer rest' introduced).append_optional
    partsWords_typeParameters? rest').append_optional
    (partsWords_qualifier? inFunctionReceiver) rest''
  rw [generic, received] at parts
  refine ⟨⟨⟨after, whole, head?_of_name? named⟩, ?_, isName_of_name? named⟩, closes⟩
  rw [joined]
  exact parts

theorem propertyWord?_eq_some {text : List Char} {mutable : Bool} {reading : Reading}
    (found : propertyWord? text = some (mutable, reading)) :
    ∃ word ∈ ["val", "var"], spacedWord? word text = some reading := by
  simp only [propertyWord?] at found
  split at found
  · next reading fixed =>
    cases found
    exact ⟨"val", by decide, fixed⟩
  · obtain ⟨reading, fixed, same⟩ := Option.map_eq_some_iff.mp found
    cases same
    exact ⟨"var", by decide, fixed⟩

/-- What was read when a property was read.  A type clause or an end of the head follows the
name. -/
theorem propertyHead?_eq_some {text : List Char} {head : PropertyHead}
    (found : propertyHead? text = some head) :
    ∃ rest word introducer rest' receiver last after,
      leadIn text = (head.lead, rest) ∧ word ∈ ["val", "var"] ∧
      spacedWord? word rest = some (introducer, rest') ∧
      optional (qualifier? inPropertyReceiver) rest' = (receiver, last) ∧
      head.introducer = introducer ++ receiver ∧ name? last = some (head.name, after) ∧
      text = head.text ++ after ∧
      ((∃ clause ending, propertyClause? after = some (clause, ending) ∧
          head.clause = some clause) ∨
        head.clause = none ∧ ∃ c ending, head.name.getLast? = some c ∧
          propertyEnd? c after = some ending) := by
  have whole := leadIn_append text
  unfold propertyHead? at found
  generalize leadIn text = reading at found whole
  obtain ⟨lead, rest⟩ := reading
  obtain ⟨⟨mutable, introducer, rest'⟩, introduced, found⟩ := Option.bind_eq_some_iff.mp found
  obtain ⟨word, listed, introduced⟩ := propertyWord?_eq_some introduced
  have kept := optional_append (lossless_qualifier? inPropertyReceiver) rest'
  dsimp only at found
  generalize received : optional (qualifier? inPropertyReceiver) rest' = reading at found kept
  obtain ⟨receiver, last⟩ := reading
  obtain ⟨⟨head', after⟩, read, found⟩ := Option.bind_eq_some_iff.mp found
  have before : lead ++ (introducer ++ receiver ++ last) = text := by
    rw [List.append_assoc, kept, lossless_spacedWord? word rest introducer rest' introduced, whole]
  dsimp only at found
  split at found
  · next clause ending clauseRead =>
    cases found
    obtain ⟨rfl, joined, named⟩ := read?_eq_some read
    exact ⟨rest, word, introducer, rest', receiver, last, after, rfl, listed, introduced, received,
      joined, named, text_append_of_name? (joined ▸ before) named,
      .inl ⟨clause, ending, clauseRead, rfl⟩⟩
  · obtain ⟨c, lastChar, found⟩ := Option.bind_eq_some_iff.mp found
    obtain ⟨ending, ended, same⟩ := Option.bind_eq_some_iff.mp found
    cases same
    obtain ⟨rfl, joined, named⟩ := read?_eq_some read
    exact ⟨rest, word, introducer, rest', receiver, last, after, rfl, listed, introduced, received,
      joined, named, text_append_of_name? (joined ▸ before) named,
      .inr ⟨rfl, c, ending, lastChar, ended⟩⟩

/-- The head of a property.  Its type, if it has one, was read as the clause of a property. -/
theorem stands_of_propertyHead? {text : List Char} {head : PropertyHead}
    (found : propertyHead? text = some head) :
    head.toHead.Stands text ∧
      ∀ clause ∈ head.clause, ∃ rest ending, propertyClause? rest = some (clause, ending) := by
  obtain ⟨rest, word, introducer, rest', receiver, last, after, -, -, introduced, received, joined,
    named, whole, ending⟩ := propertyHead?_eq_some found
  have parts := (partsWords_spacedWord? word rest introducer rest' introduced).append_optional
    (partsWords_qualifier? inPropertyReceiver) rest'
  rw [received] at parts
  refine ⟨⟨⟨after, whole, head?_of_name? named⟩, ?_, isName_of_name? named⟩, ?_⟩
  · rw [joined]
    exact parts
  · intro clause present
    rcases ending with ⟨clause', ending, clauseRead, typed⟩ | ⟨untyped, -⟩
    · cases typed.symm.trans present
      exact ⟨after, ending, clauseRead⟩
    · cases untyped.symm.trans present

end Grammar

/-! ## Lines -/

namespace Declaration

open Grammar

/-- The ways in which a line can be read. -/
theorem ofLine?_cases {index : Nat} {line : Line} {declaration : Declaration}
    (found : ofLine? index line = some declaration) :
    (∃ head, classHead? (trim line) = some head ∧ ofClass index line head = declaration) ∨
    (∃ head, objectHead? (trim line) = some head ∧
      ofHead index line .object head = declaration) ∨
    (∃ head, interfaceHead? (trim line) = some head ∧
      ofHead index line .interface head = declaration) ∨
    (∃ head, functionHead? (trim line) = some head ∧ ofFunction index line head = declaration) ∨
    (∃ head, propertyHead? (trim line) = some head ∧
      ofProperty index line head = declaration) := by
  simp only [ofLine?, Option.orElse_eq_orElse, Option.orElse_eq_or, Option.or_eq_some_iff,
    Option.map_eq_some_iff] at found
  rcases found with isClass | ⟨-, isObject | ⟨-, isInterface | ⟨-, isFunction | ⟨-, isProperty⟩⟩⟩⟩
  · exact .inl isClass
  · exact .inr (.inl isObject)
  · exact .inr (.inr (.inl isInterface))
  · exact .inr (.inr (.inr (.inl isFunction)))
  · exact .inr (.inr (.inr (.inr isProperty)))

/-- The columns of the pieces of a head on its line. -/
theorem exists_line_cut {line : Line} {head : Head} {after : List Char}
    (whole : trim line = head.text ++ after) :
    ∃ tail, line = line.takeWhile isBlank ++ head.lead ++ head.introducer ++ head.name ++
        (after ++ tail) ∧ (∀ c ∈ tail, isBlank c = true) ∧
      (line.takeWhile isBlank ++ head.lead ++ head.introducer).length =
        indentation line + head.nameStart := by
  obtain ⟨tail, cut, blank⟩ := exists_trim_cut line
  refine ⟨tail, ?_, blank, ?_⟩
  · rw [whole, Head.text] at cut
    simpa only [List.append_assoc] using cut
  · simp only [List.length_append, indentation, Head.nameStart, Nat.add_assoc]

/-- What follows a head on its line, and the blanks at the end of the line. -/
theorem drop_of_text {line : Line} {head : Head} {after : List Char}
    (whole : trim line = head.text ++ after) :
    ∃ tail, line.drop (indentation line + head.nameStart + head.name.length) = after ++ tail ∧
      ∀ c ∈ tail, isBlank c = true := by
  obtain ⟨tail, cut, blank, length⟩ := exists_line_cut whole
  refine ⟨tail, ?_, blank⟩
  rw [← length, ← List.length_append]
  exact (congrArg (List.drop _) cut).trans List.drop_left

/-- A line cut around the name of a head that stands on it. -/
theorem exists_cut_of_stands {line : Line} {head : Head}
    (stands : head.Stands (trim line)) :
    ∃ front back, line = front ++ head.name ++ back ∧
      front.getLast?.any isIdentifierChar = false ∧
      front.length = indentation line + head.nameStart := by
  obtain ⟨after, whole, -⟩ := stands.starts
  obtain ⟨tail, cut, -, length⟩ := exists_line_cut whole
  obtain ⟨inner, c, ending, apart⟩ := stands.parts
  refine ⟨_, _, cut, ?_, length⟩
  rw [ending, ← List.append_assoc, List.getLast?_concat]
  exact apart

/-- **A line is cut around its declared name.**  The name stands at the columns of the selection, it
is a name, and no identifier character precedes it. -/
theorem exists_cut_of_ofLine? {index : Nat} {line : Line} {declaration : Declaration}
    (found : ofLine? index line = some declaration) :
    ∃ front back, line = front ++ declaration.name.toList ++ back ∧
      front.getLast?.any isIdentifierChar = false ∧ isName declaration.name.toList = true ∧
      declaration.selection = .onLine index front.length
        (front.length + declaration.name.toList.length) := by
  have ofStands (kind : DeclarationKind) {head : Head} (stands : head.Stands (trim line)) :
      ∃ front back, line = front ++ (ofHead index line kind head).name.toList ++ back ∧
        front.getLast?.any isIdentifierChar = false ∧
        isName (ofHead index line kind head).name.toList = true ∧
        (ofHead index line kind head).selection = .onLine index front.length
          (front.length + (ofHead index line kind head).name.toList.length) := by
    obtain ⟨front, back, cut, apart, placed⟩ := exists_cut_of_stands stands
    simp only [ofHead, String.toList_ofList]
    exact ⟨front, back, cut, apart, stands.named, by rw [placed]⟩
  rcases ofLine?_cases found with ⟨head, read, rfl⟩ | ⟨head, read, rfl⟩ | ⟨head, read, rfl⟩ |
    ⟨head, read, rfl⟩ | ⟨head, read, rfl⟩
  · exact ofStands _ (stands_of_introducedHead? "class" read)
  · exact ofStands _ (stands_of_introducedHead? "object" read)
  · exact ofStands _ (stands_of_interfaceHead? read)
  · exact ofStands .function (stands_of_functionHead? read).1
  · exact ofStands .property (stands_of_propertyHead? read).1

/-- **A declared name goes as far as it can**: no character of names follows it. -/
theorem head?_drop_of_ofLine? {index : Nat} {line : Line} {declaration : Declaration}
    (found : ofLine? index line = some declaration) :
    (line.drop declaration.selection.stop.character).head?.any isNamePart = false := by
  have ofStands {head : Head} (stands : head.Stands (trim line)) :
      (line.drop (indentation line + head.nameStart + head.name.length)).head?.any isNamePart =
        false := by
    obtain ⟨after, whole, ends⟩ := stands.starts
    obtain ⟨tail, behind, blank⟩ := drop_of_text whole
    rw [behind, head?_append_blanks blank fun _ => isNamePart_of_isBlank]
    exact ends
  rcases ofLine?_cases found with ⟨head, read, rfl⟩ | ⟨head, read, rfl⟩ | ⟨head, read, rfl⟩ |
    ⟨head, read, rfl⟩ | ⟨head, read, rfl⟩
  · exact ofStands (stands_of_introducedHead? "class" read)
  · exact ofStands (stands_of_introducedHead? "object" read)
  · exact ofStands (stands_of_interfaceHead? read)
  · exact ofStands (stands_of_functionHead? read).1
  · exact ofStands (stands_of_propertyHead? read).1

/-- The declared name stands on its line: its columns do not reach behind the end. -/
theorem selection_of_ofLine? {index : Nat} {line : Line} {declaration : Declaration}
    (found : ofLine? index line = some declaration) :
    ∃ start stop, declaration.selection = .onLine index start stop ∧ start ≤ stop ∧
      stop ≤ line.length := by
  obtain ⟨front, back, cut, -, -, selected⟩ := exists_cut_of_ofLine? found
  refine ⟨_, _, selected, Nat.le_add_right _ _, ?_⟩
  rw [cut, List.length_append, List.length_append]
  exact Nat.le_add_right _ _

theorem line_of_ofLine? {index : Nat} {line : Line} {declaration : Declaration}
    (found : ofLine? index line = some declaration) : declaration.line = index := by
  rcases ofLine?_cases found with ⟨head, -, rfl⟩ | ⟨head, -, rfl⟩ | ⟨head, -, rfl⟩ |
    ⟨head, -, rfl⟩ | ⟨head, -, rfl⟩ <;> rfl

/-- The declarations of a document are read from its lines. -/
theorem mem_ofLines_iff {document : List Line} {declaration : Declaration} :
    declaration ∈ ofLines document ↔
      ∃ line, document[declaration.line]? = some line ∧
        ofLine? declaration.line line = some declaration := by
  simp only [ofLines, List.mem_filterMap, Prod.exists, List.mem_zipIdx_iff_getElem?]
  constructor
  · rintro ⟨line, index, present, found⟩
    rw [line_of_ofLine? found]
    exact ⟨line, present, found⟩
  · rintro ⟨line, present, found⟩
    exact ⟨line, declaration.line, present, found⟩

end Declaration

end KotlinAssist
