import KotlinAssist.Grammar.Named
import KotlinAssist.Proofs.Grammar.Writing
import KotlinAssist.Proofs.Word.Line

/-!
# A declared name is found

The head of a declaration is read in one way: each piece is taken as long as possible.  A line that
is asked whether it declares a given name tries many ways.  The way in which the head was read is
among them, so a line declares the name that is read from it.

One thing more has to be right: the name has to end where it was read.  A parenthesis follows the
name of a function, and a colon, an equals sign, a blank or nothing the name of a property; `by`
ends the head of a property only behind a blank, since a character of the name is a word character.
Behind the name of a type anything may stand.

## Main statements

* `mem_afterBlanks_of_spacedWord?`, `optional_mem_maybeAfter` — what was read is tried
* `declaresType_of_introducedHead?`, `declaresType_of_interfaceHead?` — types
* `declaresFunction_of_functionHead?` — functions
* `declaresProperty_of_propertyHead?` — properties
-/

namespace KotlinAssist.Grammar

open Text

/-! ## What was read is tried -/

theorem mem_afterBlanks {space : List Char} (blank : ∀ c ∈ space, isBlank c = true)
    (nonempty : space ≠ []) (rest : List Char) : rest ∈ afterBlanks (space ++ rest) := by
  induction space with
  | nil => exact absurd rfl nonempty
  | cons c space ih =>
    rw [List.forall_mem_cons] at blank
    rw [List.cons_append, afterBlanks, if_pos blank.1]
    by_cases last : space = []
    · rw [last]
      exact List.mem_cons_self
    · exact List.mem_cons_of_mem _ (ih blank.2 last)

/-- What follows all blanks is tried. -/
theorem trimStart_mem_afterBlanks (text : List Char) :
    trimStart text ∈ text :: afterBlanks text := by
  have divided : text.takeWhile isBlank ++ trimStart text = text := List.takeWhile_append_dropWhile
  by_cases none_blank : text.takeWhile isBlank = []
  · rw [none_blank, List.nil_append] at divided
    rw [divided]
    exact List.mem_cons_self
  · have blank : ∀ c ∈ text.takeWhile isBlank, isBlank c = true := fun c => List.mem_takeWhile_imp
    have tried := mem_afterBlanks blank none_blank (trimStart text)
    rw [divided] at tried
    exact List.mem_cons_of_mem _ tried

/-- What follows a fixed word and the blanks after it is tried. -/
theorem mem_afterBlanks_of_spacedWord? {word : String} {text taken rest : List Char}
    (found : spacedWord? word text = some (taken, rest)) :
    rest ∈ (afterWord word text).flatMap afterBlanks := by
  obtain ⟨space, read, nonempty, rfl, rfl⟩ := spacedWord?_eq_some found
  have after : afterWord word (word.toList ++ space ++ rest) = [space ++ rest] := by
    rw [afterWord, word?, stripFront?_eq_some_iff.mpr (List.append_assoc _ _ _)]
    rfl
  rw [after, List.flatMap_singleton]
  exact mem_afterBlanks (isBlank_of_blanks read) nonempty rest

/-- What follows a piece that may be read is tried. -/
theorem optional_mem_maybeAfter (reader : Reader) (text : List Char) :
    (optional reader text).2 ∈ maybeAfter reader text := by
  rw [optional, maybeAfter]
  cases reader text with
  | none => exact List.mem_cons_self
  | some reading => exact List.mem_cons_of_mem _ List.mem_cons_self

/-! ## Where a name ends -/

/-- Blanks and what is no part of a word part words. -/
theorem head?_blanks_append {space rest : List Char} (blank : ∀ c ∈ space, isBlank c = true)
    (stop : rest.head?.any isIdentifierChar = false) :
    (space ++ rest).head?.any isIdentifierChar = false := by
  cases space with
  | nil => exact stop
  | cons c space => exact isIdentifierChar_of_isBlank (blank c List.mem_cons_self)

/-- A text that starts outside of words behind its blanks starts outside of words. -/
theorem head?_any_of_trimStart {text : List Char}
    (stop : (trimStart text).head?.any isIdentifierChar = false) :
    text.head?.any isIdentifierChar = false := by
  have divided : text.takeWhile isBlank ++ trimStart text = text := List.takeWhile_append_dropWhile
  rw [← divided]
  exact head?_blanks_append (fun c => List.mem_takeWhile_imp) stop

/-- A colon parts words. -/
theorem head?_of_propertyClause? {text : List Char} {reading : TypeClause × List Char}
    (found : propertyClause? text = some reading) : text.head?.any isIdentifierChar = false := by
  obtain ⟨⟨colon, rest⟩, read, -⟩ := Option.bind_eq_some_iff.mp found
  obtain ⟨⟨taken, after⟩, first, -⟩ := Option.bind_eq_some_iff.mp read
  obtain ⟨left, stripped, -⟩ := Option.map_eq_some_iff.mp first
  apply head?_any_of_trimStart
  rw [show trimStart text = ':' :: left from stripFront?_eq_some_iff.mp stripped]
  show isIdentifierChar ':' = false
  decide

/-- The end of a property head parts words, behind a word character. -/
theorem head?_of_propertyEnd? {before : Char} {text ending : List Char}
    (isWord : isWordChar before = true) (found : propertyEnd? before text = some ending) :
    text.head?.any isIdentifierChar = false := by
  have divided := blanks_append text
  have blank : ∀ c ∈ (blanks text).1, isBlank c = true := fun c => List.mem_takeWhile_imp
  unfold propertyEnd? at found
  generalize blanks text = reading at found divided blank
  obtain ⟨space, rest⟩ := reading
  rw [← divided]
  dsimp only at found blank ⊢
  split at found
  · exact head?_blanks_append blank rfl
  · apply head?_blanks_append blank
    show isIdentifierChar '=' = false
    decide
  · -- behind a word character, `by` starts no word
    next after =>
    cases space with
    | nil =>
      rw [List.getLast?_nil, Option.getD_none, isWord] at found
      cases found
    | cons c space => exact isIdentifierChar_of_isBlank (blank c List.mem_cons_self)
  · cases found

theorem startsWithName_of_name? {text name after : List Char}
    (named : name? text = some (name, after)) (ends : after.head?.any isIdentifierChar = false) :
    startsWithName name text = true := by
  have divided := lossless_name? text name after named
  have stops : after.head?.any continuesName = false := by
    cases after with
    | nil => rfl
    | cons c after =>
      rw [List.head?_cons, Option.any_some] at ends ⊢
      rw [continuesName, ends, Bool.and_false]
  rw [startsWithName, stripFront?_eq_some_iff.mpr divided.symm]
  simp only [stops, Bool.not_false]

/-! ## Heads -/

section Types

variable {text after : List Char} {head : Head} (whole : text = head.text ++ after)
  (ends : after.head?.any isIdentifierChar = false)

include whole ends

theorem declaresType_of_introducedHead? {word : String} (introduces : word ∈ ["class", "object"])
    (found : introducedHead? word text = some head) : declaresType head.name text = true := by
  obtain ⟨rest, rest', after', led, introduced, named, whole'⟩ := introducedHead?_eq_some found
  obtain rfl : after = after' := List.append_cancel_left (whole.symm.trans whole')
  have starts := startsWithName_of_name? named ends
  have tried := mem_afterBlanks_of_spacedWord? introduced
  rw [declaresType, led]
  simp only [List.any_eq_true, List.flatMap_append, List.mem_append]
  rcases List.mem_cons.mp introduces with rfl | introduces
  · exact ⟨rest', .inl (.inl tried), starts⟩
  · rw [List.mem_singleton] at introduces
    subst introduces
    exact ⟨rest', .inr tried, starts⟩

theorem declaresType_of_interfaceHead? (found : interfaceHead? text = some head) :
    declaresType head.name text = true := by
  obtain ⟨rest, functional, rest', introducer, rest'', after', led, perhaps, introduced, -, named,
    whole'⟩ := interfaceHead?_eq_some found
  obtain rfl : after = after' := List.append_cancel_left (whole.symm.trans whole')
  have starts := startsWithName_of_name? named ends
  have tried := mem_afterBlanks_of_spacedWord? introduced
  rw [declaresType, led]
  dsimp only
  rw [perhaps]
  simp only [List.any_eq_true, List.flatMap_append, List.mem_append]
  exact ⟨rest'', .inl (.inr tried), starts⟩

end Types

/-- A function is found by its name, and the name ends before a blank or a parenthesis. -/
theorem declaresFunction_of_functionHead? {text : List Char} {head : FunctionHead}
    (found : functionHead? text = some head) :
    declaresFunction head.name text = true ∧
      ∃ after, text = head.text ++ after ∧ after.head?.any isIdentifierChar = false := by
  obtain ⟨rest, introducer, rest', generics, rest'', receiver, last, after, led, introduced,
    generic, received, -, named, whole, called, -⟩ := functionHead?_eq_some found
  constructor
  · have starts : rest' ∈ (afterWord "fun" rest).flatMap afterBlanks :=
      mem_afterBlanks_of_spacedWord? introduced
    have receivers : last ∈ maybeAfter (qualifier? inFunctionReceiver) rest'' := by
      have tried := optional_mem_maybeAfter (qualifier? inFunctionReceiver) rest''
      rwa [received] at tried
    have calls : startsWithCall head.name last = true := by
      have divided := lossless_name? last head.name after named
      rw [startsWithCall, stripFront?_eq_some_iff.mpr divided.symm]
      simp only [called, beq_self_eq_true]
    rw [declaresFunction, led]
    simp only [List.any_eq_true, List.mem_flatMap, List.mem_append]
    refine ⟨last, ⟨rest'', ?_, receivers⟩, calls⟩
    rcases optional_cases generic with ⟨-, rfl⟩ | typed
    · exact .inl (List.mem_flatMap.mp starts)
    · -- what follows the type parameters and all of their blanks is tried
      obtain ⟨parameters, behind, read, -, rfl⟩ := typeParameters?_eq_some typed
      refine .inr ⟨rest', List.mem_flatMap.mp starts, behind, ?_, trimStart_mem_afterBlanks behind⟩
      rw [read]
      exact List.mem_cons_self
  · refine ⟨after, whole, head?_any_of_trimStart ?_⟩
    rw [called]
    decide

/-- A property is found by its name, and no identifier character follows the name. -/
theorem declaresProperty_of_propertyHead? {text : List Char} {head : PropertyHead}
    (found : propertyHead? text = some head) :
    declaresProperty head.name text = true ∧
      ∃ after, text = head.text ++ after ∧ after.head?.any isIdentifierChar = false := by
  obtain ⟨rest, word, introducer, rest', receiver, last, after, led, listed, introduced, received,
    -, named, whole, ending⟩ := propertyHead?_eq_some found
  have ends : after.head?.any isIdentifierChar = false := by
    rcases ending with ⟨clause, ending, clauseRead, -⟩ | ⟨-, c, ending, isLast, ended⟩
    · exact head?_of_propertyClause? clauseRead
    · have part : isNamePart c = true :=
        isNamePart_of_isName (isName_of_name? named) c (List.mem_of_mem_getLast? isLast)
      refine head?_of_propertyEnd? ?_ ended
      rw [isWordChar, if_pos (toNat_lt_of_isNamePart part)]
      exact part
  refine ⟨?_, after, whole, ends⟩
  have tried := mem_afterBlanks_of_spacedWord? introduced
  have starts : rest' ∈ (afterWord "val" rest ++ afterWord "var" rest).flatMap afterBlanks := by
    rw [List.flatMap_append, List.mem_append]
    rcases List.mem_cons.mp listed with rfl | listed
    · exact .inl tried
    · rw [List.mem_singleton] at listed
      subst listed
      exact .inr tried
  have receivers : last ∈ maybeAfter (qualifier? inPropertyReceiver) rest' := by
    have tried := optional_mem_maybeAfter (qualifier? inPropertyReceiver) rest'
    rwa [received] at tried
  rw [declaresProperty, led]
  rw [List.any_eq_true]
  exact ⟨last, List.mem_flatMap.mpr ⟨rest', starts, receivers⟩, startsWithName_of_name? named ends⟩

end KotlinAssist.Grammar
