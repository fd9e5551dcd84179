import KotlinAssist.Proofs.Grammar.Reading
import KotlinAssist.Proofs.Grammar.TypeClause
import KotlinAssist.Proofs.Word.Line

/-!
# Written heads are read

A head is written as its modifiers and the word that introduces the declaration, a space after each,
and then the name.  Read again, its lead-in is exactly the modifiers, and of the five readings of a
line only the one that belongs to the introducer gets as far as the name.  Both rest on one fact: a
name that a character of no name follows starts with no other fixed word and a blank.

## Main definitions

* `spaced` — words with a space after each
* `written` — a text behind modifiers and an introducer
* `introducers` — the words that introduce a declaration

## Main statements

* `spacedWord?_eq_none` — no other word is read from a name
* `leadIn_written` — the lead-in of a written head
* `introducedHead?_written`, `interfaceHead?_written`, `functionHead?_written` and
  `propertyHead?_written` — the head that is read
-/

namespace KotlinAssist

open Text

namespace Grammar

/-! ## Names and fixed words -/

theorem isBlank_of_isNamePart {c : Char} (part : isNamePart c = true) : isBlank c = false := by
  by_contra blank
  rw [Bool.not_eq_false] at blank
  rw [isNamePart_of_isBlank blank] at part
  contradiction

/-- A name holds no blank. -/
theorem isBlank_of_isName {name : List Char} (named : isName name = true) :
    ∀ c ∈ name, isBlank c = false := by
  intro c member
  exact isBlank_of_isNamePart (isNamePart_of_isName named c member)

/-- A name starts with no blank. -/
theorem head?_append_of_isName {name : List Char} (named : isName name = true)
    (rest : List Char) : (name ++ rest).head?.any isBlank = false := by
  cases name with
  | nil => cases named
  | cons c name => exact isBlank_of_isName named c List.mem_cons_self

/-- A name ends with no blank. -/
theorem getLast?_of_isName {name : List Char} (named : isName name = true) :
    name.getLast?.any isBlank = false := by
  have nonempty := ne_nil_of_isName named
  rw [List.getLast?_eq_some_getLast nonempty]
  exact isBlank_of_isName named _ (List.getLast_mem nonempty)

/-- A name is read up to the first character of no name. -/
theorem name?_append {name rest : List Char} (named : isName name = true)
    (stop : rest.head?.any isNamePart = false) : name? (name ++ rest) = some (name, rest) := by
  cases name with
  | nil => cases named
  | cons c name =>
    rw [isName, Bool.and_eq_true, List.all_eq_true] at named
    rw [List.cons_append, name?, if_pos named.1, takeWhile_run_append named.2 stop,
      dropWhile_run_append named.2 stop]

theorem read?_append (lead introducer : List Char) {name rest : List Char}
    (named : isName name = true) (stop : rest.head?.any isNamePart = false) :
    Head.read? lead introducer (name ++ rest) = some (⟨lead, introducer, name⟩, rest) := by
  rw [Head.read?, name?_append named stop]
  rfl

theorem spacedWord?_append (word : String) {rest : List Char}
    (stop : rest.head?.any isBlank = false) :
    spacedWord? word (word.toList ++ ' ' :: rest) = some (word.toList ++ [' '], rest) := by
  have first : word? word (word.toList ++ ' ' :: rest) = some (word.toList, ' ' :: rest) := by
    rw [word?, stripFront?_eq_some_iff.mpr rfl]
    rfl
  rw [spacedWord?, first]
  dsimp only [Option.bind_eq_bind, Option.bind_some]
  rw [blanks_space stop]

/-- A fixed word that is read is followed by a blank. -/
theorem exists_blank_of_spacedWord? {word : String} {text : List Char} {reading : Reading}
    (found : spacedWord? word text = some reading) :
    ∃ blank rest, isBlank blank = true ∧ text = word.toList ++ blank :: rest := by
  obtain ⟨space, read, some_blank, taken, whole⟩ := spacedWord?_eq_some found
  obtain ⟨blank, space, rfl⟩ := List.exists_cons_of_ne_nil some_blank
  refine ⟨blank, space ++ reading.2, ?_, ?_⟩
  · exact isBlank_of_blanks read blank List.mem_cons_self
  · rw [whole, taken, List.append_assoc]
    rfl

/-- **No other word is read from a name**, nor the same one when no blank follows. -/
theorem spacedWord?_eq_none {word : String} {name rest : List Char} {c : Char}
    (isWord : isName word.toList = true) (named : isName name = true)
    (stop : isNamePart c = false) (apart : word.toList = name → isBlank c = false) :
    spacedWord? word (name ++ c :: rest) = none := by
  by_contra found
  obtain ⟨reading, found⟩ := Option.ne_none_iff_exists'.mp found
  obtain ⟨blank, after, isBlank_blank, same⟩ := exists_blank_of_spacedWord? found
  have stop' : isNamePart blank = false := isNamePart_of_isBlank isBlank_blank
  obtain ⟨rfl, rfl⟩ := eq_of_run_append_cons (isNamePart_of_isName named)
    (isNamePart_of_isName isWord) stop stop' same
  rw [apart rfl] at isBlank_blank
  contradiction

theorem optional_eq_of_none {reader : Reader} {text : List Char} (missing : reader text = none) :
    optional reader text = ([], text) := by
  rw [optional, missing]
  rfl

/-- A piece that is read comes before all that is read behind it. -/
theorem many_of_read {reader : Reader} {text taken rest : List Char}
    (read : reader text = some (taken, rest)) (shorter : rest.length < text.length) :
    many reader text = (taken ++ (many reader rest).1, (many reader rest).2) := by
  rw [many, read]
  dsimp only
  rw [if_pos shorter]

/-- No receiver type is read from a name that no dot follows. -/
theorem qualifier?_eq_none {inside : Char → Bool} {name after : List Char}
    (named : isName name = true) (within : ∀ c, isNamePart c = true → inside c = true)
    (stop : after.head?.any (fun c => inside c || c == '.') = false) :
    qualifier? inside (name ++ after) = none := by
  have ends : after.head?.any inside = false := by
    cases after with
    | nil => rfl
    | cons c after => exact (Bool.or_eq_false_iff.mp stop).1
  cases name with
  | nil => cases named
  | cons c name =>
    have all : ∀ d ∈ name, inside d = true := by
      intro d member
      exact within d (isNamePart_of_isName named d (List.mem_cons_of_mem c member))
    rw [List.cons_append, qualifier?, dropWhile_run_append all ends]
    split
    · split
      · exact absurd (Bool.or_eq_false_iff.mp stop).2 (by decide)
      · rfl
    · rfl

/-- No type parameters are read from a name. -/
theorem typeParameters?_eq_none {name : List Char} (named : isName name = true)
    (after : List Char) : typeParameters? (name ++ after) = none := by
  cases name with
  | nil => cases named
  | cons c name =>
    rw [isName, Bool.and_eq_true] at named
    have no_bracket : c ≠ '<' := by
      rintro rfl
      exact absurd named.1 (by decide)
    rw [typeParameters?, List.cons_append, bracketed?, if_neg no_bracket]
    rfl

/-! ## Lead-ins -/

/-- The words that introduce a declaration. -/
def introducers : List String :=
  ["class", "object", "interface", "fun", "val", "var"]

/-- Words with a space after each. -/
def spaced (words : List String) : List Char :=
  words.flatMap fun word => word.toList ++ [' ']

/-- A text behind modifiers and the word that introduces it, a space after each of them. -/
def written (modifiers : List String) (introducer : String) (text : List Char) : List Char :=
  spaced modifiers ++ (introducer.toList ++ ' ' :: text)

theorem written_cons (word : String) (words : List String) (introducer : String)
    (text : List Char) :
    written (word :: words) introducer text =
      word.toList ++ ' ' :: written words introducer text := by
  simp [written, spaced]

theorem isName_modifier {word : String} (isModifier : Vocabulary.isModifier word = true) :
    isName word.toList = true := by
  have all : ∀ word ∈ Vocabulary.modifiers, isName word.toList = true := by decide
  exact all word (List.contains_iff_mem.mp isModifier)

theorem isName_introducer {word : String} (introduces : word ∈ introducers) :
    isName word.toList = true := by
  have all : ∀ word ∈ introducers, isName word.toList = true := by decide
  exact all word introduces

theorem modifier?_append {word : String} (isModifier : Vocabulary.isModifier word = true)
    {rest : List Char} (stop : rest.head?.any isBlank = false) :
    modifier? (word.toList ++ ' ' :: rest) = some (word.toList ++ [' '], rest) := by
  obtain ⟨before, after, divided, absent⟩ :=
    List.eq_append_cons_of_mem (List.contains_iff_mem.mp isModifier)
  refine List.findSome?_eq_some_iff.mpr ⟨before, word, after, divided, ?_, ?_⟩
  · exact spacedWord?_append word stop
  · intro other member
    have listed : other ∈ Vocabulary.modifiers := by
      rw [divided]
      exact List.mem_append_left _ member
    refine spacedWord?_eq_none (isName_modifier (List.contains_iff_mem.mpr listed))
      (isName_modifier isModifier) (by decide) ?_
    intro same
    rw [String.toList_inj.mp same] at member
    exact absurd member absent

/-- No introducer is read as a modifier. -/
theorem modifier?_introducer {word : String} (introduces : word ∈ introducers)
    (rest : List Char) : modifier? (word.toList ++ ' ' :: rest) = none := by
  refine List.findSome?_eq_none_iff.mpr ?_
  intro other member
  refine spacedWord?_eq_none (isName_modifier (List.contains_iff_mem.mpr member))
    (isName_introducer introduces) (by decide) ?_
  intro same
  have disjoint : ∀ word ∈ introducers, word ∉ Vocabulary.modifiers := by decide
  rw [String.toList_inj.mp same] at member
  exact absurd member (disjoint word introduces)

/-- No introducer is read in place of another. -/
theorem spacedWord?_introducer {word other : String} (isWord : word ∈ introducers)
    (introduces : other ∈ introducers) (apart : word ≠ other) (text : List Char) :
    spacedWord? word (other.toList ++ ' ' :: text) = none := by
  refine spacedWord?_eq_none (isName_introducer isWord) (isName_introducer introduces)
    (by decide) ?_
  intro same
  exact absurd (String.toList_inj.mp same) apart

/-- The word that introduces a property is read. -/
theorem propertyWord?_append (mutable : Bool) {rest : List Char}
    (stop : rest.head?.any isBlank = false) :
    propertyWord? ((if mutable then "var" else "val").toList ++ ' ' :: rest) =
      some (mutable, (if mutable then "var" else "val").toList ++ [' '], rest) := by
  unfold propertyWord?
  cases mutable with
  | false =>
    have read := spacedWord?_append "val" stop
    simp only [Bool.false_eq_true, if_false, read]
  | true =>
    have no_val : spacedWord? "val" ("var".toList ++ ' ' :: rest) = none :=
      spacedWord?_introducer (by decide) (by decide) (by decide) rest
    have read := spacedWord?_append "var" stop
    simp only [if_true, no_val, read, Option.map_some]

section Written

variable {modifiers : List String} (modified : ∀ word ∈ modifiers, Vocabulary.isModifier word)
  {introducer : String} (introduces : introducer ∈ introducers)

include modified introduces

/-- A written head starts with a name. -/
theorem exists_name_written (text : List Char) :
    ∃ name rest, isName name = true ∧ written modifiers introducer text = name ++ rest := by
  cases modifiers with
  | nil => exact ⟨introducer.toList, ' ' :: text, isName_introducer introduces, rfl⟩
  | cons word words =>
    refine ⟨word.toList, ' ' :: written words introducer text, ?_, ?_⟩
    · exact isName_modifier (modified word List.mem_cons_self)
    · exact written_cons word words introducer text

theorem head?_written (text : List Char) :
    (written modifiers introducer text).head?.any isBlank = false := by
  obtain ⟨name, rest, named, whole⟩ := exists_name_written modified introduces text
  rw [whole]
  exact head?_append_of_isName named rest

theorem trimmed_written {text : List Char} (nonempty : text ≠ [])
    (ends : text.getLast?.any isBlank = false) : Trimmed (written modifiers introducer text) where
  starts := head?_written modified introduces text
  ends := by
    have whole : written modifiers introducer text =
        (spaced modifiers ++ introducer.toList ++ [' ']) ++ text := by
      simp [written]
    rw [whole, List.getLast?_append_of_ne_nil _ nonempty]
    exact ends

/-- No marker stands at the start of a written head. -/
theorem many_marker?_written (text : List Char) :
    many marker? (written modifiers introducer text) =
      ([], written modifiers introducer text) := by
  obtain ⟨name, rest, named, whole⟩ := exists_name_written modified introduces text
  have no_marker : marker? (name ++ rest) = none := by
    cases name with
    | nil => cases named
    | cons c name =>
      rw [isName, Bool.and_eq_true] at named
      unfold marker?
      split
      · next same =>
        cases same
        exact absurd named.1 (by decide)
      · rfl
  rw [many, whole, no_marker]

/-- Written modifiers are all read. -/
theorem many_modifier?_written (text : List Char) :
    many modifier? (written modifiers introducer text) =
      (spaced modifiers, introducer.toList ++ ' ' :: text) := by
  induction modifiers with
  | nil =>
    show many modifier? (introducer.toList ++ ' ' :: text) = ([], _)
    rw [many, modifier?_introducer introduces]
  | cons word words ih =>
    rw [List.forall_mem_cons] at modified
    have read := modifier?_append modified.1 (head?_written modified.2 introduces text)
    have shorter : (written words introducer text).length <
        (word.toList ++ ' ' :: written words introducer text).length := by
      simp only [List.length_append, List.length_cons]
      omega
    rw [written_cons, many_of_read read shorter, ih modified.2]
    rfl

/-- **The lead-in of a written head is its modifiers.** -/
theorem leadIn_written (text : List Char) :
    leadIn (written modifiers introducer text) =
      (spaced modifiers, introducer.toList ++ ' ' :: text) := by
  rw [leadIn, many_marker?_written modified introduces]
  dsimp only
  rw [many_modifier?_written modified introduces]
  rfl

/-! ## Heads -/

/-- The word that introduces the written head is read. -/
theorem introducedHead?_written {name after : List Char} (named : isName name = true)
    (stop : after.head?.any isNamePart = false) :
    introducedHead? introducer (written modifiers introducer (name ++ after)) =
      some ⟨spaced modifiers, introducer.toList ++ [' '], name⟩ := by
  unfold introducedHead?
  rw [leadIn_written modified introduces]
  dsimp only [Option.bind_eq_bind]
  rw [spacedWord?_append introducer (head?_append_of_isName named after), Option.bind_some,
    read?_append _ _ named stop]
  rfl

/-- No other word is read in its place. -/
theorem introducedHead?_written_of_ne {word : String} (isWord : word ∈ introducers)
    (apart : word ≠ introducer) (text : List Char) :
    introducedHead? word (written modifiers introducer text) = none := by
  unfold introducedHead?
  rw [leadIn_written modified introduces]
  dsimp only [Option.bind_eq_bind]
  rw [spacedWord?_introducer isWord introduces apart]
  rfl

/-- Neither `interface` nor `fun` is read where another word introduces the head. -/
theorem interfaceHead?_written_of_ne (apart : introducer ≠ "interface")
    (apart' : introducer ≠ "fun") (text : List Char) :
    interfaceHead? (written modifiers introducer text) = none := by
  unfold interfaceHead?
  rw [leadIn_written modified introduces]
  dsimp only [Option.bind_eq_bind]
  rw [optional_eq_of_none (spacedWord?_introducer (by decide) introduces apart'.symm text)]
  dsimp only
  rw [spacedWord?_introducer (by decide) introduces apart.symm]
  rfl

theorem functionHead?_written_of_ne (apart : introducer ≠ "fun") (text : List Char) :
    functionHead? (written modifiers introducer text) = none := by
  unfold functionHead?
  rw [leadIn_written modified introduces]
  dsimp only [Option.bind_eq_bind]
  rw [spacedWord?_introducer (by decide) introduces apart.symm]
  rfl

end Written

section Heads

variable {modifiers : List String} (modified : ∀ word ∈ modifiers, Vocabulary.isModifier word)
  {name : List Char} (named : isName name = true)

include modified named

theorem interfaceHead?_written {after : List Char} (stop : after.head?.any isNamePart = false) :
    interfaceHead? (written modifiers "interface" (name ++ after)) =
      some ⟨spaced modifiers, "interface".toList ++ [' '], name⟩ := by
  have no_fun : spacedWord? "fun" ("interface".toList ++ ' ' :: (name ++ after)) = none :=
    spacedWord?_introducer (by decide) (by decide) (by decide) _
  unfold interfaceHead?
  rw [leadIn_written modified (by decide)]
  dsimp only [Option.bind_eq_bind]
  rw [optional_eq_of_none no_fun]
  dsimp only
  rw [spacedWord?_append "interface" (head?_append_of_isName named after), Option.bind_some,
    read?_append _ _ named stop]
  rfl

/-- A written function is no functional interface, even if its name is `interface`. -/
theorem interfaceHead?_written_function (rest : List Char) :
    interfaceHead? (written modifiers "fun" (name ++ '(' :: rest)) = none := by
  have functional := spacedWord?_append "fun" (head?_append_of_isName named ('(' :: rest))
  have no_interface : spacedWord? "interface" (name ++ '(' :: rest) = none :=
    spacedWord?_eq_none (by decide) named (by decide) fun _ => by decide
  unfold interfaceHead?
  rw [leadIn_written modified (by decide)]
  dsimp only [Option.bind_eq_bind, optional]
  rw [functional]
  dsimp only [Option.getD_some]
  rw [no_interface]
  rfl

/-- **A written function is read.** -/
theorem functionHead?_written {parameters rest : List Char} (closes : ')' ∉ parameters) :
    functionHead? (written modifiers "fun" (name ++ '(' :: (parameters ++ ')' :: rest))) =
      some
        { lead := spaced modifiers
          introducer := "fun".toList ++ [' ']
          name := name
          space := []
          parameters := parameters
          closed := true
          rest := rest } := by
  have no_receiver : qualifier? inFunctionReceiver (name ++ '(' :: (parameters ++ ')' :: rest)) =
      none := by
    refine qualifier?_eq_none named ?_ rfl
    intro c part
    rw [inFunctionReceiver, part]
    rfl
  have all := bne_of_not_mem closes
  have stop : (')' :: rest).head?.any (· != ')') = false := rfl
  have no_space : blanks ('(' :: (parameters ++ ')' :: rest)) =
      ([], '(' :: (parameters ++ ')' :: rest)) := rfl
  unfold functionHead?
  rw [leadIn_written modified (by decide)]
  dsimp only [Option.bind_eq_bind]
  rw [spacedWord?_append "fun" (head?_append_of_isName named _), Option.bind_some]
  dsimp only
  rw [optional_eq_of_none (typeParameters?_eq_none named _)]
  dsimp only
  rw [optional_eq_of_none no_receiver]
  dsimp only
  rw [read?_append _ _ named rfl, Option.bind_some]
  dsimp only
  rw [no_space]
  simp [takeWhile_run_append all stop, dropWhile_run_append all stop]

/-- **A written property is read.** -/
theorem propertyHead?_written {type : Option (List Char)} (types : ∀ t ∈ type, PropertyType t)
    (mutable : Bool) :
    propertyHead? (written modifiers (if mutable then "var" else "val") (name ++ typePart type)) =
      some
        { lead := spaced modifiers
          introducer := (if mutable then "var" else "val").toList ++ [' ']
          name := name
          mutable := mutable
          clause := type.map (TypeClause.mk [':', ' '])
          ending := [] } := by
  have no_receiver : qualifier? inPropertyReceiver (name ++ typePart type) = none := by
    refine qualifier?_eq_none named ?_ ?_
    · intro c part
      rw [inPropertyReceiver, part]
      rfl
    · cases type <;> rfl
  have stop : (typePart type).head?.any isNamePart = false := by
    cases type <;> rfl
  unfold propertyHead?
  rw [leadIn_written modified (by cases mutable <;> decide)]
  dsimp only [Option.bind_eq_bind]
  rw [propertyWord?_append mutable (head?_append_of_isName named _), Option.bind_some]
  dsimp only
  rw [optional_eq_of_none no_receiver]
  dsimp only
  rw [read?_append _ _ named stop, Option.bind_some]
  dsimp only
  rw [propertyClause?_typePart types]
  cases type with
  | none =>
    rw [List.getLast?_eq_some_getLast (ne_nil_of_isName named)]
    simp [typePart, propertyEnd?, blanks]
  | some type => simp

end Heads

end Grammar

end KotlinAssist
