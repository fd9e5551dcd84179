import KotlinAssist.Proofs.Grammar.Reading

/-!
# What introduces a declaration

What stands before a declared name tells a function from a type, whatever the name is and whatever
follows it.  Before the name of a type stands `class`, `object` or `interface` with blanks behind
it.  Before the name of a function stands `fun` with blanks behind it, a closing angle bracket,
perhaps with blanks behind it, or the dot of a receiver type.  So the last character that is no
blank is another one.

## Main definitions

* `LastSolid` — the last character of a text that is no blank is one of some characters

## Main statements

* `LastSolid.exists_common` — there is only one such character
* `Declaration.lastSolid_of_ofLine?` — what stands before a declared name
* `Declaration.kind_ne_function_of_isTypeLike` — it tells a function from a type
-/

namespace KotlinAssist

open Text

namespace Grammar

/-- The last character of a text that is no blank is one of the given characters. -/
def LastSolid (solid text : List Char) : Prop :=
  ∃ front c space, text = front ++ c :: space ∧ c ∈ solid ∧ ∀ d ∈ space, isBlank d = true

namespace LastSolid

variable {solid text : List Char}

theorem append (last : LastSolid solid text) (front : List Char) :
    LastSolid solid (front ++ text) := by
  obtain ⟨inner, c, space, rfl, listed, blank⟩ := last
  exact ⟨front ++ inner, c, space, (List.append_assoc _ _ _).symm, listed, blank⟩

theorem append_blanks (last : LastSolid solid text) {space : List Char}
    (blank : ∀ c ∈ space, isBlank c = true) : LastSolid solid (text ++ space) := by
  obtain ⟨inner, c, between, rfl, listed, blank'⟩ := last
  refine ⟨inner, c, between ++ space, ?_, listed, List.forall_mem_append.mpr ⟨blank', blank⟩⟩
  rw [List.append_assoc, List.cons_append]

theorem concat {c : Char} (listed : c ∈ solid) (front : List Char) :
    LastSolid solid (front ++ [c]) :=
  ⟨front, c, [], rfl, listed, List.forall_mem_nil _⟩

/-- There is only one last character that is no blank. -/
theorem exists_common {solid' : List Char} (last : LastSolid solid text)
    (last' : LastSolid solid' text) (notBlank : ∀ c ∈ solid, isBlank c = false)
    (notBlank' : ∀ c ∈ solid', isBlank c = false) : ∃ c, c ∈ solid ∧ c ∈ solid' := by
  obtain ⟨front, c, space, cut, listed, blank⟩ := last
  obtain ⟨front', c', space', cut', listed', blank'⟩ := last'
  have reversed : space.reverse ++ c :: front.reverse = space'.reverse ++ c' :: front'.reverse := by
    have same := congrArg List.reverse (cut.symm.trans cut')
    simpa using same
  have run : ∀ d ∈ space.reverse, isBlank d = true := by
    intro d member
    exact blank d (List.mem_reverse.mp member)
  have run' : ∀ d ∈ space'.reverse, isBlank d = true := by
    intro d member
    exact blank' d (List.mem_reverse.mp member)
  obtain ⟨-, rfl⟩ := eq_of_run_append_cons run run' (notBlank c listed) (notBlank' c' listed')
    reversed
  exact ⟨c, listed, listed'⟩

/-- A fixed word with blanks behind it. -/
theorem of_spacedWord? {word : String} {c : Char} {front : List Char}
    (spelled : word.toList = front ++ [c]) (listed : c ∈ solid) {given taken rest : List Char}
    (found : spacedWord? word given = some (taken, rest)) : LastSolid solid taken := by
  obtain ⟨space, read, -, rfl, -⟩ := spacedWord?_eq_some found
  rw [spelled]
  exact (concat listed front).append_blanks (isBlank_of_blanks read)

end LastSolid

/-! ## Heads -/

/-- What a character before the name of a type can be: the last one of `class`, `object` or
`interface`. -/
def typeSolid : List Char :=
  ['s', 't', 'e']

/-- What a character before the name of a function can be: the last one of `fun`, of type parameters
or of a receiver type. -/
def functionSolid : List Char :=
  ['n', '>', '.']

theorem lastSolid_of_introducedHead? {word : String} {c : Char} {front text : List Char}
    (spelled : word.toList = front ++ [c]) (listed : c ∈ typeSolid) {head : Head}
    (found : introducedHead? word text = some head) : LastSolid typeSolid head.introducer := by
  obtain ⟨rest, rest', after, -, introduced, -⟩ := introducedHead?_eq_some found
  exact .of_spacedWord? spelled listed introduced

theorem lastSolid_of_interfaceHead? {text : List Char} {head : Head}
    (found : interfaceHead? text = some head) : LastSolid typeSolid head.introducer := by
  obtain ⟨rest, functional, rest', introducer, rest'', after, -, -, introduced, joined, -⟩ :=
    interfaceHead?_eq_some found
  have spelled : "interface".toList = "interfac".toList ++ ['e'] := by decide
  have last : LastSolid typeSolid introducer := .of_spacedWord? spelled (by decide) introduced
  rw [joined]
  exact last.append functional

theorem lastSolid_of_functionHead? {text : List Char} {head : FunctionHead}
    (found : functionHead? text = some head) : LastSolid functionSolid head.introducer := by
  obtain ⟨rest, introducer, rest', generics, rest'', receiver, last, after, -, introduced, generic,
    received, joined, -⟩ := functionHead?_eq_some found
  rw [joined]
  rcases optional_cases received with ⟨rfl, -⟩ | received
  · rw [List.append_nil]
    rcases optional_cases generic with ⟨rfl, -⟩ | typed
    · have spelled : "fun".toList = "fu".toList ++ ['n'] := by decide
      rw [List.append_nil]
      exact .of_spacedWord? spelled (by decide) introduced
    · obtain ⟨parameters, behind, read, rfl, -⟩ := typeParameters?_eq_some typed
      obtain ⟨front, rfl⟩ := exists_of_bracketed? read
      have closed : LastSolid functionSolid (front ++ ['>']) := .concat (by decide) front
      exact (closed.append_blanks fun c => List.mem_takeWhile_imp).append introducer
  · obtain ⟨front, rfl⟩ := exists_of_qualifier? received
    have dotted : LastSolid functionSolid (front ++ ['.']) := .concat (by decide) front
    exact dotted.append (introducer ++ generics)

end Grammar

/-! ## Lines -/

namespace Declaration

open Grammar

/-- What stands on a line before the name of a head. -/
theorem take_of_stands {line : Line} {head : Head} (stands : head.Stands (trim line)) :
    line.take (indentation line + head.nameStart) =
      line.takeWhile isBlank ++ head.lead ++ head.introducer := by
  obtain ⟨after, whole, -⟩ := stands.starts
  obtain ⟨tail, cut, -, length⟩ := exists_line_cut whole
  rw [List.append_assoc _ head.name] at cut
  rw [← length]
  exact (congrArg (List.take _) cut).trans List.take_left

theorem lastSolid_of_ofLine? {index : Nat} {line : Line} {declaration : Declaration}
    (found : ofLine? index line = some declaration) :
    (declaration.kind.isTypeLike = true →
      LastSolid typeSolid (line.take declaration.selection.start.character)) ∧
    (declaration.kind = .function →
      LastSolid functionSolid (line.take declaration.selection.start.character)) := by
  have ofHead {solid : List Char} {head : Head} (stands : head.Stands (trim line))
      (last : LastSolid solid head.introducer) :
      LastSolid solid (line.take (indentation line + head.nameStart)) := by
    rw [take_of_stands stands]
    exact last.append _
  rcases ofLine?_cases found with ⟨head, read, rfl⟩ | ⟨head, read, rfl⟩ | ⟨head, read, rfl⟩ |
    ⟨head, read, rfl⟩ | ⟨head, read, rfl⟩
  · have spelled : "class".toList = "clas".toList ++ ['s'] := by decide
    refine ⟨fun _ => ofHead (stands_of_introducedHead? "class" read)
      (lastSolid_of_introducedHead? spelled (by decide) read), ?_⟩
    intro isFunction
    simp only [ofClass, Declaration.ofHead] at isFunction
    split at isFunction <;> cases isFunction
  · have spelled : "object".toList = "objec".toList ++ ['t'] := by decide
    refine ⟨fun _ => ofHead (stands_of_introducedHead? "object" read)
      (lastSolid_of_introducedHead? spelled (by decide) read), ?_⟩
    rintro ⟨⟩
  · refine ⟨fun _ => ofHead (stands_of_interfaceHead? read) (lastSolid_of_interfaceHead? read), ?_⟩
    rintro ⟨⟩
  · refine ⟨?_, fun _ => ofHead (stands_of_functionHead? read).1 (lastSolid_of_functionHead? read)⟩
    rintro ⟨⟩
  · refine ⟨?_, ?_⟩ <;> rintro ⟨⟩

/-- **What stands before a declared name tells a function from a type.** -/
theorem kind_ne_function_of_isTypeLike {index index' : Nat} {line line' : Line}
    {declaration declaration' : Declaration} (found : ofLine? index line = some declaration)
    (found' : ofLine? index' line' = some declaration')
    (same : line.take declaration.selection.start.character =
      line'.take declaration'.selection.start.character)
    (isType : declaration.kind.isTypeLike = true) : declaration'.kind ≠ .function := by
  intro isFunction
  have last := (lastSolid_of_ofLine? found).1 isType
  have last' := (lastSolid_of_ofLine? found').2 isFunction
  rw [same] at last
  obtain ⟨c, ofType, ofFunction⟩ := last.exists_common last' (isBlank_of_any (by decide))
    (isBlank_of_any (by decide))
  have apart : typeSolid.any functionSolid.contains = false := by decide
  exact List.any_eq_false.mp apart c ofType (List.contains_iff_mem.mpr ofFunction)

end Declaration

end KotlinAssist
