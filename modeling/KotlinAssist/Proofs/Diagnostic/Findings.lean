import KotlinAssist.Diagnostic
import KotlinAssist.Proofs.Grammar.Reading
import KotlinAssist.Proofs.Text.Search
import Mathlib.Data.List.Nodup

/-!
# What the rules report

Each finding says what was found and where: an import line whose name is not used, a declared name
with the wrong case of its first letter, an occurrence of a discouraged text.  The code of a finding
is the name of its rule, and no two rules have the same name, so a finding belongs to one rule.

## Main statements

* `BraceBalance.exists_of_mem_findings`, `UnusedImport.exists_of_mem_check`,
  `NamingConvention.exists_of_mem_check`, `DiscouragedPattern.exists_of_mem_check` — the findings of
  a rule
* `mem_check_of_code_eq` — findings with the same code are of the same rule
-/

namespace KotlinAssist

open Text

variable {document : List Line} {diagnostic : Diagnostic}

/-! ## The rules -/

theorem BraceBalance.exists_of_mem_findings {index depth : Nat}
    (reported : diagnostic ∈ findings index depth document) :
    ∃ range, diagnostic = .ofRule id .warning range message := by
  induction document generalizing index depth with
  | nil => cases reported
  | cons line rest ih =>
    rw [findings] at reported
    rcases List.mem_append.mp reported with here | later
    · obtain ⟨column, -, rfl⟩ := Option.map_eq_some_iff.mp (Option.mem_toList.mp here)
      exact ⟨_, rfl⟩
    · exact ih later

/-- An import line whose name is used nowhere, and the range of what trimming leaves of it. -/
theorem UnusedImport.exists_of_mem_check (reported : diagnostic ∈ check document) :
    ∃ index line name, document[index]? = some line ∧
      Grammar.importedName? (trim line) = some name ∧ isUsed document name = false ∧
      diagnostic = .ofRule id .hint
        (.onLine index (indentation line) (indentation line + (trim line).length))
        s!"{message} '{String.ofList name}'" := by
  obtain ⟨⟨line, index⟩, member, found⟩ := List.mem_filterMap.mp reported
  obtain ⟨name, brought, found⟩ := Option.bind_eq_some_iff.mp found
  dsimp only at found
  split at found
  · cases found
  · next unused =>
    cases found
    exact ⟨index, line, name, List.mem_zipIdx_iff_getElem?.mp member, brought,
      Bool.eq_false_iff.mpr unused, rfl⟩

/-- A type whose name starts with a lowercase letter, or a function whose name starts with an
uppercase one. -/
theorem NamingConvention.message?_eq_some {declaration : Declaration} {message : String}
    (found : message? declaration = some message) :
    ∃ first rest, declaration.name.toList = first :: rest ∧
      (declaration.kind.isTypeLike = true ∧ first.isLower = true ∧
          message = s!"{declaration.kind.label} {uppercaseMessage}" ∨
        declaration.kind = .function ∧ first.isUpper = true ∧
          message = s!"function {lowercaseMessage}") := by
  obtain ⟨first, isFirst, found⟩ := Option.bind_eq_some_iff.mp found
  obtain ⟨rest, named⟩ := List.head?_eq_some_iff.mp isFirst
  refine ⟨first, rest, named, ?_⟩
  split at found
  · next lower =>
    cases found
    rw [Bool.and_eq_true] at lower
    exact .inl ⟨lower.1, lower.2, rfl⟩
  · split at found
    · next upper =>
      cases found
      rw [Bool.and_eq_true, beq_iff_eq] at upper
      exact .inr ⟨upper.1, upper.2, rfl⟩
    · cases found

theorem NamingConvention.exists_of_mem_check (reported : diagnostic ∈ check document) :
    ∃ declaration line message, document[declaration.line]? = some line ∧
      Declaration.ofLine? declaration.line line = some declaration ∧
      message? declaration = some message ∧
      diagnostic = .ofRule id .warning declaration.selection message := by
  obtain ⟨declaration, listed, found⟩ := List.mem_filterMap.mp reported
  obtain ⟨message, said, rfl⟩ := Option.map_eq_some_iff.mp found
  obtain ⟨line, present, read⟩ := Declaration.mem_ofLines_iff.mp listed
  exact ⟨declaration, line, message, present, read, said, rfl⟩

/-- A discouraged text and the place where it stands. -/
theorem DiscouragedPattern.exists_of_mem_check (reported : diagnostic ∈ check document) :
    ∃ index line, ∃ pattern ∈ all, ∃ front back, document[index]? = some line ∧
      line = front ++ pattern.needle.toList ++ back ∧
      diagnostic = pattern.finding index
        ⟨front.length, front.length + pattern.needle.toList.length⟩ := by
  obtain ⟨⟨line, index⟩, member, found⟩ := List.mem_flatMap.mp reported
  obtain ⟨pattern, listed, found⟩ := List.mem_flatMap.mp found
  obtain ⟨span, occurs, rfl⟩ := List.mem_map.mp found
  obtain ⟨front, back, cut, rfl⟩ := exists_of_mem_occurrences occurs
  have present := List.mem_zipIdx_iff_getElem?.mp member
  exact ⟨index, line, pattern, listed, front, back, present, cut, rfl⟩

/-! ## Codes -/

theorem code_of_mem_check {rule : Rule} (listed : rule ∈ Rule.all)
    (reported : diagnostic ∈ rule.check document) : diagnostic.code = some (.text rule.id) := by
  simp only [Rule.all, List.mem_cons, List.not_mem_nil, or_false] at listed
  rcases listed with rfl | rfl | rfl | rfl
  · obtain ⟨range, rfl⟩ := BraceBalance.exists_of_mem_findings reported
    rfl
  · obtain ⟨index, line, name, -, -, -, rfl⟩ := UnusedImport.exists_of_mem_check reported
    rfl
  · obtain ⟨declaration, line, message, -, -, -, rfl⟩ :=
      NamingConvention.exists_of_mem_check reported
    rfl
  · obtain ⟨index, line, pattern, -, front, back, -, -, rfl⟩ :=
      DiscouragedPattern.exists_of_mem_check reported
    rfl

/-- **Findings with the same code are of the same rule.** -/
theorem mem_check_of_code_eq {document' : List Line} {diagnostic' : Diagnostic} {rule : Rule}
    (listed : rule ∈ Rule.all) (reported : diagnostic ∈ rule.check document)
    (reported' : diagnostic' ∈ diagnostics document')
    (same : diagnostic'.code = diagnostic.code) : diagnostic' ∈ rule.check document' := by
  obtain ⟨rule', listed', inRule⟩ := List.mem_flatMap.mp reported'
  rw [code_of_mem_check listed reported, code_of_mem_check listed' inRule] at same
  have sameId : rule'.id = rule.id := by simpa using same
  have distinct : (Rule.all.map Rule.id).Nodup := by decide
  rwa [← List.inj_on_of_nodup_map distinct listed' listed sameId]

end KotlinAssist
