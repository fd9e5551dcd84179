import KotlinAssist.CodeAction
import KotlinAssist.Proofs.Diagnostic.Findings
import KotlinAssist.Proofs.Edit
import KotlinAssist.Proofs.Grammar.Introducer
import KotlinAssist.Proofs.Grammar.Writing
import KotlinAssist.Proofs.Word.Line

/-!
# Quick fixes resolve their findings

The fix for a diagnostic is chosen by its message, and every message leads to the fix of the rule
that reports it.  The edit of a fix replaces exactly the text that was reported, so the edited line
is known up to its end: what stood before, what is written, and what stood behind.  It is read by
the rule again, and nothing is found in the same place:

* an import line is left blank, and a blank line imports nothing;
* a declared name starts with a letter of the other case.  What stands before the name still tells a
  function from a type, so another kind of declaration with another convention is not read there;
* a replacement starts with a character with which no discouraged text starts.

## Main statements

* `UnusedImport.classify?_of_mem_check`, `NamingConvention.classify?_of_mem_check`,
  `DiscouragedPattern.classify?_finding` — the fix is the one of the rule
* `UnusedImport.start_ne_of_removed`, `NamingConvention.start_ne_of_flipped`,
  `DiscouragedPattern.start_ne_of_replaced` — what is found after the fix is found elsewhere
* `quick_fixes_resolve` — both, for every finding
-/

namespace KotlinAssist

open Text

/-! ## The place of a finding -/

/-- The text of a range on one line. -/
theorem textIn?_onLine {document : List Line} {index : Nat} {line front word back : List Char}
    (present : document[index]? = some line) (cut : line = front ++ word ++ back)
    (nonempty : word ≠ []) :
    textIn? document (.onLine index front.length (front.length + word.length)) = some word := by
  have taken : (line.drop front.length).take (front.length + word.length - front.length) =
      word := by
    rw [cut, List.append_assoc, List.drop_left, Nat.add_sub_cancel_left, List.take_left]
  unfold textIn? Range.onLine
  rw [present]
  simp only [Option.bind_eq_bind, Option.bind_some, ↓reduceIte, taken]
  rw [if_neg]
  simpa using nonempty

/-- The line of a replaced text after the edit. -/
theorem prefix_of_replaced {text written : String} {index : Nat}
    {line line' front word back : List Char}
    (present : (lines text)[index]? = some line) (cut : line = front ++ word ++ back)
    (noFeed : '\n' ∉ written.toList)
    (edited : (lines (TextEdit.applyAll
      [⟨.onLine index front.length (front.length + word.length), written⟩] text))[index]? =
        some line') :
    line' <+: front ++ (written.toList ++ back) := by
  have within : front.length + word.length ≤ line.length := by
    rw [cut, List.length_append, List.length_append]
    exact Nat.le_add_right _ _
  have isPrefix := prefix_of_applyAll_onLine present (Nat.le_add_right _ _) within noFeed edited
  have before : line.take front.length = front := by
    rw [cut, List.append_assoc, List.take_left]
  have behind : line.drop (front.length + word.length) = back := by
    rw [cut, ← List.length_append, List.drop_left]
  rwa [before, behind, List.append_assoc] at isPrefix

/-- What stands in the place of a replaced text starts as the text that was written. -/
theorem eq_of_prefix_at {front front' text text' back back' : List Char}
    (isPrefix : front' ++ text' ++ back' <+: front ++ (text ++ back))
    (same : front'.length = front.length) (filled : text ≠ []) (filled' : text' ≠ []) :
    front' = front ∧ text'.head? = text.head? := by
  obtain ⟨rest, whole⟩ := isPrefix
  rw [List.append_assoc, List.append_assoc] at whole
  obtain ⟨fronts, texts⟩ := List.append_inj whole same
  obtain ⟨c, inner, rfl⟩ := List.exists_cons_of_ne_nil filled
  obtain ⟨c', inner', rfl⟩ := List.exists_cons_of_ne_nil filled'
  exact ⟨fronts, congrArg some (List.cons.inj texts).1⟩

/-! ## Messages -/

namespace QuickFix

/-- Whether a message is about neither an import nor a comma. -/
def isOther (message : List Char) : Bool :=
  !UnusedImport.message.toList.isPrefixOf message &&
    !occursIn trailingComma.toList (lower message)

/-- Whether a message says how a name should start. -/
def isAboutCase (message : List Char) : Bool :=
  NamingConvention.uppercaseMessage.toList.isSuffixOf message ||
    NamingConvention.lowercaseMessage.toList.isSuffixOf message

/-- A message that is about neither an import nor a comma is about the case of a name, or else the
replacement decides. -/
theorem classify?_of_isOther (diagnostic : Diagnostic)
    (other : isOther diagnostic.message.toList = true) :
    classify? diagnostic =
      if isAboutCase diagnostic.message.toList then some .fixNamingCase
      else (replacement? diagnostic).map .replaceDiscouraged := by
  rw [isOther, Bool.and_eq_true, Bool.not_eq_true', Bool.not_eq_true'] at other
  unfold classify?
  rw [if_neg (Bool.eq_false_iff.mp other.1), if_neg (Bool.eq_false_iff.mp other.2)]
  rfl

end QuickFix

/-! ## Imports -/

namespace UnusedImport

theorem classify?_of_mem_check {document : List Line} {diagnostic : Diagnostic}
    (reported : diagnostic ∈ check document) :
    QuickFix.classify? diagnostic = some .removeUnusedImport := by
  obtain ⟨index, line, name, -, -, -, rfl⟩ := exists_of_mem_check reported
  have starts : message.toList.isPrefixOf (s!"{message} '{String.ofList name}'").toList = true := by
    rw [List.isPrefixOf_iff_prefix]
    simp only [String.toList_append, List.append_assoc]
    exact List.prefix_append _ _
  unfold QuickFix.classify?
  exact if_pos starts

/-- **A line whose import was removed imports nothing.** -/
theorem start_ne_of_removed {text : String} {diagnostic : Diagnostic}
    (reported : diagnostic ∈ check (lines text)) :
    ∀ diagnostic' ∈ check (lines (TextEdit.applyAll [⟨diagnostic.range, ""⟩] text)),
      diagnostic'.range.start ≠ diagnostic.range.start := by
  obtain ⟨index, line, name, present, -, -, rfl⟩ := exists_of_mem_check reported
  intro diagnostic' left same
  obtain ⟨index', line', name', present', brought, -, rfl⟩ := exists_of_mem_check left
  obtain rfl : index' = index := congrArg Position.line same
  obtain ⟨tail, cut, blank⟩ := exists_trim_cut line
  have isPrefix : line' <+: line.takeWhile isBlank ++ ([] ++ tail) :=
    prefix_of_replaced present cut (List.not_mem_nil) present'
  have allBlank : ∀ c ∈ line', isBlank c = true := by
    intro c member
    rcases List.mem_append.mp (isPrefix.subset member) with before | behind
    · exact List.mem_takeWhile_imp before
    · exact blank c behind
  rw [trim, (trimStart_eq_nil_iff line').mpr allBlank] at brought
  cases brought

end UnusedImport

/-! ## Names -/

namespace NamingConvention

/-- An ASCII letter in the other case. -/
def otherCase (c : Char) : Char :=
  if c.isUpper then c.toLower else c.toUpper

theorem flipFirstCase_cons {c : Char} (letter : c.isAlpha = true) (rest : List Char) :
    flipFirstCase (c :: rest) = otherCase c :: rest := by
  have ascii := toNat_lt_of_isAlpha letter
  rw [flipFirstCase, isUppercase, lowerChar, upperChar, if_pos ascii, if_pos ascii, if_pos ascii,
    otherCase]
  split <;> rfl

/-- The other case of a letter is another one. -/
theorem otherCase_of_isAlpha {c : Char} (letter : c.isAlpha = true) :
    isNamePart (otherCase c) = true ∧ (c.isLower = true → (otherCase c).isLower = false) ∧
      (c.isUpper = true → (otherCase c).isUpper = false) := by
  have table : ∀ code : Fin 0x80, (Char.ofNat code).isAlpha = true →
      isNamePart (otherCase (Char.ofNat code)) = true ∧
        ((Char.ofNat code).isLower = true → (otherCase (Char.ofNat code)).isLower = false) ∧
        ((Char.ofNat code).isUpper = true → (otherCase (Char.ofNat code)).isUpper = false) := by
    decide +kernel
  have inTable := table ⟨c.toNat, toNat_lt_of_isAlpha letter⟩
  rw [Char.ofNat_toNat] at inTable
  exact inTable letter

/-- What is said about a name is about its case. -/
theorem isAboutCase_of_message? {declaration : Declaration} {message : String}
    (said : message? declaration = some message) :
    QuickFix.isOther message.toList = true ∧ QuickFix.isAboutCase message.toList = true := by
  obtain ⟨first, rest, -, ⟨-, -, rfl⟩ | ⟨-, -, rfl⟩⟩ := message?_eq_some said
  · have spelled : (s!"{declaration.kind.label} {uppercaseMessage}").toList =
        declaration.kind.label.toList ++ ' ' :: uppercaseMessage.toList := by
      simp only [String.toList_append, List.append_assoc]
      rfl
    rw [spelled]
    cases declaration.kind <;> decide +kernel
  · decide +kernel

theorem classify?_of_mem_check {document : List Line} {diagnostic : Diagnostic}
    (reported : diagnostic ∈ check document) :
    QuickFix.classify? diagnostic = some .fixNamingCase := by
  obtain ⟨declaration, line, message, -, -, said, rfl⟩ := exists_of_mem_check reported
  obtain ⟨other, aboutCase⟩ := isAboutCase_of_message? said
  rw [QuickFix.classify?_of_isOther (.ofRule id .warning declaration.selection message) other]
  exact if_pos aboutCase

/-- A declared name in the other case is written on one line. -/
theorem feed_notMem_flipFirstCase {first : Char} {rest : List Char} (letter : first.isAlpha = true)
    (named : isName (first :: rest) = true) : '\n' ∉ flipFirstCase (first :: rest) := by
  have feed : isNamePart '\n' = false := by decide
  rw [flipFirstCase_cons letter]
  intro member
  have part : isNamePart '\n' = true := by
    rcases List.mem_cons.mp member with isFirst | later
    · rw [isFirst]
      exact (otherCase_of_isAlpha letter).1
    · exact isNamePart_of_isName named _ (List.mem_cons_of_mem first later)
  rw [feed] at part
  cases part

/-- A declared name that is read where another text was written starts as that text, and what stands
before it was kept. -/
theorem eq_of_declared_at {index : Nat} {line front written back : List Char}
    {declaration : Declaration} (read : Declaration.ofLine? index line = some declaration)
    (isPrefix : line <+: front ++ (written ++ back)) (filled : written ≠ [])
    (place : declaration.selection.start.character = front.length) :
    line.take declaration.selection.start.character = front ∧
      declaration.name.toList.head? = written.head? := by
  obtain ⟨front', back', cut, -, named, selected⟩ := Declaration.exists_cut_of_ofLine? read
  have sameColumn : front'.length = front.length := by
    rw [selected] at place
    exact place
  rw [cut] at isPrefix
  obtain ⟨rfl, heads⟩ :=
    eq_of_prefix_at isPrefix sameColumn filled (ne_nil_of_isName named)
  refine ⟨?_, heads⟩
  rw [place, cut, List.append_assoc, List.take_left]

/-- **A name in the other case breaks no convention.** -/
theorem start_ne_of_flipped {text : String} {diagnostic : Diagnostic}
    (reported : diagnostic ∈ check (lines text)) :
    ∃ name, textIn? (lines text) diagnostic.range = some name ∧
      ∀ diagnostic' ∈ check (lines (TextEdit.applyAll
        [⟨diagnostic.range, String.ofList (flipFirstCase name)⟩] text)),
        diagnostic'.range.start ≠ diagnostic.range.start := by
  obtain ⟨declaration, line, message, present, read, said, rfl⟩ := exists_of_mem_check reported
  obtain ⟨front, back, cut, -, named, selected⟩ := Declaration.exists_cut_of_ofLine? read
  obtain ⟨first, rest, spelled, kinds⟩ := message?_eq_some said
  have letter : first.isAlpha = true := by
    show (first.isUpper || first.isLower) = true
    rw [Bool.or_eq_true]
    exact kinds.elim (fun isType => .inr isType.2.1) (fun isFunction => .inl isFunction.2.1)
  refine ⟨declaration.name.toList, ?_, ?_⟩
  · show textIn? (lines text) declaration.selection = _
    rw [selected]
    exact textIn?_onLine present cut (ne_nil_of_isName named)
  intro diagnostic' left same
  obtain ⟨declaration', line', message', present', read', said', rfl⟩ := exists_of_mem_check left
  obtain ⟨first', rest', spelled', kinds'⟩ := message?_eq_some said'
  have start : declaration.selection.start = ⟨declaration.line, front.length⟩ := by
    rw [selected]
    rfl
  have start' : declaration'.selection.start = ⟨declaration.line, front.length⟩ := same.trans start
  have isPrefix : line' <+: front ++ (flipFirstCase declaration.name.toList ++ back) := by
    have sameLine : declaration'.line = declaration.line := by
      obtain ⟨column, stop, selected', -⟩ := Declaration.selection_of_ofLine? read'
      rw [selected'] at start'
      exact congrArg Position.line start'
    change (lines (TextEdit.applyAll [⟨declaration.selection, _⟩] text))[_]? = _ at present'
    rw [sameLine, selected] at present'
    have replaced := prefix_of_replaced present cut ?_ present'
    · rwa [String.toList_ofList] at replaced
    · rw [String.toList_ofList, spelled]
      rw [spelled] at named
      exact feed_notMem_flipFirstCase letter named
  -- the new name starts with the letter in the other case, behind what stood before the old one
  rw [spelled, flipFirstCase_cons letter] at isPrefix
  obtain ⟨before, heads⟩ := eq_of_declared_at read' isPrefix (List.cons_ne_nil _ _)
    (congrArg Position.character start')
  have kept : line.take declaration.selection.start.character =
      line'.take declaration'.selection.start.character := by
    rw [before, start, cut, List.append_assoc]
    exact List.take_left
  have isFirst : first' = otherCase first := by
    rw [spelled'] at heads
    exact Option.some.inj heads
  obtain ⟨-, lower, upper⟩ := otherCase_of_isAlpha letter
  rw [isFirst] at kinds'
  -- both are types or both are functions, and the convention that was broken is kept
  rcases kinds with ⟨isType, isLower, -⟩ | ⟨isFunction, isUpper, -⟩
  · rcases kinds' with ⟨-, isLower', -⟩ | ⟨isFunction', -, -⟩
    · rw [lower isLower] at isLower'
      cases isLower'
    · exact Declaration.kind_ne_function_of_isTypeLike read read' kept isType isFunction'
  · rcases kinds' with ⟨isType', -, -⟩ | ⟨-, isUpper', -⟩
    · exact Declaration.kind_ne_function_of_isTypeLike read' read kept.symm isType' isFunction
    · rw [upper isUpper] at isUpper'
      cases isUpper'

end NamingConvention

/-! ## Discouraged texts -/

namespace DiscouragedPattern

theorem classify?_finding {pattern : DiscouragedPattern} (listed : pattern ∈ all) (index : Nat)
    (span : Span) :
    QuickFix.classify? (pattern.finding index span) =
      some (.replaceDiscouraged pattern.replacement) := by
  have table : ∀ pattern ∈ all, QuickFix.isOther pattern.message.toList = true ∧
      QuickFix.isAboutCase pattern.message.toList = false := by decide +kernel
  obtain ⟨other, notCase⟩ := table pattern listed
  rw [QuickFix.classify?_of_isOther (pattern.finding index span) other]
  exact if_neg (Bool.eq_false_iff.mp notCase)

/-- **No discouraged text starts where one was replaced.** -/
theorem start_ne_of_replaced {text : String} {diagnostic : Diagnostic}
    (reported : diagnostic ∈ check (lines text)) :
    ∃ pattern ∈ all, textIn? (lines text) diagnostic.range = some pattern.needle.toList ∧
      QuickFix.classify? diagnostic = some (.replaceDiscouraged pattern.replacement) ∧
      ∀ diagnostic' ∈ check (lines (TextEdit.applyAll
        [⟨diagnostic.range, pattern.replacement⟩] text)),
        diagnostic'.range.start ≠ diagnostic.range.start := by
  obtain ⟨index, line, pattern, listed, front, back, present, cut, rfl⟩ :=
    exists_of_mem_check reported
  have filled : ∀ pattern ∈ all, pattern.needle.toList ≠ [] ∧ pattern.replacement.toList ≠ [] := by
    decide
  have plain : ∀ pattern ∈ all, '\n' ∉ pattern.replacement.toList := by decide
  have apart : ∀ pattern ∈ all, ∀ pattern' ∈ all,
      pattern'.needle.toList.head? ≠ pattern.replacement.toList.head? := by decide
  refine ⟨pattern, listed, textIn?_onLine present cut (filled pattern listed).1,
    classify?_finding listed index _, ?_⟩
  intro diagnostic' left same
  obtain ⟨index', line', pattern', listed', front', back', present', cut', rfl⟩ :=
    exists_of_mem_check left
  obtain rfl : index' = index := congrArg Position.line same
  have sameColumn : front'.length = front.length := congrArg Position.character same
  have isPrefix := prefix_of_replaced present cut (plain pattern listed) present'
  rw [cut'] at isPrefix
  obtain ⟨-, heads⟩ := eq_of_prefix_at isPrefix sameColumn (filled pattern listed).2
    (filled pattern' listed').1
  exact apart pattern listed pattern' listed' heads

end DiscouragedPattern

/-! ## Braces -/

/-- For a brace that closes nothing there is no fix. -/
theorem BraceBalance.classify?_of_mem_check {document : List Line} {diagnostic : Diagnostic}
    (reported : diagnostic ∈ check document) : QuickFix.classify? diagnostic = none := by
  obtain ⟨range, rfl⟩ := exists_of_mem_findings reported
  have other : QuickFix.isOther message.toList = true := by decide +kernel
  have notCase : QuickFix.isAboutCase message.toList = false := by decide +kernel
  have noPattern : DiscouragedPattern.all.find? (·.message == message) = none := by decide
  have noReplacement : QuickFix.replacement? (.ofRule id .warning range message) = none := by
    show (DiscouragedPattern.all.find? (·.message == message)).map (·.replacement) = none
    rw [noPattern, Option.map_none]
  rw [QuickFix.classify?_of_isOther (.ofRule id .warning range message) other, noReplacement]
  exact if_neg (Bool.eq_false_iff.mp notCase)

/-! ## All findings -/

/-- The action for a finding makes the one edit of its fix.  If nothing of its rule is found in the
same place after the edit, and its code is that of its rule only, it is resolved. -/
theorem exists_action_of_fix (uri : Uri) {text title : String} {diagnostic : Diagnostic}
    {check : List Line → List Diagnostic} {fix : QuickFix} {edit : TextEdit}
    (sameRule : ∀ document, ∀ diagnostic' ∈ diagnostics document,
      diagnostic'.code = diagnostic.code → diagnostic' ∈ check document)
    (elsewhere : ∀ diagnostic' ∈ check (lines (TextEdit.applyAll [edit] text)),
      diagnostic'.range.start ≠ diagnostic.range.start)
    (classified : QuickFix.classify? diagnostic = some fix)
    (edited : CodeAction.fixEdit? (lines text) diagnostic fix = some (title, edit)) :
    ∃ action edit, CodeAction.ofDiagnostic? uri (lines text) diagnostic = some action ∧
      action.edit = some ⟨[(uri, [edit])]⟩ ∧
      ∀ diagnostic' ∈ diagnostics (lines (TextEdit.applyAll [edit] text)),
        diagnostic'.code = diagnostic.code →
          diagnostic'.range.start ≠ diagnostic.range.start := by
  refine ⟨_, edit, Option.bind_eq_some_iff.mpr
    ⟨fix, classified, Option.bind_eq_some_iff.mpr ⟨(title, edit), edited, rfl⟩⟩, rfl, ?_⟩
  intro diagnostic' found same
  exact elsewhere diagnostic' (sameRule _ diagnostic' found same)

/-- A finding is about a brace, or there is an action that resolves it. -/
theorem mem_check_or_exists_action (uri : Uri) {text : String} {diagnostic : Diagnostic}
    (reported : diagnostic ∈ diagnostics (lines text)) :
    diagnostic ∈ BraceBalance.check (lines text) ∨
    ∃ action edit, CodeAction.ofDiagnostic? uri (lines text) diagnostic = some action ∧
      action.edit = some ⟨[(uri, [edit])]⟩ ∧
      ∀ diagnostic' ∈ diagnostics (lines (TextEdit.applyAll [edit] text)),
        diagnostic'.code = diagnostic.code →
          diagnostic'.range.start ≠ diagnostic.range.start := by
  obtain ⟨rule, listed, inRule⟩ := List.mem_flatMap.mp reported
  have sameRule : ∀ document, ∀ diagnostic' ∈ diagnostics document,
      diagnostic'.code = diagnostic.code → diagnostic' ∈ rule.check document := by
    intro document diagnostic' found same
    exact mem_check_of_code_eq listed inRule found same
  simp only [Rule.all, List.mem_cons, List.not_mem_nil, or_false] at listed
  rcases listed with rfl | rfl | rfl | rfl <;> dsimp only at inRule sameRule
  · exact .inl inRule
  · right
    exact exists_action_of_fix uri sameRule (UnusedImport.start_ne_of_removed inRule)
      (UnusedImport.classify?_of_mem_check inRule) rfl
  · right
    obtain ⟨name, named, elsewhere⟩ := NamingConvention.start_ne_of_flipped inRule
    apply exists_action_of_fix uri sameRule elsewhere
      (NamingConvention.classify?_of_mem_check inRule)
    show (textIn? (lines text) diagnostic.range).map _ = _
    rw [named, Option.map_some]
  · right
    obtain ⟨pattern, -, -, classified, elsewhere⟩ := DiscouragedPattern.start_ne_of_replaced inRule
    exact exists_action_of_fix uri sameRule elsewhere classified rfl

/-- **Every quick fix is the fix of its rule and resolves its finding.**  There is no action exactly
for the findings about braces.  Every other finding leads to the fix of its rule, with the
replacement of the discouraged text that stands in its range; and after the one edit of the action,
nothing with the same code is found in the same place. -/
theorem quick_fixes_resolve (uri : Uri) (text : String) (diagnostic : Diagnostic)
    (reported : diagnostic ∈ diagnostics (lines text)) :
    (CodeAction.ofDiagnostic? uri (lines text) diagnostic = none ↔
      diagnostic ∈ BraceBalance.check (lines text)) ∧
    (diagnostic ∈ UnusedImport.check (lines text) →
      QuickFix.classify? diagnostic = some .removeUnusedImport) ∧
    (diagnostic ∈ NamingConvention.check (lines text) →
      QuickFix.classify? diagnostic = some .fixNamingCase) ∧
    (diagnostic ∈ DiscouragedPattern.check (lines text) →
      ∃ pattern ∈ DiscouragedPattern.all,
        textIn? (lines text) diagnostic.range = some pattern.needle.toList ∧
        QuickFix.classify? diagnostic = some (.replaceDiscouraged pattern.replacement)) ∧
    ∀ action, CodeAction.ofDiagnostic? uri (lines text) diagnostic = some action →
      ∃ edit, action.edit = some ⟨[(uri, [edit])]⟩ ∧
        ∀ diagnostic' ∈ diagnostics (lines (TextEdit.applyAll [edit] text)),
          diagnostic'.code = diagnostic.code →
            diagnostic'.range.start ≠ diagnostic.range.start := by
  have noFix : diagnostic ∈ BraceBalance.check (lines text) →
      CodeAction.ofDiagnostic? uri (lines text) diagnostic = none := by
    intro aboutBrace
    rw [CodeAction.ofDiagnostic?, BraceBalance.classify?_of_mem_check aboutBrace]
    rfl
  have cases := mem_check_or_exists_action uri reported
  refine ⟨⟨?_, noFix⟩, UnusedImport.classify?_of_mem_check, NamingConvention.classify?_of_mem_check,
    ?_, ?_⟩
  · intro missing
    rcases cases with aboutBrace | ⟨action, edit, found, -⟩
    · exact aboutBrace
    · cases missing.symm.trans found
  · intro inRule
    obtain ⟨pattern, listed, stands, classified, -⟩ :=
      DiscouragedPattern.start_ne_of_replaced inRule
    exact ⟨pattern, listed, stands, classified⟩
  · intro action found
    rcases cases with aboutBrace | ⟨action', edit, found', made, elsewhere⟩
    · cases (noFix aboutBrace).symm.trans found
    · cases found'.symm.trans found
      exact ⟨edit, made, elsewhere⟩

/-- The name of a functional interface: behind `fun` it is still the name of a type, and its fix
gives it an uppercase letter. -/
theorem quick_fixes_resolve_functional_interface :
    let text := "fun interface shape"
    let diagnostic := Diagnostic.ofRule NamingConvention.id .warning (.onLine 0 14 19)
      "interface name should start with uppercase"
    diagnostic ∈ diagnostics (lines text) ∧
    QuickFix.classify? diagnostic = some .fixNamingCase ∧
    ∃ action edit, CodeAction.ofDiagnostic? "file:///a.kt" (lines text) diagnostic = some action ∧
      action.edit = some ⟨[("file:///a.kt", [edit])]⟩ ∧
      ∀ diagnostic' ∈ diagnostics (lines (TextEdit.applyAll [edit] text)),
        diagnostic'.code = diagnostic.code → diagnostic'.range.start ≠ ⟨0, 14⟩ := by
  intro text diagnostic
  have inRule : diagnostic ∈ NamingConvention.check (lines text) := by
    have declared : Declaration.ofLines (lines text) =
        [⟨"shape", .interface, 0, .onLine 0 0 19, .onLine 0 14 19, [], "fun interface shape", none,
          none, false⟩] := by decide +kernel
    have only : NamingConvention.check (lines text) = [diagnostic] := by
      rw [NamingConvention.check, declared]
      rfl
    rw [only]
    exact List.mem_singleton_self _
  have reported : diagnostic ∈ diagnostics (lines text) :=
    List.mem_flatMap.mpr ⟨_, .tail _ (.tail _ (.head _)), inRule⟩
  have resolves := quick_fixes_resolve "file:///a.kt" text diagnostic reported
  have notBrace : CodeAction.ofDiagnostic? "file:///a.kt" (lines text) diagnostic ≠ none := by
    intro missing
    obtain ⟨range, same⟩ := BraceBalance.exists_of_mem_findings (resolves.1.mp missing)
    have sameCode : some (DiagnosticCode.text NamingConvention.id) = some (.text BraceBalance.id) :=
      congrArg Diagnostic.code same
    exact absurd sameCode (by decide)
  obtain ⟨action, found⟩ := Option.ne_none_iff_exists'.mp notBrace
  obtain ⟨edit, made, elsewhere⟩ := resolves.2.2.2.2 action found
  exact ⟨reported, resolves.2.2.1 inRule, action, edit, found, made, elsewhere⟩

end KotlinAssist
