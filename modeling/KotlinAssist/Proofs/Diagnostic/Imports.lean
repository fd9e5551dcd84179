import KotlinAssist.Proofs.Grammar.Import
import KotlinAssist.Proofs.QuickFix
import KotlinAssist.Proofs.Word.Name

/-!
# Imports that nothing uses

An import ends with the name that it brings into scope, and the rule reports the import if no other
line has that name as a word.  The name is read as far as ASCII letters, digits and underscores go,
so it is the start of the word that the import ends in; and the two differ when the word has letters
of another script.  Then the rule looks for a name that is not that word, and an import can be
reported although its word is used.

So the rule judges an import by its word exactly if the word is a name.  One direction holds because
the name is then the whole word.  For the other, the document of the import and a line with nothing
but the word uses the word, and does not use the name.

## Main definitions

* `UnusedImport.Uses` — a word that stands on a line that is no import
* `UnusedImport.BringsIn` — the word that an import ends in
* `UnusedImport.Reports` — a line that the rule reports
* `UnusedImport.OffersRemoval` — a line that is offered for removal

## Main statements

* `UnusedImport.uses_iff_cursor` — a word is used where the cursor finds it
* `UnusedImport.reports_iff` — an import is reported if its name is not used
* `UnusedImport.offersRemoval_iff` — what is offered for removal
* `UnusedImport.judged_by_word_iff` — when an import is judged by the word that it brings in
-/

namespace KotlinAssist.UnusedImport

open Text

/-! ## Uses of a word -/

/-- A word of a document is used: it stands on a line that is no import. -/
def Uses (document : List Line) (word : List Char) : Prop :=
  ∃ line ∈ document, isImportLine line = false ∧ ∃ front back, CutsWord line front word back

/-- **A word is used exactly if the cursor finds it on a line that is no import.** -/
theorem uses_iff_cursor {document : List Line} {word : List Char} :
    Uses document word ↔
      ∃ position line found, document[position.line]? = some line ∧ isImportLine line = false ∧
        wordAtPosition? document position = some found ∧ found.text.toList = word := by
  constructor
  · rintro ⟨line, member, other, front, back, cut⟩
    obtain ⟨index, present⟩ := List.mem_iff_getElem?.mp member
    have here := cut.wordAt?_eq (Nat.le_refl _) (Nat.le_add_right _ _)
    exact ⟨⟨index, front.length⟩, line, _, present, other,
      wordAtPosition?_eq_some_iff.mpr ⟨line, present, here⟩, String.toList_ofList⟩
  · rintro ⟨position, line, found, present, other, here, rfl⟩
    obtain ⟨line', present', here⟩ := wordAtPosition?_eq_some_iff.mp here
    obtain rfl : line = line' := Option.some.inj (present.symm.trans present')
    obtain ⟨front, back, cut, -⟩ := wordAt?_eq_some_iff.mp here
    exact ⟨line, List.mem_of_getElem? present, other, front, back, cut⟩

/-- The search of the rule finds the uses of a word. -/
theorem isUsed_iff {document : List Line} {word : List Char} (isWord : IsWord word) :
    isUsed document word = true ↔ Uses document word := by
  simp only [isUsed, List.any_eq_true, Bool.and_eq_true, Bool.not_eq_true',
    List.isEmpty_eq_false_iff_exists_mem, mem_wordSpans_iff isWord]
  constructor
  · rintro ⟨line, member, other, -, front, back, cut, -⟩
    exact ⟨line, member, other, front, back, cut⟩
  · rintro ⟨line, member, other, front, back, cut⟩
    exact ⟨line, member, other, _, front, back, cut, rfl⟩

/-! ## The word of an import -/

/-- An import ends in a word of its line: the word has the last character of the import in it. -/
def BringsIn (line : Line) (head : Grammar.ImportHead) (word : List Char) : Prop :=
  ∃ front back, CutsWord line front word back ∧
    front.length < indentation line + head.matched.length ∧
    indentation line + head.matched.length ≤ front.length + word.length

/-- An import ends in one word. -/
theorem BringsIn.unique {line : Line} {head : Grammar.ImportHead} {word word' : List Char}
    (brings : BringsIn line head word) (brings' : BringsIn line head word') : word' = word := by
  obtain ⟨front, back, cut, starts, ends⟩ := brings
  obtain ⟨front', back', cut', starts', ends'⟩ := brings'
  exact cut.unique cut' (Nat.le_of_lt starts) ends (Nat.le_of_lt starts') ends'

/-- A line is cut around the name that its import ends with. -/
theorem exists_cutsName {line : Line} {head : Grammar.ImportHead} {name : List Char}
    (read : Grammar.importHead? (trim line) = some head) (brought : head.simpleName? = some name) :
    ∃ front back, CutsName line front name back ∧
      front.length + name.length = indentation line + head.matched.length := by
  obtain ⟨front, after, text, matched, parts, named, ends⟩ :=
    Grammar.exists_cut_of_importHead? read brought
  obtain ⟨tail, whole, blank⟩ := exists_trim_cut line
  obtain ⟨inner, c, ending, apart⟩ := parts.append (line.takeWhile isBlank)
  refine ⟨line.takeWhile isBlank ++ front, after ++ tail, ⟨?_, named, ?_, ?_⟩, ?_⟩
  · rw [text] at whole
    simpa only [List.append_assoc] using whole
  · rw [ending, List.getLast?_concat]
    exact apart
  · rw [head?_append_blanks blank fun _ => isNamePart_of_isBlank]
    exact ends
  · rw [matched, indentation, List.length_append, List.length_append, Nat.add_assoc]

/-- The word that starts with the name of an import is the word that the import ends in. -/
theorem bringsIn_of_cutsName {line front name back : List Char} {head : Grammar.ImportHead}
    (cut : CutsName line front name back)
    (placed : front.length + name.length = indentation line + head.matched.length) :
    BringsIn line head (name ++ back.takeWhile isIdentifierChar) := by
  have nonempty := List.length_pos_of_ne_nil (ne_nil_of_isName cut.named)
  refine ⟨front, back.dropWhile isIdentifierChar, cut.cutsWord, ?_, ?_⟩
  · omega
  · rw [List.length_append]
    omega

/-! ## Reports -/

/-- The rule reports a line of a document. -/
def Reports (document : List Line) (index : Nat) : Prop :=
  ∃ finding ∈ check document, finding.range.start.line = index

/-- **An import is reported exactly if the name that it ends with is not used.** -/
theorem reports_iff {document : List Line} {index : Nat} {line : Line} {name : List Char}
    (present : document[index]? = some line) (named : isName name = true)
    (brought : Grammar.importedName? (trim line) = some name) :
    Reports document index ↔ ¬ Uses document name := by
  rw [← isUsed_iff (isWord_of_isName named), Bool.not_eq_true]
  constructor
  · rintro ⟨finding, reported, onLine⟩
    obtain ⟨index', line', name', present', brought', unused, rfl⟩ := exists_of_mem_check reported
    obtain rfl : index' = index := onLine
    obtain rfl : line = line' := Option.some.inj (present.symm.trans present')
    obtain rfl : name = name' := Option.some.inj (brought.symm.trans brought')
    exact unused
  · intro unused
    have found : finding? document index line = some (.ofRule id .hint
        (.onLine index (indentation line) (indentation line + (trim line).length))
        s!"{message} '{String.ofList name}'") := by
      simp only [finding?, brought, Option.bind_eq_bind, Option.bind_some, unused]
      rfl
    have listed : (line, index) ∈ document.zipIdx := List.mem_zipIdx_iff_getElem?.mpr present
    exact ⟨_, List.mem_filterMap.mpr ⟨(line, index), listed, found⟩, rfl⟩

/-- A finding on a line of a document leads to the fix that removes an import. -/
def OffersRemoval (document : List Line) (index : Nat) : Prop :=
  ∃ finding ∈ diagnostics document, finding.range.start.line = index ∧
    QuickFix.classify? finding = some .removeUnusedImport

/-- **What is offered for removal is what the rule reports.** -/
theorem offersRemoval_iff {document : List Line} {index : Nat} :
    OffersRemoval document index ↔ Reports document index := by
  constructor
  · rintro ⟨finding, found, onLine, removed⟩
    refine ⟨finding, ?_, onLine⟩
    obtain ⟨rule, listed, inRule⟩ := List.mem_flatMap.mp found
    simp only [Rule.all, List.mem_cons, List.not_mem_nil, or_false] at listed
    rcases listed with rfl | rfl | rfl | rfl
    · rw [BraceBalance.classify?_of_mem_check inRule] at removed
      cases removed
    · exact inRule
    · rw [NamingConvention.classify?_of_mem_check inRule] at removed
      cases removed
    · obtain ⟨_, _, pattern, isPattern, _, _, -, -, rfl⟩ :=
        DiscouragedPattern.exists_of_mem_check inRule
      rw [DiscouragedPattern.classify?_finding isPattern] at removed
      cases removed
  · rintro ⟨finding, reported, onLine⟩
    refine ⟨finding, ?_, onLine, classify?_of_mem_check reported⟩
    exact List.mem_flatMap.mpr ⟨Rule.all[1], List.getElem_mem _, reported⟩

/-! ## A word on a line of its own -/

/-- A line with nothing but a word is no import: there is no blank behind the first word. -/
theorem isImportLine_of_isWord {word : List Char} (isWord : IsWord word) :
    isImportLine word = false := by
  by_contra isImport
  rw [Bool.not_eq_false] at isImport
  obtain ⟨head, read⟩ := Option.isSome_iff_exists.mp isImport
  obtain ⟨rest, -, introduced, -⟩ := Grammar.importHead?_eq_some read
  obtain ⟨blank, after, isBlank_blank, whole⟩ := Grammar.exists_blank_of_spacedWord? introduced
  have member : blank ∈ trim word := by
    rw [whole]
    exact List.mem_append_right _ List.mem_cons_self
  have identifier := isWord.identifier blank (mem_of_mem_trim member)
  rw [isIdentifierChar_of_isBlank isBlank_blank] at identifier
  contradiction

/-- A line with nothing but a word has no other word. -/
theorem eq_of_cutsWord_isWord {word front word' back : List Char} (isWord : IsWord word)
    (cut : CutsWord word front word' back) : word' = word := by
  have whole : CutsWord word [] word [] := ⟨isWord, (List.append_nil word).symm, rfl, rfl⟩
  have inside : front.length ≤ word.length := by
    have length := congrArg List.length cut.whole
    simp only [List.length_append] at length
    omega
  refine whole.unique cut (Nat.zero_le _) ?_ (Nat.le_refl _) (Nat.le_add_right _ _)
  rw [List.length_nil, Nat.zero_add]
  exact inside

/-- Behind an import, a word on a line of its own is the only word that is used. -/
theorem uses_pair_iff {line word word' : List Char} (isImport : isImportLine line = true)
    (isWord : IsWord word) : Uses [line, word] word' ↔ word' = word := by
  constructor
  · rintro ⟨line', member, other, front, back, cut⟩
    rcases List.mem_pair.mp member with rfl | rfl
    · rw [isImport] at other
      contradiction
    · exact eq_of_cutsWord_isWord isWord cut
  · rintro rfl
    refine ⟨word', List.mem_pair.mpr (.inr rfl), isImportLine_of_isWord isWord, [], [], ?_⟩
    exact ⟨isWord, (List.append_nil word').symm, rfl, rfl⟩

/-- A line and a word as a text of two lines. -/
theorem lines_pair {line word : List Char} (noFeed : '\n' ∉ line) (isWord : IsWord word) :
    lines (String.ofList (line ++ ['\r'] ++ '\n' :: word)) = [line, word] := by
  have noFeed' : '\n' ∉ word := by
    intro feed
    exact absurd (isWord.identifier _ feed) (by decide)
  have noFeed : '\n' ∉ line ++ ['\r'] := by simpa using noFeed
  rw [lines, String.toList_ofList, splitLines_append_feed noFeed, dropReturn_concat_return,
    splitLines_of_no_feed noFeed', if_neg isWord.nonempty]

/-- **When an import is judged by the word that it brings in.**  An import that brings in a single
name ends in one word.  It is reported if no line that is no import has the word as far as it goes
with characters of names.  So it is reported exactly if the word is not used, whatever the document,
if and only if the word is a name.  What is offered for removal is what is reported, and a word is
used where the cursor finds it. -/
theorem judged_by_word_iff {text : String} {index : Nat} {line : Line} {head : Grammar.ImportHead}
    (present : (lines text)[index]? = some line)
    (read : Grammar.importHead? (trim line) = some head)
    (single : head.newName = none → ¬ ".*".toList <:+ head.path) :
    ∃ word, BringsIn line head word ∧ (∀ other, BringsIn line head other → other = word) ∧
      (Reports (lines text) index ↔ ¬ Uses (lines text) (word.takeWhile isNamePart)) ∧
      (isName word = true ↔ ∀ text' index', (lines text')[index']? = some line →
        (Reports (lines text') index' ↔ ¬ Uses (lines text') word)) ∧
      (OffersRemoval (lines text) index ↔ Reports (lines text) index) ∧
      (Uses (lines text) word ↔ ∃ position line found, (lines text)[position.line]? = some line ∧
        isImportLine line = false ∧ wordAtPosition? (lines text) position = some found ∧
        found.text.toList = word) := by
  obtain ⟨name, brought⟩ :=
    Option.isSome_iff_exists.mp ((Grammar.simpleName?_isSome_iff head).mpr single)
  obtain ⟨front, back, cut, placed⟩ := exists_cutsName read brought
  have brings := bringsIn_of_cutsName cut placed
  have imported : Grammar.importedName? (trim line) = some name := by
    rw [Grammar.importedName?, read]
    exact brought
  have isImport : isImportLine line = true := Option.isSome_iff_exists.mpr ⟨head, read⟩
  generalize isWhole : name ++ back.takeWhile isIdentifierChar = word at brings
  have isStart : word.takeWhile isNamePart = name := by
    rw [← isWhole, cut.takeWhile_word]
  have isWord : IsWord word := by
    rw [← isWhole]
    exact cut.cutsWord.toIsWord
  have judged {text : String} {index : Nat} (present : (lines text)[index]? = some line) :=
    reports_iff present cut.named imported
  refine ⟨word, brings, fun other => brings.unique, ?_, ⟨?_, ?_⟩, offersRemoval_iff,
    uses_iff_cursor⟩
  · rw [isStart]
    exact judged present
  · intro known text' index' present'
    rw [← List.takeWhile_eq_self_iff.mpr (isNamePart_of_isName known), isStart]
    exact judged present'
  · intro every
    -- the word is used behind the import, so the import is not reported and the name is used too
    have noFeed : '\n' ∉ line := feed_not_mem_of_mem_splitLines (List.mem_of_getElem? present)
    have pair := lines_pair noFeed isWord
    have first : (lines (String.ofList (line ++ ['\r'] ++ '\n' :: word)))[0]? = some line := by
      rw [pair]
      rfl
    have same := (judged first).symm.trans (every _ 0 first)
    rw [pair, uses_pair_iff isImport isWord, uses_pair_iff isImport isWord] at same
    have isName_eq : name = word := by
      by_contra apart
      exact same.mp apart rfl
    rw [← isName_eq]
    exact cut.named

/-- An import under another name, which is used behind letters of another script. -/
theorem judged_by_word_iff_renamed :
    ¬ OffersRemoval (lines "  import a.B as C\nval é = C(1)") 0 := by
  have present : (lines "  import a.B as C\nval é = C(1)")[0]? =
      some "  import a.B as C".toList := by decide +kernel
  have read : Grammar.importHead? (trim "  import a.B as C".toList) =
      some ⟨"import ".toList, "a.B".toList, some (" as ".toList, ['C'])⟩ := by decide +kernel
  obtain ⟨word, -, only, -, judged, offered, -⟩ :=
    judged_by_word_iff present read fun isOld => absurd isOld (Option.some_ne_none _)
  have brings : BringsIn "  import a.B as C".toList
      ⟨"import ".toList, "a.B".toList, some (" as ".toList, ['C'])⟩ ['C'] :=
    ⟨"  import a.B as ".toList, [], ⟨isWord_of_isName (by decide), by decide, by decide, rfl⟩,
      by decide, by decide⟩
  have used : Uses (lines "  import a.B as C\nval é = C(1)") ['C'] :=
    ⟨"val é = C(1)".toList, by decide, by decide +kernel, "val é = ".toList, "(1)".toList,
      ⟨isWord_of_isName (by decide), by decide, by decide, by decide⟩⟩
  rw [← only _ brings] at judged
  rw [offered, judged.mp (by decide) _ 0 present, not_not]
  exact used

/-- An import that is reported although the next line has the word that it brings in: the name is
cut before the last letter. -/
theorem used_import_reported :
    Grammar.importHead? (trim "import a.Café".toList) =
      some ⟨"import ".toList, "a.Caf".toList, none⟩ ∧
    BringsIn "import a.Café".toList ⟨"import ".toList, "a.Caf".toList, none⟩ "Café".toList ∧
    Uses (lines "import a.Café\nval c: Café = 1\n") "Café".toList ∧
    Reports (lines "import a.Café\nval c: Café = 1\n") 0 := by
  have isWord : IsWord "Café".toList := ⟨by decide, List.all_eq_true.mp (by decide)⟩
  refine ⟨by decide +kernel, ?_, ?_, ?_⟩
  · exact ⟨"import a.".toList, [], ⟨isWord, by decide, by decide, rfl⟩, by decide,
      by decide⟩
  · exact ⟨"val c: Café = 1".toList, by decide, by decide +kernel, "val c: ".toList, " = 1".toList,
      ⟨isWord, by decide, by decide, by decide⟩⟩
  · have reported : (check (lines "import a.Café\nval c: Café = 1\n")).map
        (·.range.start.line) = [0] := by decide +kernel
    have first : 0 ∈ (check (lines "import a.Café\nval c: Café = 1\n")).map
        (·.range.start.line) := by
      rw [reported]
      exact List.mem_singleton_self 0
    exact List.mem_map.mp first

end KotlinAssist.UnusedImport
