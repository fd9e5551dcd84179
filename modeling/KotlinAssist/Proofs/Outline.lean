import KotlinAssist.Proofs.Encoding.Columns
import KotlinAssist.Proofs.Grammar.Reading
import KotlinAssist.Proofs.Word.Line
import KotlinAssist.Symbol

/-!
# The outline points at the declared names

A line is read as one declaration at most, and the lines are read in order, so the declarations of a
document stand on lines that go up.  The columns of a declared name are the lengths of the pieces
that were read before it, counted behind the blanks at the start of the line: the range of the name
covers the name, whatever the pieces hold.

## Main statements

* `Declaration.pairwise_ofLines` — declarations are listed line by line
* `Declaration.selection_spells` — the range of a declared name covers it
* `DocumentSymbol.outline_points_at_names` — the entries of an outline
-/

namespace KotlinAssist

open Text

namespace Declaration

theorem pairwise_ofLines (document : List Line) :
    (ofLines document).Pairwise fun left right => left.line < right.line := by
  refine (pairwise_zipIdx document).filterMap _ ?_
  rintro ⟨line, index⟩ ⟨line', index'⟩ earlier left found right found'
  rw [line_of_ofLine? found, line_of_ofLine? found']
  exact earlier

theorem range_of_ofLine? {index : Nat} {line : Line} {declaration : Declaration}
    (found : ofLine? index line = some declaration) :
    declaration.range = .wholeLine index line := by
  rcases ofLine?_cases found with ⟨head, -, rfl⟩ | ⟨head, -, rfl⟩ | ⟨head, -, rfl⟩ |
    ⟨head, -, rfl⟩ | ⟨head, -, rfl⟩ <;> rfl

/-- **The range of a declared name covers the name.** -/
theorem selection_spells {document : List Line} {index : Nat} {line : Line}
    {declaration : Declaration} (present : document[index]? = some line)
    (found : ofLine? index line = some declaration) :
    declaration.selection.Spells document declaration.name.toList ∧
      declaration.selection.start.line = index := by
  obtain ⟨front, back, cut, -, named, selected⟩ := exists_cut_of_ofLine? found
  rw [selected]
  exact ⟨spells_onLine present cut (ne_nil_of_isName named), rfl⟩

end Declaration

namespace DocumentSymbol

theorem mem_outline_iff {document : List Line} {symbol : DocumentSymbol} :
    symbol ∈ outline document ↔
      ∃ index line declaration, document[index]? = some line ∧
        Declaration.ofLine? index line = some declaration ∧ symbol = ofDeclaration declaration := by
  rw [outline, List.mem_map]
  constructor
  · rintro ⟨declaration, listed, rfl⟩
    obtain ⟨line, present, found⟩ := Declaration.mem_ofLines_iff.mp listed
    exact ⟨declaration.line, line, declaration, present, found, rfl⟩
  · rintro ⟨index, line, declaration, present, found, rfl⟩
    refine ⟨declaration, Declaration.mem_ofLines_iff.mpr ⟨line, ?_, ?_⟩, rfl⟩
    · rw [Declaration.line_of_ofLine? found]
      exact present
    · rw [Declaration.line_of_ofLine? found]
      exact found

/-- **The outline points at the declared names.**  Its entries stand on lines that go up, one for
each line that declares something and none for another line.  The range of an entry is its whole
line, and its selection is a range of that line that is not empty and covers the name; and the name
is one. -/
theorem outline_points_at_names (text : String) :
    (outline (lines text)).Pairwise (fun left right =>
      left.range.start.line < right.range.start.line) ∧
    (∀ symbol ∈ outline (lines text), ∃ index line, (lines text)[index]? = some line ∧
      symbol.range = .onLine index 0 line.length ∧ symbol.selection.start.line = index ∧
      symbol.selection.Spells (lines text) symbol.name.toList ∧
      isName symbol.name.toList = true) ∧
    ∀ index line, (lines text)[index]? = some line →
      ((∃ symbol ∈ outline (lines text), symbol.range.start.line = index) ↔
        (Declaration.ofLine? index line).isSome = true) := by
  refine ⟨?_, ?_, ?_⟩
  · refine List.pairwise_map.mpr ((Declaration.pairwise_ofLines (lines text)).imp_of_mem ?_)
    intro left right listedLeft listedRight earlier
    obtain ⟨_, -, foundLeft⟩ := Declaration.mem_ofLines_iff.mp listedLeft
    obtain ⟨_, -, foundRight⟩ := Declaration.mem_ofLines_iff.mp listedRight
    show left.range.start.line < right.range.start.line
    rw [Declaration.range_of_ofLine? foundLeft, Declaration.range_of_ofLine? foundRight]
    exact earlier
  · intro symbol listed
    obtain ⟨index, line, declaration, present, found, rfl⟩ := mem_outline_iff.mp listed
    obtain ⟨spells, onLine⟩ := Declaration.selection_spells present found
    obtain ⟨-, -, -, -, named, -⟩ := Declaration.exists_cut_of_ofLine? found
    exact ⟨index, line, present, Declaration.range_of_ofLine? found, onLine, spells, named⟩
  · intro index line present
    rw [Option.isSome_iff_exists]
    constructor
    · rintro ⟨symbol, listed, onLine⟩
      obtain ⟨index', line', declaration, present', found, rfl⟩ := mem_outline_iff.mp listed
      change declaration.range.start.line = index at onLine
      rw [Declaration.range_of_ofLine? found] at onLine
      obtain rfl : index' = index := onLine
      cases present.symm.trans present'
      exact ⟨declaration, found⟩
    · rintro ⟨declaration, found⟩
      refine ⟨ofDeclaration declaration,
        mem_outline_iff.mpr ⟨index, line, declaration, present, found, rfl⟩, ?_⟩
      show declaration.range.start.line = index
      rw [Declaration.range_of_ofLine? found]
      rfl

/-- A line with characters of several bytes before the name, behind a line that declares nothing. -/
theorem outline_points_at_names_astral :
    let text := "\x7d\n\u3000@A(\"é😀\") fun <T> List<T>.f() = 1"
    ∃ symbol ∈ outline (lines text), symbol.range.start.line = 1 ∧
      symbol.selection.Spells (lines text) symbol.name.toList := by
  intro text
  obtain ⟨-, points, listed⟩ := outline_points_at_names text
  have present : (lines text)[1]? = some "\u3000@A(\"é😀\") fun <T> List<T>.f() = 1".toList := by
    decide
  have declares : (Declaration.ofLine? 1 "\u3000@A(\"é😀\") fun <T> List<T>.f() = 1".toList).isSome =
      true := by decide +kernel
  obtain ⟨symbol, member, onLine⟩ := (listed 1 _ present).mpr declares
  obtain ⟨-, -, -, -, -, spells, -⟩ := points symbol member
  exact ⟨symbol, member, onLine, spells⟩

end DocumentSymbol

end KotlinAssist
