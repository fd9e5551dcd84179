import KotlinAssist.Proofs.Highlight.Differences

/-!
# What a client sees of the tokens

A client gets the tokens of a document as differences, in its own columns.  Adding them up, it finds
every token that was found in the document, at the same characters; of the tokens on the lines of a
range it finds those that it finds on these lines of the whole document.  In a document of fewer
than 2^32 code units no number on the way leaves 32 bits: the sums are the places of tokens, and a
token ends on its line.

## Main definitions

* `Token.InUnits` — a token in code units that covers the characters of another

## Main statements

* `Token.exists_line_of_mem_ofLines` — a token ends on its line
* `Token.placedBelow_convert` — its place fits on the wire in either unit
* `Token.streams_faithful` — what a client decodes
-/

namespace KotlinAssist

open Text

/-! ## Code units of a piece of a line -/

/-- The code units between two columns are those of the characters between them. -/
theorem unitOfChar_add {line : List Char} {start length : Nat}
    (inside : start + length ≤ line.length) :
    unitOfChar line (start + length) =
      unitOfChar line start + units ((line.drop start).take length) := by
  rw [unitOfChar_eq_units_take inside, unitOfChar_eq_units_take (by omega), List.take_add,
    units_append]

/-- A text has no more lines than characters. -/
theorem length_splitLines_le (text : List Char) : (splitLines text).length ≤ text.length := by
  have bound : (text.foldr lineStep ([], false)).1.length ≤ text.length := by
    induction text with
    | nil => exact Nat.le_refl 0
    | cons c rest ih =>
      rw [List.foldr_cons, List.length_cons, lineStep]
      generalize rest.foldr lineStep ([], false) = state at ih ⊢
      obtain ⟨lines, afterFeed⟩ := state
      split
      · exact Nat.succ_le_succ ih
      · split
        · exact Nat.le_succ_of_le ih
        · cases lines with
          | nil => exact Nat.succ_le_succ (Nat.zero_le _)
          | cons line lines => exact Nat.le_succ_of_le ih
  exact bound

namespace Token

/-! ## Tokens on the lines of a document -/

/-- A token of a document ends on its line. -/
theorem exists_line_of_mem_ofLines {document : List Line} {token : Token}
    (member : token ∈ ofLines document) :
    ∃ line, document[token.line]? = some line ∧ token.stop ≤ line.length := by
  obtain ⟨-, line, before, present, read⟩ := exists_line_of_mem_startingAt member
  exact ⟨line, present, stop_le_of_mem_ofLine read⟩

/-- The same token in code units: it starts after as many code units as the characters before the
token have, and is as long as the characters of the token. -/
structure InUnits (content : Line) (chars sent : Token) : Prop where
  line : sent.line = chars.line
  type : sent.type = chars.type
  modifiers : sent.modifiers = chars.modifiers
  start : sent.start = units (content.take chars.start)
  length : sent.length = units ((content.drop chars.start).take chars.length)

/-- Conversion to code units keeps the characters of a token. -/
theorem inUnits_convert {document : List Line} {line : Line} {token : Token}
    (present : document[token.line]? = some line) (inside : token.stop ≤ line.length) :
    InUnits line token (token.convert .utf16 document) where
  line := rfl
  type := rfl
  modifiers := rfl
  start := by
    have before : token.start ≤ line.length := Nat.le_trans (Nat.le_add_right _ _) inside
    rw [← unitOfChar_eq_units_take before]
    simp only [convert, present, Option.getD_some]
  length := by
    have whole := unitOfChar_add inside
    simp only [convert, present, Option.getD_some, stop] at whole ⊢
    omega

/-! ## Places on the wire -/

/-- In a document of fewer than 2^32 code units every token ends within 32 bits, in either unit. -/
theorem stop_convert_lt {text : String} (short : units text.toList < Encoding.columnLimit)
    (encoding : Encoding) {token : Token} (member : token ∈ ofLines (lines text)) :
    (token.convert encoding (lines text)).stop < Encoding.columnLimit := by
  obtain ⟨line, present, inside⟩ := exists_line_of_mem_ofLines member
  have shortLine : units line < Encoding.columnLimit :=
    Nat.lt_of_le_of_lt (units_le_of_mem_splitLines (List.mem_of_getElem? present)) short
  cases encoding with
  | utf32 =>
    exact Nat.lt_of_le_of_lt (Nat.le_trans inside (length_le_units line)) shortLine
  | utf16 =>
    obtain ⟨columns, onLine, -, ends⟩ := (corresponds_convert member).columns
    cases present.symm.trans onLine
    rw [ends]
    exact Nat.lt_of_le_of_lt (unitOfChar_le_units inside) shortLine

theorem placedBelow_convert {text : String} (short : units text.toList < Encoding.columnLimit)
    (encoding : Encoding) {token : Token} (member : token ∈ ofLines (lines text)) :
    (token.convert encoding (lines text)).PlacedBelow Encoding.columnLimit := by
  constructor
  · have numbered : token.line < (lines text).length := line_lt_of_mem_ofLines member
    have counted : (lines text).length ≤ text.toList.length := length_splitLines_le text.toList
    rw [line_convert]
    exact Nat.lt_of_lt_of_le numbered
      (Nat.le_trans counted (Nat.le_trans (length_le_units text.toList) (Nat.le_of_lt short)))
  · exact Nat.lt_of_le_of_lt (Nat.le_add_right _ _) (stop_convert_lt short encoding member)

/-! ## Streams -/

/-- **A client sees the tokens of a document as they are.**  In a document of fewer than 2^32 code
units, and for either unit:

* what a client decodes of the differences sent for the document is the list of its tokens in the
  columns of the client, in order, and no sum leaves 32 bits on the way;
* each token ends on its line, and in code units it covers the same characters;
* what it decodes of the differences sent for a range, from the first line of the range on, are the
  tokens of the whole document on the lines of the range. -/
theorem streams_faithful (encoding : Encoding) (text : String)
    (short : units text.toList < Encoding.columnLimit) :
    let document := lines text
    let sent := (ofLines document).map (convert encoding document)
    decode (full encoding document) 0 = sent ∧
    SortedFrom 0 sent ∧
    DeltaToken.SumsBelow Encoding.columnLimit 0 0 (full encoding document) ∧
    (∀ token ∈ sent, token.stop < Encoding.columnLimit) ∧
    (∀ token ∈ ofLines document, ∃ line, document[token.line]? = some line ∧
      token.stop ≤ line.length ∧ InUnits line token (token.convert .utf16 document) ∧
      unitOfChar line token.start ≤ unitOfChar line token.stop) ∧
    ∀ range : Range,
      decode (inRange encoding document range) range.start.line =
        (decode (full encoding document) 0).filter (fun token =>
          range.start.line ≤ token.line && token.line ≤ max range.start.line range.stop.line) ∧
      DeltaToken.SumsBelow Encoding.columnLimit range.start.line 0
        (inRange encoding document range) := by
  intro document sent
  have placed : ∀ token ∈ sent, token.PlacedBelow Encoding.columnLimit := by
    intro token member
    obtain ⟨original, found, rfl⟩ := List.mem_map.mp member
    exact placedBelow_convert short encoding found
  have sorted : SortedFrom 0 sent := (sortedFrom_ofLines document).convert encoding document
  refine ⟨decode_full encoding document, sorted, sumsBelow_encode sorted placed, ?_, ?_, ?_⟩
  · intro token member
    obtain ⟨original, found, rfl⟩ := List.mem_map.mp member
    exact stop_convert_lt short encoding found
  · intro token member
    obtain ⟨line, present, inside⟩ := exists_line_of_mem_ofLines member
    exact ⟨line, present, inside, inUnits_convert present inside,
      unitOfChar_le_unitOfChar line (Nat.le_add_right _ _)⟩
  · intro range
    constructor
    · -- the line of a token stays as it is, so choosing lines and converting commute
      rw [decode_inRange, decode_full, within, List.filter_map, Nat.max_comm]
      simp only [Function.comp_def, line_convert]
    · refine sumsBelow_encode ((sortedFrom_within range document).convert encoding document) ?_
      intro token member
      obtain ⟨original, found, rfl⟩ := List.mem_map.mp member
      exact placedBelow_convert short encoding (List.mem_filter.mp found).1

set_option maxRecDepth 20000 in
/-- A comment that holds a character of two code units, and a keyword behind it: what is sent, and
the tokens that are decoded from it. -/
theorem streams_faithful_astral :
    let text := "/*😀*/ in"
    units text.toList < Encoding.columnLimit ∧
    full .utf16 (lines text) = [⟨0, 0, 6, 10, 0⟩, ⟨0, 7, 2, 0, 0⟩] ∧
    (ofLines (lines text)).map (convert .utf16 (lines text)) =
      [⟨0, 0, 6, 10, 0⟩, ⟨0, 7, 2, 0, 0⟩] := by
  intro text
  have short : units text.toList < Encoding.columnLimit := by decide
  have whole : lines text = [text.toList] := by decide
  have line : ofLine 0 none text.toList = ([⟨0, 0, 5, 10, 0⟩, ⟨0, 6, 2, 0, 0⟩], none) :=
    (ofLine_of_pairwise (by decide +kernel)).trans (by decide +kernel)
  have sent : full .utf16 (lines text) = [⟨0, 0, 6, 10, 0⟩, ⟨0, 7, 2, 0, 0⟩] := by
    simp only [full, whole, ofLines, startingAt, line]
    decide
  obtain ⟨decoded, -⟩ := streams_faithful .utf16 text short
  rw [sent] at decoded
  exact ⟨short, sent, decoded.symm⟩

end Token

end KotlinAssist
