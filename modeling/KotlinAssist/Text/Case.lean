import KotlinAssist.Text.CaseTable

/-!
# Upper and lower case

In the full case mappings a character may become several: `ß` becomes `SS`, and `İ` an `i` with a
dot.  In a text a capital sigma becomes the final form `ς` when a cased character comes before it
and none after it, case-ignorable characters in between not counting; everywhere else it becomes
`σ`.

## Main definitions

* `lower` — the lowercase form of a text
* `flipFirstCase` — a text with the case of its first character turned round
-/

namespace KotlinAssist.Text

/-- A mapping of code points: its expansions first, then its runs, and no change elsewhere. -/
def mapCase (expansions : List (Nat × List Nat)) (runs : List CaseRun) (c : Char) : List Char :=
  match expansions.lookup c.toNat with
  | some codes => codes.map Char.ofNat
  | none =>
    match runs.find? (·.has c.toNat) with
    | some run => [Char.ofNat (c.toNat + run.shift).toNat]
    | none => [c]

/-- The lowercase form of a character. -/
def lowerChar (c : Char) : List Char :=
  if c.toNat < 0x80 then [c.toLower] else mapCase lowerExpansions lowerRuns c

/-- The uppercase form of a character. -/
def upperChar (c : Char) : List Char :=
  if c.toNat < 0x80 then [c.toUpper] else mapCase upperExpansions upperRuns c

/-- Whether a character has the property `Uppercase`. -/
def isUppercase (c : Char) : Bool :=
  if c.toNat < 0x80 then c.isUpper else uppercaseRuns.any (·.has c.toNat)

/-- Whether the first character that is not case-ignorable is cased. -/
def meetsCased (text : List Char) : Bool :=
  match text.dropWhile fun c => caseIgnorableRanges.has c.toNat with
  | [] => false
  | c :: _ => casedRanges.has c.toNat

/-- The lowercase form of a text; `before` holds the characters already read, the latest first. -/
def lowerFrom (before : List Char) : List Char → List Char
  | [] => []
  | c :: rest =>
    let mapped :=
      if c = 'Σ' then
        if meetsCased before && !meetsCased rest then ['ς'] else ['σ']
      else lowerChar c
    mapped ++ lowerFrom (c :: before) rest

/-- The lowercase form of a text. -/
def lower (text : List Char) : List Char :=
  lowerFrom [] text

/-- A text with the case of its first character turned round; the rest stays. -/
def flipFirstCase : List Char → List Char
  | [] => []
  | c :: rest => (if isUppercase c then lowerChar c else upperChar c) ++ rest

end KotlinAssist.Text
