import KotlinAssist.Declaration
import KotlinAssist.Grammar.Import
import KotlinAssist.Json

/-!
# Diagnostics

A rule looks at a whole document and lists its findings.  Four rules are run one after the other:
closing braces that close nothing, imports that nothing uses, names that break the naming convention
and constructs for which there is a better one.

## Main definitions

* `Diagnostic` — a finding
* `BraceBalance.check` — closing braces that close nothing
* `UnusedImport.check` — imports that nothing uses
* `NamingConvention.check` — names that break the convention
* `DiscouragedPattern.check` — constructs for which there is a better one
* `Rule.all` — the rules in order
* `diagnostics` — the findings of all rules
-/

namespace KotlinAssist

open Text

/-- How serious a finding is. -/
inductive Severity where
  | error
  | warning
  | information
  | hint
  /-- A severity of another tool. -/
  | other (code : Int)
  deriving DecidableEq

namespace Severity

/-- The number of a severity on the wire. -/
def code : Severity → Int
  | .error => 1
  | .warning => 2
  | .information => 3
  | .hint => 4
  | .other code => code

/-- The severity with a given number. -/
def ofCode (code : Int) : Severity :=
  ([error, warning, information, hint].find? (·.code == code)).getD (.other code)

end Severity

/-- The code of a diagnostic: the name of a rule, or a number of another tool. -/
inductive DiagnosticCode where
  | number (value : Int)
  | text (value : String)
  deriving DecidableEq

/-- A finding about a range of a document. -/
structure Diagnostic where
  range : Range
  severity : Option Severity := none
  code : Option DiagnosticCode := none
  source : Option String := none
  message : String
  data : Option Json := none
  /-- Further fields of another tool, which are handed back as they came. -/
  carried : List (String × Json) := []

namespace Diagnostic

/-- The source given in every diagnostic of this library. -/
def sourceName : String :=
  "kotlin-lsp"

/-- The finding of a rule. -/
def ofRule (rule : String) (severity : Severity) (range : Range) (message : String) :
    Diagnostic where
  range := range
  severity := some severity
  code := some (.text rule)
  source := some sourceName
  message := message

end Diagnostic

/-! ### Closing braces that close nothing -/

namespace BraceBalance

/-- The name of the rule. -/
def id : String :=
  "brace-balance"

/-- What the rule reports. -/
def message : String :=
  "possible unmatched closing brace"

/-- Reads a line with a number of open braces.  The result is the column of the first closing brace
that closes nothing, and the number of open braces after the line. -/
def scan (column depth : Nat) : Line → Option Nat × Nat
  | [] => (none, depth)
  | c :: rest =>
    if c = '{' then scan (column + 1) (depth + 1) rest
    else if c = '}' then
      match depth with
      | 0 => (some column, (scan (column + 1) 0 rest).2)
      | depth + 1 => scan (column + 1) depth rest
    else scan (column + 1) depth rest

/-- The findings on lines numbered from `index` on; a line has at most one. -/
def findings (index depth : Nat) : List Line → List Diagnostic
  | [] => []
  | line :: rest =>
    let (column?, depth) := scan 0 depth line
    let finding := column?.map fun column =>
      Diagnostic.ofRule id .warning (.onLine index column (column + 1)) message
    finding.toList ++ findings (index + 1) depth rest

/-- Runs the rule. -/
def check (lines : List Line) : List Diagnostic :=
  findings 0 0 lines

end BraceBalance

/-! ### Imports that nothing uses -/

namespace UnusedImport

/-- The name of the rule. -/
def id : String :=
  "unused-import"

/-- How the message of the rule starts. -/
def message : String :=
  "unused import"

/-- Whether a line is an import line. -/
def isImportLine (line : Line) : Bool :=
  Grammar.isImport (trim line)

/-- Whether a name is used on a line that is no import line. -/
def isUsed (lines : List Line) (name : List Char) : Bool :=
  lines.any fun line => !isImportLine line && !(wordSpans line name).isEmpty

/-- The finding about one line: it imports a name that is not used. -/
def finding? (lines : List Line) (index : Nat) (line : Line) : Option Diagnostic := do
  let text := trim line
  let name ← Grammar.importedName? text
  if isUsed lines name then none
  else
    let start := indentation line
    some (.ofRule id .hint (.onLine index start (start + text.length))
      s!"{message} '{String.ofList name}'")

/-- Runs the rule. -/
def check (lines : List Line) : List Diagnostic :=
  lines.zipIdx.filterMap fun (line, index) => finding? lines index line

end UnusedImport

/-! ### Names that break the convention -/

namespace NamingConvention

/-- The name of the rule. -/
def id : String :=
  "naming-convention"

/-- What is said about a type. -/
def uppercaseMessage : String :=
  "name should start with uppercase"

/-- What is said about a function. -/
def lowercaseMessage : String :=
  "name should start with lowercase"

/-- The message about a declaration: a type starts with a lowercase letter, or a function with an
uppercase one.  Declared names are ASCII. -/
def message? (declaration : Declaration) : Option String := do
  let first ← declaration.name.toList.head?
  if declaration.kind.isTypeLike && first.isLower then
    some s!"{declaration.kind.label} {uppercaseMessage}"
  else if declaration.kind == .function && first.isUpper then
    some s!"function {lowercaseMessage}"
  else none

/-- Runs the rule. -/
def check (lines : List Line) : List Diagnostic :=
  (Declaration.ofLines lines).filterMap fun declaration =>
    (message? declaration).map (.ofRule id .warning declaration.selection)

end NamingConvention

/-! ### Constructs for which there is a better one -/

/-- A text that should not be written, why not, and what to write instead. -/
structure DiscouragedPattern where
  needle : String
  message : String
  replacement : String
  deriving DecidableEq

namespace DiscouragedPattern

/-- The name of the rule. -/
def id : String :=
  "discouraged-pattern"

/-- The discouraged texts. -/
def all : List DiscouragedPattern :=
  [{ needle := "!!"
     message := "avoid the not-null assertion operator '!!', prefer a safe call '?.'"
     replacement := "?." },
   { needle := "Thread.sleep("
     message := "avoid blocking 'Thread.sleep(', prefer the suspending 'delay('"
     replacement := "delay(" },
   { needle := "System.out.println("
     message := "avoid 'System.out.println(', prefer 'println('"
     replacement := "println(" }]

/-- The finding about one occurrence.  It carries the replacement. -/
def finding (pattern : DiscouragedPattern) (index : Nat) (span : Span) : Diagnostic :=
  { Diagnostic.ofRule id .information (.onLine index span.start span.stop) pattern.message with
    data := some (.obj [("replacement", .str pattern.replacement)]) }

/-- Runs the rule: the lines in order, and on each line the patterns in order. -/
def check (lines : List Line) : List Diagnostic :=
  lines.zipIdx.flatMap fun (line, index) =>
    all.flatMap fun pattern =>
      (occurrences pattern.needle.toList line).map (pattern.finding index)

end DiscouragedPattern

/-! ### All rules -/

/-- A named check of a document. -/
structure Rule where
  id : String
  description : String
  check : List Line → List Diagnostic

namespace Rule

/-- The rules in the order in which they are run. -/
def all : List Rule :=
  [⟨BraceBalance.id, "Flag closing braces without a matching opening brace", BraceBalance.check⟩,
   ⟨UnusedImport.id, "Flag imports whose name is not used in the document", UnusedImport.check⟩,
   ⟨NamingConvention.id, "Check class and function naming conventions", NamingConvention.check⟩,
   ⟨DiscouragedPattern.id, "Flag discouraged constructs and suggest an alternative",
    DiscouragedPattern.check⟩]

end Rule

/-- The findings of all rules about a document. -/
def diagnostics (lines : List Line) : List Diagnostic :=
  Rule.all.flatMap (·.check lines)

end KotlinAssist
