import KotlinAssist.Json
import KotlinAssist.Number.Decimal
import KotlinAssist.Text.Quoted

/-!
# Settings

A client sends its settings when it starts the server.  No settings, or `null`, stand for the
defaults.  Settings are an object, whose unknown fields are ignored and whose missing fields have
their defaults, or an array that lists the fields in order and may stop early.  The first field that
cannot be read decides the error: fields of an object are read by their names in alphabetical order.

## Main definitions

* `Config` — the settings
* `ConfigError` — why settings cannot be read, with `ConfigError.message`
* `Config.ofOptions` — reads settings
-/

namespace KotlinAssist

/-- How much of its work the server tells the client. -/
inductive TraceLevel where
  | off
  | messages
  | verbose
  deriving DecidableEq

namespace TraceLevel

/-- The name of a level. -/
def label : TraceLevel → String
  | .off => "off"
  | .messages => "messages"
  | .verbose => "verbose"

/-- All levels. -/
def all : List TraceLevel :=
  [off, messages, verbose]

/-- Whether anything is told. -/
def isEnabled (level : TraceLevel) : Bool :=
  level != .off

end TraceLevel

/-- The settings of a server. -/
structure Config where
  /-- Whether the server offers anything at all. -/
  enabled : Bool := true
  /-- Where the client finds the server. -/
  languageServerPath : Option String := none
  /-- Where the client finds the runtime. -/
  javaHome : Option String := none
  trace : TraceLevel := .off
  deriving DecidableEq

/-- What the settings should have held. -/
inductive Expected where
  | settings
  | boolean
  | string
  | traceLevel
  | nothing

namespace Expected

/-- The words for what was expected. -/
def text : Expected → String
  | .settings => "struct ServerConfig"
  | .boolean => "a boolean"
  | .string => "a string"
  | .traceLevel => "string or map"
  | .nothing => "unit"

end Expected

/-- Why settings cannot be read. -/
inductive ConfigError where
  /-- A value of another type. -/
  | wrongType (found : Json) (expected : Expected)
  /-- A trace level that does not exist. -/
  | unknownLevel (name : String)
  /-- An object in place of a trace level that has not exactly one key. -/
  | notSingleKey
  /-- An array with too many items. -/
  | tooLong (length : Nat)

namespace ConfigError

/-- The words for a value that was found. -/
def foundText : Json → String
  | .null => "null"
  | .bool value => s!"boolean `{value}`"
  | .int value => s!"integer `{value}`"
  | .float negative size => s!"floating point `{size.signedText negative}`"
  | .str text => s!"string {Text.quoted text}"
  | .arr _ => "sequence"
  | .obj _ => "map"

/-- The names of the trace levels, as they are listed in a message. -/
def levelNames : String :=
  ", ".intercalate (TraceLevel.all.map fun level => s!"`{level.label}`")

/-- The cause in words. -/
def cause : ConfigError → String
  | .wrongType found expected => s!"invalid type: {foundText found}, expected {expected.text}"
  | .unknownLevel name => s!"unknown variant `{name}`, expected one of {levelNames}"
  | .notSingleKey => "invalid value: map, expected map with a single key"
  | .tooLong length => s!"invalid length {length}, expected fewer elements in array"

/-- The message shown for an error. -/
def message (error : ConfigError) : String :=
  "Invalid configuration: " ++ error.cause

end ConfigError

namespace Config

/-- Reads a truth value. -/
def readBool : Json → Except ConfigError Bool
  | .bool value => .ok value
  | found => .error (.wrongType found .boolean)

/-- Reads a path, which may be `null`. -/
def readPath : Json → Except ConfigError (Option String)
  | .null => .ok none
  | .str path => .ok (some path)
  | found => .error (.wrongType found .string)

/-- The trace level of a given name. -/
def levelOfName (name : String) : Except ConfigError TraceLevel :=
  match TraceLevel.all.find? (·.label == name) with
  | some level => .ok level
  | none => .error (.unknownLevel name)

/-- Reads a trace level: its name, or an object with the name as its only key and `null` under
it. -/
def readTrace : Json → Except ConfigError TraceLevel
  | .str name => levelOfName name
  | .obj [(name, value)] => do
    let level ← levelOfName name
    match value with
    | .null => .ok level
    | found => .error (.wrongType found .nothing)
  | .obj _ => .error .notSingleKey
  | found => .error (.wrongType found .traceLevel)

/-- Reads a value, or takes the default when it is missing. -/
def readOr {α : Type} (read : Json → Except ConfigError α) (default : α) :
    Option Json → Except ConfigError α
  | none => .ok default
  | some value => read value

/-- Reads settings given as an object. -/
def ofFields (fields : List (String × Json)) : Except ConfigError Config := do
  let enabled ← readOr readBool true (fields.lookup "enabled")
  let javaHome ← readOr readPath none (fields.lookup "javaHome")
  let languageServerPath ← readOr readPath none (fields.lookup "languageServerPath")
  let trace ← readOr readTrace .off (fields.lookup "trace")
  return { enabled, languageServerPath, javaHome, trace }

/-- Reads settings given as an array. -/
def ofItems (items : List Json) : Except ConfigError Config := do
  let enabled ← readOr readBool true items[0]?
  let languageServerPath ← readOr readPath none items[1]?
  let javaHome ← readOr readPath none items[2]?
  let trace ← readOr readTrace .off items[3]?
  if 4 < items.length then .error (.tooLong items.length)
  else return { enabled, languageServerPath, javaHome, trace }

/-- Reads the settings that a client sends. -/
def ofOptions : Option Json → Except ConfigError Config
  | none | some .null => .ok {}
  | some (.obj fields) => ofFields fields
  | some (.arr items) => ofItems items
  | some found => .error (.wrongType found .settings)

end Config

end KotlinAssist
