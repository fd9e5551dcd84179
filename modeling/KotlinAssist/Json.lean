import KotlinAssist.Number.Double

/-!
# JSON values

Messages, settings and the data attached to diagnostics and completion items are JSON values.  The
readers return nothing for a value of another shape; a number is read only if it fits the width that
it has on the wire.

## Main definitions

* `Json` — a value
* `Json.field?` — a field of an object
* `Json.require?` — reads a field that has to be there
* `Json.maybe?` — reads a field that may be missing
-/

namespace KotlinAssist

/-- A JSON value.  A number that is no integer of 64 bits is a floating-point number, given by its
sign and its size. -/
inductive Json where
  | null
  | bool (value : Bool)
  | int (value : Int)
  | float (negative : Bool) (size : Double)
  | str (text : String)
  | arr (items : List Json)
  | obj (fields : List (String × Json))
  deriving Inhabited

namespace Json

/-- The number of a natural number. -/
def nat (value : Nat) : Json :=
  .int value

/-- The object of the fields that are present. -/
def ofFields (fields : List (String × Option Json)) : Json :=
  .obj (fields.filterMap fun (key, value) => value.map (key, ·))

/-- An object with further fields. -/
def withFields (json : Json) (fields : List (String × Json)) : Json :=
  match json with
  | .obj given => .obj (given ++ fields)
  | json => json

/-- The array of a list. -/
def ofList {α : Type} (toJson : α → Json) (items : List α) : Json :=
  .arr (items.map toJson)

/-- A value that may be missing, as `null` when it is. -/
def ofOption {α : Type} (toJson : α → Json) : Option α → Json
  | none => .null
  | some value => toJson value

/-! ### Reading -/

/-- The field of an object. -/
def field? (json : Json) (key : String) : Option Json :=
  match json with
  | .obj fields => fields.lookup key
  | _ => none

/-- The fields of an object. -/
def fields? : Json → Option (List (String × Json))
  | .obj fields => some fields
  | _ => none

/-- The fields of an object that have one of several names. -/
def pick (json : Json) (names : List String) : List (String × Json) :=
  (json.fields?.getD []).filter fun (key, _) => names.contains key

/-- A truth value. -/
def bool? : Json → Option Bool
  | .bool value => some value
  | _ => none

/-- A text. -/
def str? : Json → Option String
  | .str text => some text
  | _ => none

/-- An unsigned number of 32 bits. -/
def nat32? : Json → Option Nat
  | .int value => if 0 ≤ value ∧ value < 0x100000000 then some value.toNat else none
  | _ => none

/-- A signed number of 32 bits. -/
def int32? : Json → Option Int
  | .int value => if -0x80000000 ≤ value ∧ value < 0x80000000 then some value else none
  | _ => none

/-- An array whose items can all be read. -/
def list? {α : Type} (read : Json → Option α) : Json → Option (List α)
  | .arr items => items.mapM read
  | _ => none

/-- The name of a choice without content: a text, or an object with the name as its only key and
`null` under it. -/
def choice? : Json → Option String
  | .str name => some name
  | .obj [(name, .null)] => some name
  | _ => none

/-- A field that has to be there. -/
def require? {α : Type} (read : Json → Option α) (json : Json) (key : String) : Option α :=
  (json.field? key).bind read

/-- A field that may be missing or `null`; one that is there has to be readable. -/
def maybe? {α : Type} (read : Json → Option α) (json : Json) (key : String) :
    Option (Option α) :=
  match json.field? key with
  | none | some .null => some none
  | some value => (read value).map some

end Json

end KotlinAssist
