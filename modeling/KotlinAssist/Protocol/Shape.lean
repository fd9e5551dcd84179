import KotlinAssist.Json
import KotlinAssist.Position

/-!
# Shapes of values

The protocol says at each place of a message which values fit there.  A `Shape` reads a value and
returns it in its plain form, or nothing when it does not fit.

A record may be sent in two ways: as an object, whose unknown fields are ignored, or as an array of
its fields in their order.  In the plain form it is an object that holds the fields it has, and a
field that may be missing is missing when `null` was sent for it.  An array has to go on to the last
field unless the rest have defaults.  A record that takes over the fields of others is sent as an
object only.

## Main definitions

* `Shape` — what fits at a place
* `RecordField` — a field of a record: `required` or `optional`, perhaps `withDefault`
* `Shape.record` — a record
* `Shape.joined` — a record that takes over the fields of others
* `Shape.either` — the first of two shapes that fits
-/

namespace KotlinAssist

/-- Reads a value into its plain form, or nothing when the value does not fit. -/
abbrev Shape := Json → Option Json

/-- A field of a record. -/
structure RecordField where
  name : String
  shape : Shape
  /-- Whether the field may be missing or `null`. -/
  nullable : Bool := false
  /-- Whether the field has a default, so that it may be missing even from an array. -/
  hasDefault : Bool := false

namespace RecordField

/-- A field that has to be there. -/
def required (name : String) (shape : Shape) : RecordField where
  name := name
  shape := shape

/-- A field that may be missing or `null`. -/
def optional (name : String) (shape : Shape) : RecordField where
  name := name
  shape := shape
  nullable := true

/-- A field that may be missing even from an array. -/
def withDefault (field : RecordField) : RecordField :=
  { field with hasDefault := true }

/-- Reads the value sent for a field. -/
def read? (field : RecordField) (value : Json) : Option (Option Json) :=
  match value with
  | .null => if field.nullable then some none else (field.shape .null).map some
  | value => (field.shape value).map some

/-- Reads a field of an object. -/
def ofObject? (given : List (String × Json)) (field : RecordField) : Option (Option Json) :=
  match given.lookup field.name with
  | some value => field.read? value
  | none => if field.nullable || field.hasDefault then some none else none

/-- Reads a field of an array. -/
def ofArray? (items : List Json) (field : RecordField × Nat) : Option (Option Json) :=
  match items[field.2]? with
  | some value => field.1.read? value
  | none => if field.1.hasDefault then some none else none

end RecordField

namespace Shape

/-- Anything fits. -/
def anything : Shape :=
  some

/-- What a reader accepts fits, and is its own plain form. -/
def accepted {α : Type} (read : Json → Option α) : Shape := fun json =>
  (read json).map fun _ => json

/-- A truth value. -/
def bool : Shape :=
  accepted Json.bool?

/-- A text. -/
def text : Shape :=
  accepted Json.str?

/-- A signed number of 32 bits. -/
def int32 : Shape :=
  accepted Json.int32?

/-- An unsigned number of 32 bits. -/
def nat32 : Shape :=
  accepted Json.nat32?

/-- Any number. -/
def number : Shape
  | .int value => some (.int value)
  | .float negative size => some (.float negative size)
  | _ => none

/-- The name of a document. -/
def uri : Shape :=
  accepted fun json => json.str?.filter Uri.isAbsolute

/-- One of several words.  It may also be sent as an object with the word as its only key and `null`
under it. -/
def word (words : List String) : Shape := fun json =>
  (json.choice?.filter words.contains).map .str

/-- An array of values of one shape. -/
def list (item : Shape) : Shape := fun json =>
  (json.list? item).map .arr

/-- An array of two values of one shape. -/
def pair (item : Shape) : Shape
  | .arr [first, second] => do return .arr [← item first, ← item second]
  | _ => none

/-- An object of fields whose names and values fit. -/
def dictionary (name value : Shape) : Shape
  | .obj given => do
    let fields ← given.mapM fun (key, found) => do
      discard <| name (.str key)
      return (key, ← value found)
    return .obj fields
  | _ => none

/-- The first of two shapes that fits. -/
def either (first second : Shape) : Shape := fun json =>
  first json <|> second json

/-- The object of the fields that are there. -/
def plain (fields : List RecordField) (values : List (Option Json)) : Json :=
  .ofFields ((fields.map (·.name)).zip values)

/-- A record, as an object or as an array. -/
def record (fields : List RecordField) : Shape
  | .obj given => (fields.mapM (RecordField.ofObject? given)).map (plain fields)
  | .arr items =>
    if fields.length < items.length then none
    else (fields.zipIdx.mapM (RecordField.ofArray? items)).map (plain fields)
  | _ => none

/-- A record that takes over the fields of others, as an object. -/
def joined (fields : List RecordField) : Shape
  | .obj given => record fields (.obj given)
  | _ => none

/-- A record as an object whose unknown fields have to fit, too.  They are left out of the plain
form. -/
def withOthers (fields : List RecordField) (others : Shape) : Shape
  | .obj given => do
    let unknown := given.filter fun (key, _) => !(fields.map (·.name)).contains key
    discard <| unknown.mapM fun (_, value) => others value
    record fields (.obj given)
  | _ => none

end Shape

end KotlinAssist
