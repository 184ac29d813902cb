import GridAdmin.Json.Decode
import GridAdmin.Json.Printer
import GridAdmin.Json.Reader

/-!
# Wire forms

A type that travels to or from the service has a wire form: a JSON value that
it is written as, and a reader for such values. Readers accept more than
writers produce, because the service may leave fields out, add others, or
write a record as an array.
-/

namespace GridAdmin

/-- A type with a JSON form. -/
class Wire (α : Type) where
  encode : α → Json
  decode? : Json → Option α

namespace Wire

variable {α : Type} [Wire α]

/-- The compact text of a value. -/
def write (value : α) : String :=
  (encode value).compactText

/-- The value that a text holds. -/
def read? (text : String) : Option α :=
  (Json.read? text).bind decode?

instance : Wire String where
  encode := Json.text
  decode? := Json.asText?

instance : Wire Int32 where
  encode i := Json.int i.toInt
  decode? := Json.asInt32?

instance : Wire Int64 where
  encode i := Json.int i.toInt
  decode? := Json.asInt64?

instance : Wire UInt8 where
  encode n := Json.int n.toNat
  decode? := Json.asUInt8?

instance : Wire UInt32 where
  encode n := Json.int n.toNat
  decode? := Json.asUInt32?

instance : Wire (List α) where
  encode values := .array (values.map encode)
  decode? := Json.asList? decode?

end Wire

end GridAdmin
