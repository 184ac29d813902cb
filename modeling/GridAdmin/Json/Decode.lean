import GridAdmin.Json.Basic
import GridAdmin.Text.Decimal

/-!
# Typed values out of JSON

Readers of single values and of records. A record may be written in two ways:
as an object, where unknown fields are passed over and a known field must not
be repeated, or as an array of its fields in order, where only fields at the
end may be missing. What a missing field means is up to the reader of the
record.

## Main definitions

* `Json.asInt?`, `Json.asText?`, `Json.asList?`: single values.
* `Json.asRecord?`: the fields of a record, by the names that it knows.
-/

namespace GridAdmin.Json

/-! ## Single values -/

/-- An integer between two bounds. -/
def asInt? (low high : Int) : Json → Option Int
  | .number (.integer value) => Text.within? low high value
  | _ => none

/-- A signed number of 32 bits. -/
def asInt32? (value : Json) : Option Int32 :=
  (value.asInt? (-2147483648) 2147483647).map Int32.ofInt

/-- A signed number of 64 bits. -/
def asInt64? (value : Json) : Option Int64 :=
  (value.asInt? (-9223372036854775808) 9223372036854775807).map Int64.ofInt

/-- An unsigned number of 8 bits. -/
def asUInt8? (value : Json) : Option UInt8 :=
  (value.asInt? 0 255).map fun i => UInt8.ofNat i.toNat

/-- An unsigned number of 16 bits. -/
def asUInt16? (value : Json) : Option UInt16 :=
  (value.asInt? 0 65535).map fun i => UInt16.ofNat i.toNat

/-- An unsigned number of 32 bits. -/
def asUInt32? (value : Json) : Option UInt32 :=
  (value.asInt? 0 4294967295).map fun i => UInt32.ofNat i.toNat

/-- A text. -/
def asText? : Json → Option String
  | .string value => value
  | _ => none

/-- A list whose items are all read by `item`. -/
def asList? {α : Type} (item : Json → Option α) : Json → Option (List α)
  | .array items => items.mapM item
  | _ => none

/-- A map of texts; every key and every value must be one. -/
def asTextMap? : Json → Option (List (String × String))
  | .object fields =>
      fields.mapM fun field => do
        let key ← field.1
        let value ← field.2.asText?
        some (key, value)
  | _ => none

/-- `null` for nothing, or a value that `item` reads. -/
def asOption? {α : Type} (item : Json → Option α) : Json → Option (Option α)
  | .null => some none
  | value => (item value).map some

/-! ## Records -/

/-- The values of the fields called `name`. -/
def valuesOf (name : String) (fields : List (Literal × Json)) : List Json :=
  (fields.filter fun field => decide (field.1 = some name)).map (·.2)

/-- The value of the field called `name`, if there is one; nothing at all if it
is repeated. -/
def fieldOf? (name : String) (fields : List (Literal × Json)) : Option (Option Json) :=
  match valuesOf name fields with
  | [] => some none
  | [value] => some (some value)
  | _ => none

/-- The values of known fields of an object. -/
def asObject? (names : List String) : Json → Option (List (Option Json))
  | .object fields =>
      if fields.all fun field => field.1.isSome then
        names.mapM fun name => fieldOf? name fields
      else none
  | _ => none

/-- The values of known fields of a record, written as an object or as an array. -/
def asRecord? (names : List String) : Json → Option (List (Option Json))
  | .array items =>
      if items.length ≤ names.length then
        some (items.map some ++ List.replicate (names.length - items.length) none)
      else none
  | value => value.asObject? names

/-- A field that must be there. -/
def required? {α : Type} (item : Json → Option α) (field : Option Json) : Option α :=
  field.bind item

/-- A field that stands for `default` when it is missing. -/
def orElse? {α : Type} (default : α) (item : Json → Option α) :
    Option Json → Option α
  | none => some default
  | some value => item value

/-- A value written as an object whose only field names its kind. -/
def asTagged? : Json → Option (String × Json)
  | .object [(some kind, value)] => some (kind, value)
  | _ => none

end GridAdmin.Json
