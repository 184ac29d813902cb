import GridAdmin.Service.Call
import GridAdmin.Wire.Codec

/-!
# Wire forms of requests and replies

Each request and reply is written as an object with its fields in a fixed
order. A status is a bare number, an administrative request is an array of
exactly ten texts, and a selector is an object whose only field says how it
selects. Where a reply may leave a field out, the reader puts the empty value
in its place.
-/

namespace GridAdmin

instance : Wire Status where
  encode s := Wire.encode s.code
  decode? value := (Wire.decode? value).map Status.mk

instance {width : Nat} : Wire (Slots width) where
  encode row := Wire.encode row.cells
  decode? value := do
    let cells : List String ← Wire.decode? value
    if hLength : cells.length = width then some ⟨cells, hLength⟩ else none

instance : Wire Diagnostic where
  encode d := .record [("status", Wire.encode d.status), ("message", Wire.encode d.message)]
  decode? value := do
    let [status, message] ← value.asRecord? ["status", "message"] | none
    let status ← Json.orElse? .success Wire.decode? status
    let message ← Json.required? Wire.decode? message
    some { status, message }

instance : Wire UserIdentity where
  encode user := .record [("name", Wire.encode user.name), ("zone", Wire.encode user.zone)]
  decode? value := do
    let [name, zone] ← value.asRecord? ["name", "zone"] | none
    let name ← Json.required? Wire.decode? name
    let zone ← Json.required? Wire.decode? zone
    some { name, zone }

/-! ## Queries -/

instance : Wire SimpleQuery where
  encode query := .record
    [ ("sql", Wire.encode query.sql), ("args", Wire.encode query.args),
      ("form", Wire.encode query.form), ("control", Wire.encode query.control),
      ("max_buf_size", Wire.encode query.maxBufSize) ]
  decode? value := do
    let [sql, args, form, control, maxBufSize] ←
      value.asRecord? ["sql", "args", "form", "control", "max_buf_size"] | none
    let sql ← Json.required? Wire.decode? sql
    let args ← Json.required? Wire.decode? args
    let form ← Json.required? Wire.decode? form
    let control ← Json.required? Wire.decode? control
    let maxBufSize ← Json.required? Wire.decode? maxBufSize
    some { sql, args, form, control, maxBufSize }

/-- The fields of one page of an SQL query. -/
def SimpleReply.ofFields? : List (Option Json) → Option SimpleReply
  | [status, outBuf, control] => do
      let status ← Json.required? Wire.decode? status
      let outBuf ← Json.orElse? "" Wire.decode? outBuf
      let control ← Json.orElse? 0 Wire.decode? control
      some { status, outBuf, control }
  | _ => none

/-- The names of the fields of one page of an SQL query. -/
def SimpleReply.fieldNames : List String := ["status", "out_buf", "control"]

instance : Wire SimpleReply where
  encode reply := .record
    [ ("status", Wire.encode reply.status), ("out_buf", Wire.encode reply.outBuf),
      ("control", Wire.encode reply.control) ]
  decode? value := (value.asRecord? SimpleReply.fieldNames).bind SimpleReply.ofFields?

/-- The fields of the answer to a general query. -/
def GeneralReply.ofFields? : List (Option Json) → Option GeneralReply
  | [status, rows] => do
      let status ← Json.required? Wire.decode? status
      let rows ← Json.orElse? [] Wire.decode? rows
      some { status, rows }
  | _ => none

/-- The names of the fields of the answer to a general query. -/
def GeneralReply.fieldNames : List String := ["status", "rows"]

instance : Wire GeneralReply where
  encode reply := .record
    [("status", Wire.encode reply.status), ("rows", Wire.encode reply.rows)]
  decode? value := (value.asRecord? GeneralReply.fieldNames).bind GeneralReply.ofFields?

/-- The fields of a configuration value. -/
def GridValue.ofFields? : List (Option Json) → Option GridValue
  | [status, text] => do
      let status ← Json.required? Wire.decode? status
      let text ← Json.orElse? "" Wire.decode? text
      some { status, value := text }
  | _ => none

/-- The names of the fields of a configuration value. -/
def GridValue.fieldNames : List String := ["status", "value"]

instance : Wire GridValue where
  encode reply := .record
    [("status", Wire.encode reply.status), ("value", Wire.encode reply.value)]
  decode? value := (value.asRecord? GridValue.fieldNames).bind GridValue.ofFields?

/-! ## Replicas -/

instance : Wire DataObject where
  encode
    | .withId id => .record [("id", Wire.encode id)]
    | .atPath path => .record [("path", Wire.encode path)]
  decode? value := do
    match ← value.asTagged? with
    | ("id", value) => (Wire.decode? value).map DataObject.withId
    | ("path", value) => (Wire.decode? value).map DataObject.atPath
    | _ => none

instance : Wire Replica where
  encode
    | .numbered number => .record [("number", Wire.encode number)]
    | .inHierarchy hierarchy => .record [("hierarchy", Wire.encode hierarchy)]
  decode? value := do
    match ← value.asTagged? with
    | ("number", value) => (Wire.decode? value).map Replica.numbered
    | ("hierarchy", value) => (Wire.decode? value).map Replica.inHierarchy
    | _ => none

instance : Wire AttributeMap where
  encode map := .record (map.entries.map fun (key, value) => (key, Wire.encode value))
  decode? value := value.asTextMap?.map AttributeMap.ofList

instance : Wire ReplicaUpdate where
  encode update := .record
    [ ("data_object", Wire.encode update.object), ("replica", Wire.encode update.replica),
      ("attributes", Wire.encode update.attributes) ]
  decode? value := do
    let [object, replica, attributes] ←
      value.asRecord? ["data_object", "replica", "attributes"] | none
    let object ← Json.required? Wire.decode? object
    let replica ← Json.required? Wire.decode? replica
    let attributes ← Json.required? Wire.decode? attributes
    some { object, replica, attributes }

end GridAdmin
