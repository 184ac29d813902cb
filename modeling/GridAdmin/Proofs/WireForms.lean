import GridAdmin.Proofs.JsonText
import GridAdmin.Wire.Service

/-!
# What travels arrives

A wire form has a writer and a reader, and the reader is the more liberal one:
fields may be missing, others may be there, a record may be an array. This
module ties the two together, type by type, and then carries the tie over to
text by `Json.read?_compactText`.

The tie is a class, so that the form of a record follows from the forms of its
fields. Three forms need an argument of their own. An integer is read back
because the bounds of its type are the ones that its reader checks; a record,
because no two of its fields have one name, so that each name finds its own
value and no other; and the attributes of a replica, because a map is rebuilt
from its own entries.

## Main definitions

* `LawfulWire`: the reader of a wire form finds the value that was written.

## Main results

* `Json.asRecord?_record`: a record whose names differ is read by those names.
* `Wire.read?_write`: a lawful wire form is read back from its text.
* `wireText_readsBack`: all that travels is.
-/

namespace GridAdmin

/-! ## Wire forms that read back what they write -/

/-- A wire form whose reader finds the value that was written. -/
class LawfulWire (α : Type) [Wire α] : Prop where
  decode?_encode : ∀ value : α, Wire.decode? (Wire.encode value) = some value

open LawfulWire (decode?_encode)

/-- Whatever the wire form, its text is read back if its JSON value is. -/
theorem Wire.read?_write {α : Type} [Wire α] [LawfulWire α] (value : α) :
    Wire.read? (Wire.write value) = some value := by
  rw [Wire.read?, Wire.write, Json.read?_compactText, Option.bind_some, decode?_encode]

/-! ## Integers and texts -/

theorem Json.asInt?_int {low high i : Int} (hLow : low ≤ i) (hHigh : i ≤ high) :
    (Json.int i).asInt? low high = some i := by
  rw [Json.int, Json.asInt?, Text.within?, if_pos ⟨hLow, hHigh⟩]

instance : LawfulWire String where
  decode?_encode _ := rfl

instance : LawfulWire Int32 where
  decode?_encode i := by
    have hLow : -2147483648 ≤ i.toInt := i.le_toInt
    have hHigh : i.toInt ≤ 2147483647 := i.toInt_le
    show ((Json.int i.toInt).asInt? _ _).map Int32.ofInt = some i
    rw [Json.asInt?_int hLow hHigh, Option.map_some, Int32.ofInt_toInt]

instance : LawfulWire Int64 where
  decode?_encode i := by
    have hLow : -9223372036854775808 ≤ i.toInt := i.le_toInt
    have hHigh : i.toInt ≤ 9223372036854775807 := i.toInt_le
    show ((Json.int i.toInt).asInt? _ _).map Int64.ofInt = some i
    rw [Json.asInt?_int hLow hHigh, Option.map_some, Int64.ofInt_toInt]

instance : LawfulWire UInt8 where
  decode?_encode n := by
    have hHigh : (n.toNat : Int) ≤ 255 := by have hBelow := n.toNat_lt; omega
    show ((Json.int n.toNat).asInt? _ _).map (fun i => UInt8.ofNat i.toNat) = some n
    rw [Json.asInt?_int (by omega) hHigh, Option.map_some, Int.toNat_natCast, UInt8.ofNat_toNat]

instance : LawfulWire UInt32 where
  decode?_encode n := by
    have hHigh : (n.toNat : Int) ≤ 4294967295 := by have hBelow := n.toNat_lt; omega
    show ((Json.int n.toNat).asInt? _ _).map (fun i => UInt32.ofNat i.toNat) = some n
    rw [Json.asInt?_int (by omega) hHigh, Option.map_some, Int.toNat_natCast, UInt32.ofNat_toNat]

/-! ## Lists -/

instance {α : Type} [Wire α] [LawfulWire α] : LawfulWire (List α) where
  decode?_encode values := by
    show (values.map Wire.encode).mapM Wire.decode? = some values
    induction values with
    | nil => rfl
    | cons value rest ih => simp [decode?_encode, ih]

instance : LawfulWire Status where
  decode?_encode s := by
    show (Wire.decode? (Wire.encode s.code)).map Status.mk = some s
    rw [decode?_encode, Option.map_some]

instance {width : Nat} : LawfulWire (Slots width) where
  decode?_encode row := by
    show ((Wire.decode? (Wire.encode row.cells)).bind fun cells =>
      if hLength : cells.length = width then some (⟨cells, hLength⟩ : Slots width) else none)
        = some row
    rw [decode?_encode, Option.bind_some, dif_pos row.length_cells]

/-! ## Records -/

namespace Json

/-- The fields of the object that `record` makes. -/
theorem record_eq_object (fields : List (String × Json)) :
    record fields = .object (fields.map fun (key, value) => (some key, value)) :=
  rfl

theorem valuesOf_cons (name key : String) (value : Json) (fields : List (Literal × Json)) :
    valuesOf name ((some key, value) :: fields)
      = if key = name then value :: valuesOf name fields else valuesOf name fields := by
  by_cases hSame : key = name
  · simp [valuesOf, hSame]
  · simp [valuesOf, hSame]

private theorem valuesOf_of_not_mem {name : String} {fields : List (String × Json)}
    (hOther : name ∉ fields.map (·.1)) :
    valuesOf name (fields.map fun (key, value) => (some key, value)) = [] := by
  induction fields with
  | nil => rfl
  | cons field rest ih =>
      rw [List.map_cons, List.mem_cons, not_or] at hOther
      rw [List.map_cons, valuesOf_cons, if_neg (Ne.symm hOther.1), ih hOther.2]

private theorem valuesOf_of_mem {fields : List (String × Json)} {field : String × Json}
    (hNames : (fields.map (·.1)).Nodup) (hMem : field ∈ fields) :
    valuesOf field.1 (fields.map fun (key, value) => (some key, value)) = [field.2] := by
  induction fields with
  | nil => exact absurd hMem List.not_mem_nil
  | cons first rest ih =>
      rw [List.map_cons, List.nodup_cons] at hNames
      rw [List.map_cons, valuesOf_cons]
      rcases List.mem_cons.mp hMem with hFirst | hLater
      · rw [hFirst, if_pos rfl, valuesOf_of_not_mem hNames.1]
      · have hOther : first.1 ≠ field.1 := by
          intro hSame
          exact hNames.1 (hSame ▸ List.mem_map_of_mem hLater)
        rw [if_neg hOther, ih hNames.2 hLater]

/-- A record whose names differ is read by those names. -/
theorem asRecord?_record (fields : List (String × Json)) (hNames : (fields.map (·.1)).Nodup) :
    (record fields).asRecord? (fields.map (·.1)) = some (fields.map fun field => some field.2) := by
  have hKeys : (fields.map fun (key, value) => ((some key : Literal), value)).all
      (fun field => field.1.isSome) = true := by simp
  have hEach : ∀ field ∈ fields,
      fieldOf? field.1 (fields.map fun (key, value) => (some key, value))
        = some (some field.2) := by
    intro field hMem
    rw [fieldOf?, valuesOf_of_mem hNames hMem]
  have hPart : ∀ part : List (String × Json), (∀ field ∈ part, field ∈ fields) →
      (part.map (·.1)).mapM
          (fun name => fieldOf? name (fields.map fun (key, value) => (some key, value)))
        = some (part.map fun field => some field.2) := by
    intro part hSub
    induction part with
    | nil => rfl
    | cons field rest ih =>
        have hHead := hEach field (hSub field List.mem_cons_self)
        have hRest := ih fun other hMem => hSub other (List.mem_cons_of_mem _ hMem)
        simp [hHead, hRest]
  rw [record_eq_object, asRecord?, asObject?, if_pos hKeys]
  · exact hPart fields fun _ hMem => hMem
  · nofun

end Json

/-! ## Fields of a record -/

section

variable {α : Type} [Wire α] [LawfulWire α] (value : α)

@[simp] theorem required?_encode :
    Json.required? Wire.decode? (some (Wire.encode value)) = some value :=
  decode?_encode value

@[simp] theorem orElse?_encode (default : α) :
    Json.orElse? default Wire.decode? (some (Wire.encode value)) = some value :=
  decode?_encode value

end

instance : LawfulWire Diagnostic where
  decode?_encode d := by
    have hFields : (Wire.encode d).asRecord? ["status", "message"]
        = some [some (Wire.encode d.status), some (Wire.encode d.message)] :=
      Json.asRecord?_record _ (by simp)
    show ((Wire.encode d).asRecord? ["status", "message"]).bind _ = some d
    rw [hFields]
    simp

instance : LawfulWire UserIdentity where
  decode?_encode user := by
    have hFields : (Wire.encode user).asRecord? ["name", "zone"]
        = some [some (Wire.encode user.name), some (Wire.encode user.zone)] :=
      Json.asRecord?_record _ (by simp)
    show ((Wire.encode user).asRecord? ["name", "zone"]).bind _ = some user
    rw [hFields]
    simp

/-! ## Queries -/

instance : LawfulWire SimpleQuery where
  decode?_encode query := by
    have hFields : (Wire.encode query).asRecord? ["sql", "args", "form", "control", "max_buf_size"]
        = some [some (Wire.encode query.sql), some (Wire.encode query.args),
            some (Wire.encode query.form), some (Wire.encode query.control),
            some (Wire.encode query.maxBufSize)] :=
      Json.asRecord?_record _ (by simp)
    show ((Wire.encode query).asRecord? ["sql", "args", "form", "control", "max_buf_size"]).bind _
      = some query
    rw [hFields]
    simp

instance : LawfulWire SimpleReply where
  decode?_encode reply := by
    have hFields : (Wire.encode reply).asRecord? SimpleReply.fieldNames
        = some [some (Wire.encode reply.status), some (Wire.encode reply.outBuf),
            some (Wire.encode reply.control)] :=
      Json.asRecord?_record _ (by simp)
    show ((Wire.encode reply).asRecord? SimpleReply.fieldNames).bind SimpleReply.ofFields?
      = some reply
    rw [hFields]
    simp [SimpleReply.ofFields?]

instance : LawfulWire GeneralReply where
  decode?_encode reply := by
    have hFields : (Wire.encode reply).asRecord? GeneralReply.fieldNames
        = some [some (Wire.encode reply.status), some (Wire.encode reply.rows)] :=
      Json.asRecord?_record _ (by simp)
    show ((Wire.encode reply).asRecord? GeneralReply.fieldNames).bind GeneralReply.ofFields?
      = some reply
    rw [hFields]
    simp [GeneralReply.ofFields?]

instance : LawfulWire GridValue where
  decode?_encode reply := by
    have hFields : (Wire.encode reply).asRecord? GridValue.fieldNames
        = some [some (Wire.encode reply.status), some (Wire.encode reply.value)] :=
      Json.asRecord?_record _ (by simp)
    show ((Wire.encode reply).asRecord? GridValue.fieldNames).bind GridValue.ofFields? = some reply
    rw [hFields]
    simp [GridValue.ofFields?]

/-! ## Replicas -/

instance : LawfulWire DataObject where
  decode?_encode object := by
    cases object with
    | withId id =>
        show (Wire.decode? (Wire.encode id)).map DataObject.withId = _
        rw [decode?_encode, Option.map_some]
    | atPath path =>
        show (Wire.decode? (Wire.encode path)).map DataObject.atPath = _
        rw [decode?_encode, Option.map_some]

instance : LawfulWire Replica where
  decode?_encode replica := by
    cases replica with
    | numbered number =>
        show (Wire.decode? (Wire.encode number)).map Replica.numbered = _
        rw [decode?_encode, Option.map_some]
    | inHierarchy hierarchy =>
        show (Wire.decode? (Wire.encode hierarchy)).map Replica.inHierarchy = _
        rw [decode?_encode, Option.map_some]

private theorem Json.asTextMap?_record (entries : List (String × String)) :
    (Json.record (entries.map fun (key, value) => (key, Wire.encode value))).asTextMap?
      = some entries := by
  rw [Json.record_eq_object, Json.asTextMap?, List.map_map]
  induction entries with
  | nil => rfl
  | cons entry rest ih =>
      have hText : (Wire.encode entry.2).asText? = some entry.2 := decode?_encode entry.2
      simp only [List.map_cons, List.mapM_cons, ih, Function.comp_apply, hText]
      rfl

instance : LawfulWire AttributeMap where
  decode?_encode map := by
    show (Json.record (map.entries.map fun (key, value) => (key, Wire.encode value))).asTextMap?.map
      AttributeMap.ofList = some map
    rw [Json.asTextMap?_record, Option.map_some, AttributeMap.ofList_entries]

instance : LawfulWire ReplicaUpdate where
  decode?_encode update := by
    have hFields : (Wire.encode update).asRecord? ["data_object", "replica", "attributes"]
        = some [some (Wire.encode update.object), some (Wire.encode update.replica),
            some (Wire.encode update.attributes)] :=
      Json.asRecord?_record _ (by simp)
    show ((Wire.encode update).asRecord? ["data_object", "replica", "attributes"]).bind _
      = some update
    rw [hFields]
    simp

/-! ## All that travels -/

/-- Every request, every reply and every part of them is read back from the text that was sent. -/
theorem wireText_readsBack :
    (∀ request : AdminRequest, Wire.read? (Wire.write request) = some request)
    ∧ (∀ d : Diagnostic, Wire.read? (Wire.write d) = some d)
    ∧ (∀ user : UserIdentity, Wire.read? (Wire.write user) = some user)
    ∧ (∀ query : SimpleQuery, Wire.read? (Wire.write query) = some query)
    ∧ (∀ reply : SimpleReply, Wire.read? (Wire.write reply) = some reply)
    ∧ (∀ reply : GeneralReply, Wire.read? (Wire.write reply) = some reply)
    ∧ (∀ object : DataObject, Wire.read? (Wire.write object) = some object)
    ∧ (∀ replica : Replica, Wire.read? (Wire.write replica) = some replica)
    ∧ (∀ update : ReplicaUpdate, Wire.read? (Wire.write update) = some update)
    ∧ (∀ reply : GridValue, Wire.read? (Wire.write reply) = some reply) :=
  ⟨Wire.read?_write, Wire.read?_write, Wire.read?_write, Wire.read?_write, Wire.read?_write,
    Wire.read?_write, Wire.read?_write, Wire.read?_write, Wire.read?_write, Wire.read?_write⟩

end GridAdmin
