import GridAdmin.Wire.Service

/-!
# Reply envelopes

The reply to a call of an open session is one JSON object: the fields of the
reply itself, and beside them an optional list of diagnostics under `errors`.
Because the reply shares its object with that list, an envelope is never
written as an array, and everything in it must be a plain value, even in fields
that nobody reads.

## Main definitions

* `Call.replyOfFields?`: the reply that known fields hold.
* `Envelope.read?`: the reply and the diagnostics that a body holds.
-/

namespace GridAdmin

/-! ## Replies -/

/-- The names of the fields that the reply to a call may have. -/
def Call.replyFields : Call → List String
  | .generalAdmin _ | .userAdmin _ | .modifyReplica _ => ["status"]
  | .simpleQuery _ => SimpleReply.fieldNames
  | .generalQuery _ _ => GeneralReply.fieldNames
  | .gridConfiguration _ _ => GridValue.fieldNames
  | .disconnect => []

/-- A bare status. -/
def Status.ofFields? : List (Option Json) → Option Status
  | [status] => Json.required? Wire.decode? status
  | _ => none

/-- The reply to a call that known fields hold. -/
def Call.replyOfFields? : (call : Call) → List (Option Json) → Option call.Reply
  | .generalAdmin _ | .userAdmin _ | .modifyReplica _ => Status.ofFields?
  | .simpleQuery _ => SimpleReply.ofFields?
  | .generalQuery _ _ => GeneralReply.ofFields?
  | .gridConfiguration _ _ => GridValue.ofFields?
  | .disconnect => fun _ => some ()

/-! ## Envelopes -/

namespace Envelope

/-- The name of the field for diagnostics. -/
def errorsField : String := "errors"

/-- How deep a value inside an envelope may be nested. -/
def depthLimit : Nat := 126

/-- A field that may stand in an envelope. -/
def isAdmissible (field : Json.Literal × Json) : Bool :=
  field.1.isSome && field.2.isPlain && decide (field.2.depth ≤ depthLimit)

/-- The diagnostics of an envelope; none of them without the field. -/
def diagnostics? (fields : List (Json.Literal × Json)) : Option (List Diagnostic) := do
  let errors ← Json.fieldOf? errorsField fields
  Json.orElse? [] Wire.decode? errors

/-- The fields beside the diagnostics. -/
def replyPart (fields : List (Json.Literal × Json)) : List (Json.Literal × Json) :=
  fields.filter fun field => decide (field.1 ≠ some errorsField)

/-- The reply to a call, and the diagnostics beside it. -/
def ofJson? (call : Call) : Json → Option (call.Reply × List Diagnostic)
  | .object fields => do
      let errors ← diagnostics? fields
      let part := replyPart fields
      if part.all isAdmissible = false then none
      let known ← Json.asObject? call.replyFields (.object part)
      let reply ← call.replyOfFields? known
      some (reply, errors)
  | _ => none

/-- The reply to a call and the diagnostics that a body holds. -/
def read? (call : Call) (body : String) : Option (call.Reply × List Diagnostic) :=
  (Json.read? body).bind (ofJson? call)

end Envelope

end GridAdmin
