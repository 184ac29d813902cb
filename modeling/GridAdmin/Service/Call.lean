import GridAdmin.Diagnostic
import GridAdmin.Service.Request

/-!
# Calls on the service

The shell uses seven calls on an open session. A call either ends in a reply
or in a `ClientError`; a refusal by the service is no error but a failure
status inside the reply. Whatever its end, a call may leave diagnostics
behind, and `Exchange` keeps both together.

## Main definitions

* `Call`, `Call.Reply`: the calls, and the type of reply that each one has.
* `ClientError`: why a call can end without a reply.
* `Exchange`: all that the shell learns from one call.
-/

namespace GridAdmin

/-! ## Replies -/

/-- One page of an SQL query. -/
structure SimpleReply where
  status : Status
  /-- Lines of output, each closed by a newline. -/
  outBuf : String
  /-- The cursor of the next page; positive when there is one. -/
  control : Int32
  deriving DecidableEq, Repr

/-- The rows that a general query selected, one text for each column. -/
structure GeneralReply where
  status : Status
  rows : List (List String)
  deriving DecidableEq, Repr

/-- The value of a grid configuration option. -/
structure GridValue where
  status : Status
  value : String
  deriving DecidableEq, Repr

/-! ## Failed calls -/

/-- What a request was for. -/
inductive Operation where
  | serverProbe
  | login
  | generalAdmin
  | userAdmin
  | simpleQuery
  | generalQuery
  | modifyReplica
  | gridConfiguration
  | disconnect
  deriving DecidableEq, Repr

/-- The name of an operation in messages. -/
def Operation.name : Operation → String
  | .serverProbe => "server probe"
  | .login => "login"
  | .generalAdmin => "general admin"
  | .userAdmin => "user admin"
  | .simpleQuery => "simple query"
  | .generalQuery => "general query"
  | .modifyReplica => "modify replica"
  | .gridConfiguration => "grid configuration"
  | .disconnect => "disconnect"

/-- Why a call ended without a reply. A `cause` is the text of whatever failed
underneath. -/
inductive ClientError where
  /-- The server could not be reached when the session was opened. -/
  | connect (address cause : String)
  /-- The server rejected the credentials. -/
  | authentication (user : UserIdentity)
  /-- A request of an open session failed in flight. -/
  | transport (operation : Operation) (cause : String)
  /-- The server answered with an unexpected HTTP status. -/
  | protocol (operation : Operation) (httpStatus : Nat)
  /-- The body of the reply could not be understood. -/
  | decode (operation : Operation) (cause : String)
  /-- No address could be formed. -/
  | endpoint (address cause : String)
  deriving DecidableEq, Repr

namespace ClientError

/-- The message, without the cause. -/
def message : ClientError → String
  | .connect address _ => "failed to connect to " ++ address
  | .authentication user => "authentication failed for " ++ user.text
  | .transport operation _ => "request to " ++ operation.name ++ " failed"
  | .protocol operation httpStatus =>
      operation.name ++ " returned HTTP " ++ String.ofList (Text.natText httpStatus)
  | .decode operation _ => "failed to decode " ++ operation.name ++ " reply"
  | .endpoint address _ => "invalid endpoint " ++ address

/-- The text of what failed underneath, if that is something of its own. -/
def cause? : ClientError → Option String
  | .connect _ cause | .transport _ cause | .decode _ cause | .endpoint _ cause => some cause
  | .authentication _ | .protocol _ _ => none

/-- The message followed by its cause. -/
def report (e : ClientError) : String :=
  match e.cause? with
  | some cause => e.message ++ ": " ++ cause
  | none => e.message

/-- The status recorded for a call that never obtained one. -/
def status : ClientError → Status
  | .connect _ _ | .transport _ _ => .connectError
  | .authentication _ => .invalidAuthentication
  | .protocol _ _ | .decode _ _ | .endpoint _ _ => .unknownError

theorem status_isFailure (e : ClientError) : e.status.isFailure = true := by
  cases e <;> rfl

end ClientError

/-! ## Calls -/

/-- A call on an open session. -/
inductive Call where
  | generalAdmin (request : AdminRequest)
  /-- The older form of the same request, for users who may not use the general one. -/
  | userAdmin (request : AdminRequest)
  | simpleQuery (query : SimpleQuery)
  /-- A query in the catalog's own language, sent on to the zone of the hint. -/
  | generalQuery (query : String) (zoneHint : Option String)
  | modifyReplica (update : ReplicaUpdate)
  | gridConfiguration (scope option : String)
  | disconnect
  deriving DecidableEq

namespace Call

/-- What a call answers when it ends in a reply. -/
abbrev Reply : Call → Type
  | .generalAdmin _ | .userAdmin _ | .modifyReplica _ => Status
  | .simpleQuery _ => SimpleReply
  | .generalQuery _ _ => GeneralReply
  | .gridConfiguration _ _ => GridValue
  | .disconnect => Unit

/-- What the call is for. -/
def operation : Call → Operation
  | .generalAdmin _ => .generalAdmin
  | .userAdmin _ => .userAdmin
  | .simpleQuery _ => .simpleQuery
  | .generalQuery _ _ => .generalQuery
  | .modifyReplica _ => .modifyReplica
  | .gridConfiguration _ _ => .gridConfiguration
  | .disconnect => .disconnect

end Call

/-- All that the shell learns from one call. -/
structure Exchange (call : Call) where
  /-- Diagnostics that the call left on the error stack. -/
  pushed : List Diagnostic
  result : Except ClientError call.Reply

end GridAdmin
