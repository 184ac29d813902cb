import GridAdmin.Gateway.Envelope
import GridAdmin.Gateway.Message

/-!
# Sessions of the gateway

An open session turns every call into one request and reads the response to
it. Both halves are plain functions: `Session.request` says what is sent, and
`Session.exchange` what the response to it means. A call without a reply
leaves no diagnostics behind, even where its body holds some.

`Session.Log` is a session together with the error stack that its calls have
left behind.

## Main definitions

* `Session.request`, `Session.exchange`: the two halves of a call.
* `Session.perform`: a call over the network.
* `Session.Log.call`: a call whose diagnostics are kept.
-/

namespace GridAdmin

open Gateway (Method Request Response)

/-- An open session. -/
structure Session where
  base : Url
  user : UserIdentity
  /-- The identifier of the client that opened the session. -/
  identifier : String
  token : String
  /-- How long to wait for each response, in seconds. -/
  timeout : Nat
  deriving DecidableEq, Repr

/-! ## Requests -/

namespace Call

/-- The method of the request for a call. -/
def method : Call → Method
  | .generalAdmin _ | .userAdmin _ | .simpleQuery _ | .generalQuery _ _ | .modifyReplica _ =>
      .post
  | .gridConfiguration _ _ => .get
  | .disconnect => .delete

/-- The resource that a call is about. -/
def path : Call → List Char
  | .generalAdmin _ => "/v1/admin/general".toList
  | .userAdmin _ => "/v1/admin/user".toList
  | .simpleQuery _ => "/v1/query/simple".toList
  | .generalQuery _ _ => "/v1/query/general".toList
  | .modifyReplica _ => "/v1/replicas/modify".toList
  | .gridConfiguration scope option =>
      "/v1/grid-configuration/".toList ++ scope.toList ++ '/' :: option.toList
  | .disconnect => Gateway.sessionPath

/-- The hint of a query, as a field that may be left out. -/
def hintField : Option String → List (String × Json)
  | some zone => [("zone_hint", .text zone)]
  | none => []

/-- The body of the request for a call. -/
def body? : Call → Option Json
  | .generalAdmin request | .userAdmin request =>
      some (.record [("args", Wire.encode request)])
  | .simpleQuery query => some (Wire.encode query)
  | .generalQuery query zoneHint =>
      some (.record (("query", .text query) :: hintField zoneHint))
  | .modifyReplica update => some (Wire.encode update)
  | .gridConfiguration _ _ | .disconnect => none

end Call

namespace Session

/-- The request for a call. -/
def request (session : Session) (call : Call) : Except ClientError Request := do
  let address ← Gateway.address session.base call.path
  return {
    method := call.method
    address
    identifier := session.identifier
    token := some session.token
    body := call.body?.map Json.compactText
    timeout := session.timeout }

/-! ## Responses -/

/-- A call that ended without a reply. -/
def failed {call : Call} (error : ClientError) : Exchange call :=
  ⟨[], .error error⟩

/-- What the body of a successful response means. -/
def exchangeOfBody (request : Request) (call : Call) (body : String) : Exchange call :=
  match Envelope.read? call body with
  | some (reply, errors) => ⟨errors, .ok reply⟩
  | none => failed (.decode call.operation (Gateway.undecodable request))

/-- What a response to the end of a session means. A session that is not known
any more is closed, too. -/
def exchangeOfClosing (response : Response) : Exchange .disconnect :=
  if response.isSuccess ∨ response.status = 404 then ⟨[], .ok ()⟩
  else failed (.protocol .disconnect response.status)

/-- What a response to the request for a call means. -/
def exchangeOfResponse (request : Request) (response : Response) : (call : Call) → Exchange call
  | .disconnect => exchangeOfClosing response
  | call =>
      if response.isSuccess then exchangeOfBody request call response.body
      else failed (.protocol call.operation response.status)

/-- What became of the request for a call. -/
def exchange (request : Request) (call : Call) : Except String Response → Exchange call
  | .ok response => exchangeOfResponse request response call
  | .error cause => failed (.transport call.operation cause)

/-! ## Calls -/

/-- Make one call. -/
def perform (session : Session) (call : Call) : Proc Gateway.interface (Exchange call) :=
  match session.request call with
  | .ok request => do
      let answer ← Gateway.send request
      return exchange request call answer
  | .error e => .done (failed e)

/-- A session and the diagnostics that were not printed yet. -/
structure Log where
  session : Session
  stack : ErrorStack := []
  deriving DecidableEq, Repr

namespace Log

/-- Make one call and keep its diagnostics. -/
def call (log : Log) (call : Call) :
    Proc Gateway.interface (Except ClientError call.Reply × Log) := do
  let exchange ← log.session.perform call
  return (exchange.result, { log with stack := log.stack ++ exchange.pushed })

/-- Forget the diagnostics. -/
def clear (log : Log) : Log :=
  { log with stack := [] }

end Log

end Session

end GridAdmin
