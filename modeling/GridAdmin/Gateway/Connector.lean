import GridAdmin.Environment
import GridAdmin.Gateway.Session

/-!
# Opening a session

A session is opened in two steps. The probe asks the server who it is and
needs no credentials; the login hands over user, zone and password and gets a
token. A server that cannot be reached fails the step with a connection error,
a login that the server turns down with an authentication error.

The replies to both steps are plain records, so they may also be written as
arrays.

In front of both steps there is only an identifier to be made. That the means of
sending requests might not be set up at all is left out: it would end the run with
2, as a server does that cannot be reached.

## Main definitions

* `Connector.make`: a client with an identifier of its own.
* `Connector.probe`, `Connector.login`: the two steps.
-/

namespace GridAdmin

open Gateway (Request Response)

/-- A client that has no session yet. -/
structure Connector where
  base : Url
  user : UserIdentity
  identifier : String
  /-- How long to wait for each response, in seconds. -/
  timeout : Nat
  deriving DecidableEq, Repr

namespace Connector

/-- A client for a target. Making it cannot fail, for there is nothing to be set up
before the first request. -/
def make (target : Target) : Proc Gateway.interface Connector := do
  let identifier ← Proc.query (I := Gateway.interface) .identifier
  return { base := target.baseUrl, user := target.user, identifier, timeout := target.timeout }

/-- What became of a request before there is a session. -/
def response (connector : Connector) : Except String Response → Except ClientError Response
  | .ok response => .ok response
  | .error cause => .error (.connect (String.ofList connector.base.text) cause)

/-! ## Probe -/

/-- The request of the probe. -/
def probeRequest (connector : Connector) : Except ClientError Request := do
  let address ← Gateway.address connector.base Gateway.serverPath
  return {
    method := .get
    address
    identifier := connector.identifier
    token := none
    body := none
    timeout := connector.timeout }

/-- The version in the reply to a probe; empty when it is left out. -/
def versionOfJson? (value : Json) : Option String := do
  let [version] ← value.asRecord? ["version"] | none
  Json.orElse? "" Json.asText? version

/-- The version that the response to a probe tells. -/
def readProbe (request : Request) (response : Response) : Except ClientError String :=
  if response.isSuccess then
    match (Json.read? response.body).bind versionOfJson? with
    | some version => .ok version
    | none => .error (.decode .serverProbe (Gateway.undecodable request))
  else .error (.protocol .serverProbe response.status)

/-- Ask the server for its version. -/
def probe (connector : Connector) : Proc Gateway.interface (Except ClientError String) :=
  match connector.probeRequest with
  | .ok request => do
      let answer ← Gateway.send request
      return connector.response answer >>= readProbe request
  | .error e => .done (.error e)

/-! ## Login -/

/-- The body of a login. -/
def credentials (user : UserIdentity) (password : String) : Json :=
  .record [("user", .text user.name), ("zone", .text user.zone), ("password", .text password)]

/-- The request of a login. -/
def loginRequest (connector : Connector) (password : String) : Except ClientError Request := do
  let address ← Gateway.address connector.base Gateway.sessionPath
  return {
    method := .post
    address
    identifier := connector.identifier
    token := none
    body := some (credentials connector.user password).compactText
    timeout := connector.timeout }

/-- The token in the reply to a login. -/
def tokenOfJson? (value : Json) : Option String := do
  let [token] ← value.asRecord? ["token"] | none
  Json.required? Json.asText? token

/-- The session of a client that was given a token. -/
def session (connector : Connector) (token : String) : Session :=
  { base := connector.base
    user := connector.user
    identifier := connector.identifier
    token
    timeout := connector.timeout }

/-- The session that the response to a login opens. -/
def readLogin (connector : Connector) (request : Request) (response : Response) :
    Except ClientError Session :=
  if response.status = 401 ∨ response.status = 403 then
    .error (.authentication connector.user)
  else if response.isSuccess then
    match (Json.read? response.body).bind tokenOfJson? with
    | some token => .ok (connector.session token)
    | none => .error (.decode .login (Gateway.undecodable request))
  else .error (.protocol .login response.status)

/-- Exchange a password for a session. -/
def login (connector : Connector) (password : String) :
    Proc Gateway.interface (Except ClientError Session) :=
  match connector.loginRequest password with
  | .ok request => do
      let answer ← Gateway.send request
      return connector.response answer >>= connector.readLogin request
  | .error e => .done (.error e)

end Connector

end GridAdmin
