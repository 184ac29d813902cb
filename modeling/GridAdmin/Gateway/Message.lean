import GridAdmin.Proc
import GridAdmin.Service.Call
import GridAdmin.Url.Reader

/-!
# Messages to and from the gateway

The gateway speaks HTTP. A request names a method and an address, carries the
request identifier of the program and, once a session is open, the token of
the session; a body is JSON text. A response has a status and a body.

`Gateway.interface` is all that the client needs of the network: a fresh
identifier, and the response to a request. The response is the final one: where
the server redirects, it is the network that follows, and the client learns
nothing of what came in between.

## Main definitions

* `Gateway.Request`, `Gateway.Response`, `Gateway.interface`: the messages.
* `Gateway.address`: the address of a resource of the gateway.
* `Gateway.refusal?`: why a request cannot be sent at all.
-/

namespace GridAdmin.Gateway

/-! ## Requests and responses -/

/-- The methods that the client uses. -/
inductive Method where
  | get
  | post
  | delete
  deriving DecidableEq, Repr

/-- The name of a method in a request. -/
def Method.name : Method → String
  | .get => "GET"
  | .post => "POST"
  | .delete => "DELETE"

/-- A request. -/
structure Request where
  method : Method
  address : Url
  /-- The identifier that all requests of one client share. -/
  identifier : String
  /-- The token of an open session. -/
  token : Option String
  /-- JSON text. -/
  body : Option String
  /-- How long to wait for the response, in seconds. -/
  timeout : Nat
  deriving DecidableEq, Repr

/-- The final response to a request, behind all redirections. A body that is cut
off, or whose bytes are no text, is told as the empty text, which cannot be decoded
either. One difference is lost: bytes that are no text would do no harm in a field
that nothing reads. -/
structure Response where
  status : Nat
  body : String
  deriving DecidableEq, Repr

/-- The status tells of success. -/
def Response.isSuccess (response : Response) : Bool :=
  decide (200 ≤ response.status ∧ response.status ≤ 299)

/-! ## Interface -/

/-- What the client asks of the network. -/
inductive Query where
  /-- An identifier that no other client has. -/
  | identifier
  | send (request : Request)
  deriving DecidableEq

/-- The answers. A request without a response is answered with the reason. -/
abbrev Query.Answer : Query → Type
  | .identifier => String
  | .send _ => Except String Response

/-- The network. -/
def interface : Interface := ⟨Query, Query.Answer⟩

/-! ## Addresses -/

/-- The address of the resource at `path`, which begins with one slash. The
error names the address that was meant. -/
def address (base : Url) (path : List Char) : Except ClientError Url :=
  match base.join path with
  | .ok url => .ok url
  | .error e =>
      .error (.endpoint (String.ofList (base.text ++ path.dropWhile (· = '/'))) e.message)

/-- The resource that tells about the server. -/
def serverPath : List Char := "/v1/server".toList

/-- The resource that stands for the session. -/
def sessionPath : List Char := "/v1/session".toList

/-! ## Sending -/

/-- A character that a header may hold. -/
def isHeaderChar (c : Char) : Bool :=
  decide ((0x20 ≤ c.toNat ∧ c ≠ '\x7f') ∨ c = '\t')

/-- A text that can be the value of a header. -/
def isHeaderText (text : String) : Bool :=
  text.toList.all isHeaderChar

/-- The schemes that requests are sent by. -/
def isHttp (scheme : List Char) : Bool :=
  decide (scheme = "http".toList ∨ scheme = "https".toList)

/-- The address of a request in messages. -/
def Request.place (request : Request) : String :=
  "for url (" ++ String.ofList request.address.text ++ ")"

/-- Why a request cannot be sent at all. -/
def refusal? (request : Request) : Option String :=
  if (request.token.map isHeaderText).getD true = false then
    some "builder error: failed to parse header value"
  else if isHttp request.address.scheme = false then
    some ("builder error " ++ request.place ++ ": URL scheme is not allowed")
  else none

/-- Send a request and take the final response to it. A request that cannot be
sent is never handed to the network, and what the network sends in order to follow
a redirection is no request of the client. -/
def send (request : Request) : Proc interface (Except String Response) :=
  match refusal? request with
  | some cause => .done (.error cause)
  | none => do
      match ← Proc.query (I := interface) (.send request) with
      | .ok response => return .ok response
      | .error cause =>
          return .error ("error sending request " ++ request.place ++ ": " ++ cause)

/-- The cause of a body that cannot be understood. -/
def undecodable (request : Request) : String :=
  "error decoding response body " ++ request.place

end GridAdmin.Gateway
