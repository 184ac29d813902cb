import GridAdmin.Gateway.Message
import GridAdmin.Url.Percent

/-!
# Requests and responses as bytes

The form that messages have on a connection which carries one request and one
response and is closed behind them. A response may come in chunks or with a
length, or go on until the connection is closed.

## Main definitions

* `Gateway.Request.frame`: the text of a request.
* `Gateway.Response.ofBytes?`: the response that bytes hold.
-/

namespace GridAdmin.Gateway

/-! ## Requests -/

/-- The host of a request, with the port unless it is the default one. -/
def Request.hostText (request : Request) : List Char :=
  match request.address.authority with
  | none => []
  | some authority => { authority with user := [], password := [] }.text

/-- One header line. -/
def headerLine (name value : String) : String :=
  name ++ ": " ++ value ++ "\r\n"

/-- The header lines that tell of a body. -/
def bodyHeaders (body : String) : String :=
  headerLine "content-type" "application/json"
    ++ headerLine "content-length" (String.ofList (Text.natText body.utf8ByteSize))

/-- A part of a request that may be missing. -/
def optional (part : String → String) : Option String → String
  | some value => part value
  | none => ""

/-- The text of a request. -/
def Request.frame (request : Request) : String :=
  request.method.name ++ " " ++ String.ofList request.address.target ++ " HTTP/1.1\r\n"
    ++ headerLine "host" (String.ofList request.hostText)
    ++ headerLine "x-request-id" request.identifier
    ++ optional (headerLine "x-strata-session") request.token
    ++ headerLine "accept" "*/*"
    ++ headerLine "connection" "close"
    ++ optional bodyHeaders request.body
    ++ "\r\n" ++ optional id request.body

/-! ## Responses -/

/-- Cut behind the header lines, at the first empty line. -/
def cutHead : List UInt8 → Option (List UInt8 × List UInt8)
  | 13 :: 10 :: 13 :: 10 :: body => some ([], body)
  | byte :: rest => (cutHead rest).map fun (head, body) => (byte :: head, body)
  | [] => none

/-- Bytes as characters, each byte one character. -/
def latinText (bytes : List UInt8) : List Char :=
  bytes.map fun byte => Char.ofNat byte.toNat

/-- The lines of a head. -/
def headLines (head : List UInt8) : List (List Char) :=
  (latinText head).splitOn '\n' |>.map (Text.dropEndWhile (· = '\r'))

/-- The status on the first line: the number behind the first blank. -/
def statusOfLine? (line : List Char) : Option Nat :=
  match Text.cutAt ' ' line with
  | some (_, rest) => Text.readNat? (Text.before ' ' rest)
  | none => none

/-- The name of a header in lower case, and its value. -/
def headerOfLine? (line : List Char) : Option (List Char × List Char) :=
  (Text.cutAt ':' line).map fun (name, value) =>
    (Text.toLowerAscii name, Text.dropEndWhile (· = ' ') (value.dropWhile (· = ' ')))

/-- The value of the header called `name`. -/
def header? (name : String) (lines : List (List Char)) : Option (List Char) :=
  ((lines.filterMap headerOfLine?).find? fun header => header.1 = name.toList).map (·.2)

/-- A number in hexadecimal digits. -/
def readHex? (cs : List Char) : Option Nat :=
  if cs = [] then none
  else (cs.mapM Percent.hexValue?).map fun digits => digits.foldl (fun n d => n * 16 + d) 0

/-- Cut at the first line break. -/
def cutLine : List UInt8 → Option (List UInt8 × List UInt8)
  | 13 :: 10 :: rest => some ([], rest)
  | byte :: rest => (cutLine rest).map fun (line, rest) => (byte :: line, rest)
  | [] => none

/-- The size of a chunk, in front of its extensions. -/
def chunkSize? (line : List UInt8) : Option Nat :=
  readHex? (Text.dropEndWhile (· = ' ') (Text.before ';' (latinText line)))

/-- Join the chunks of a body. Each chunk takes up bytes, so their number is
fuel enough. -/
def joinChunks : Nat → List UInt8 → Option (List UInt8)
  | 0, _ => none
  | fuel + 1, bytes => do
      let (line, rest) ← cutLine bytes
      let size ← chunkSize? line
      if size = 0 then some []
      else
        if rest.length < size + 2 then none
        else (joinChunks fuel (rest.drop (size + 2))).map (rest.take size ++ ·)

/-- The bytes of a body, as the header lines announce them. -/
def bodyBytes? (lines : List (List Char)) (bytes : List UInt8) : Option (List UInt8) :=
  if header? "transfer-encoding" lines = some "chunked".toList then
    joinChunks (bytes.length + 1) bytes
  else
    match (header? "content-length" lines).bind Text.readNat? with
    | some length => if bytes.length < length then none else some (bytes.take length)
    | none => some bytes

/-- The response that bytes hold. -/
def Response.ofBytes? (bytes : List UInt8) : Option Response := do
  let (head, rest) ← cutHead bytes
  let lines := headLines head
  let status ← lines.head?.bind statusOfLine?
  let body ← bodyBytes? lines rest
  some { status, body := (String.fromUTF8? ⟨body.toArray⟩).getD "" }

end GridAdmin.Gateway
