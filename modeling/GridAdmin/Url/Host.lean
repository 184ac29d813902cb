import GridAdmin.DomainName.Basic
import GridAdmin.Text.Decimal
import GridAdmin.Url.Percent

/-!
# Hosts of addresses

A host is a domain name, an IPv4 address or an IPv6 address. The text of a
host is brought to one form before it is told which: percent signs are decoded
and the name is written in ASCII. A name whose last label is a number is an
IPv4 address, of which the parts may be given in base eight, ten or sixteen, and
the last part fills whatever the others leave free. An IPv6 address stands in
brackets.

## Main definitions

* `Host.read`: the host of an address with a well known scheme.
* `Host.readOpaque`: the host of any other address.
* `Host.text`: the written form.
-/

namespace GridAdmin

/-- Why a text is no address. -/
inductive UrlError where
  | emptyHost
  | internationalName
  | port
  | ipv4
  | ipv6
  | domainCharacter
  | relative
  | relativeToOpaque
  deriving DecidableEq, Repr

/-- The wording of an error. -/
def UrlError.message : UrlError → String
  | .emptyHost => "empty host"
  | .internationalName => "invalid international domain name"
  | .port => "invalid port number"
  | .ipv4 => "invalid IPv4 address"
  | .ipv6 => "invalid IPv6 address"
  | .domainCharacter => "invalid domain character"
  | .relative => "relative URL without a base"
  | .relativeToOpaque => "relative URL with a cannot-be-a-base base"

/-- The host of an address. -/
inductive Host where
  | domain (name : List Char)
  /-- Four bytes as one number. -/
  | ipv4 (number : Nat)
  /-- Eight pieces of sixteen bits. -/
  | ipv6 (pieces : List Nat)
  deriving DecidableEq, Repr

namespace Host

/-! ## IPv4 -/

/-- The value of a digit, `none` unless it is less than `base`. -/
def digit? (base : Nat) (c : Char) : Option Nat :=
  (Percent.hexValue? c).filter (· < base)

/-- The number that digits of a base write. -/
def number? (base : Nat) (cs : List Char) : Option Nat :=
  cs.foldlM (fun n c => (digit? base c).map (n * base + ·)) 0

/-- The number of a part of an IPv4 address: base sixteen behind `0x`, base
eight behind another `0`, and base ten otherwise. -/
def ipv4Part? : List Char → Option Nat
  | [] => none
  | '0' :: 'x' :: rest | '0' :: 'X' :: rest => number? 16 rest
  | '0' :: c :: rest => number? 8 (c :: rest)
  | cs => number? 10 cs

/-- The labels of a name, without an empty one at the end. -/
def labels (name : List Char) : List (List Char) :=
  let parts := name.splitOn '.'
  if parts.getLast? = some [] then parts.dropLast else parts

/-- The last label of a name is a number. -/
def endsInNumber (name : List Char) : Bool :=
  match (labels name).getLast? with
  | none => false
  | some last => Text.isDigits last || (ipv4Part? last).isSome

/-- The number of parts given from the left, where the last one fills the rest. -/
def ipv4OfParts? : List Nat → Option Nat
  | [] => none
  | parts =>
      let last := parts.getLast?.getD 0
      let front := parts.dropLast
      if 4 < parts.length ∨ front.any (255 < ·) ∨ Nat.pow 256 (4 - front.length) ≤ last then none
      else some (front.zipIdx.foldl (fun n (part, i) => n + part * Nat.pow 256 (3 - i)) last)

/-- The IPv4 address that a name writes. -/
def readIpv4? (name : List Char) : Option Nat :=
  ((labels name).mapM ipv4Part?).bind ipv4OfParts?

/-! ## IPv6 -/

/-- Up to four hexadecimal digits. -/
def piece? (cs : List Char) : Option Nat :=
  if cs.isEmpty ∨ 4 < cs.length then none else number? 16 cs

/-- A byte in base ten, without leading zeros. -/
def byte? (cs : List Char) : Option Nat :=
  if cs.isEmpty ∨ (cs.head? = some '0' ∧ cs.length ≠ 1) then none
  else (number? 10 cs).filter (· ≤ 255)

/-- Four bytes between dots, as two pieces. -/
def embeddedIpv4? (cs : List Char) : Option (List Nat) := do
  match ← (cs.splitOn '.').mapM byte? with
  | [a, b, c, d] => some [a * 256 + b, c * 256 + d]
  | _ => none

/-- Pieces between colons; the last one may be an IPv4 address. -/
def pieces? : List (List Char) → Option (List Nat)
  | [] => some []
  | [last] => if last.contains '.' then embeddedIpv4? last else (piece? last).map ([·])
  | first :: rest => do return (← piece? first) :: (← pieces? rest)

/-- Cut at the first double colon. -/
def cutDouble : List Char → Option (List Char × List Char)
  | ':' :: ':' :: rest => some ([], rest)
  | c :: rest => (cutDouble rest).map fun (front, back) => (c :: front, back)
  | [] => none

/-- The pieces of one side of a double colon, which may be missing. -/
def side? (cs : List Char) : Option (List Nat) :=
  if cs.isEmpty then some [] else pieces? (cs.splitOn ':')

/-- The IPv6 address that a text writes. A double colon stands for as many zero
pieces as are missing. -/
def readIpv6? (cs : List Char) : Option (List Nat) :=
  match cutDouble cs with
  | none => (pieces? (cs.splitOn ':')).filter (·.length = 8)
  | some (front, back) => do
      if front.contains '.' then none
      let left ← side? front
      let right ← side? back
      if left.length + right.length ≤ 7 then
        some (left ++ List.replicate (8 - left.length - right.length) 0 ++ right)
      else none

/-- Length of the run of zeros at the start. -/
def zeroRun (pieces : List Nat) : Nat :=
  (pieces.takeWhile (· = 0)).length

/-- Start and length of the first longest run of zeros. -/
def longestRun (pieces : List Nat) : Nat × Nat :=
  (List.range 8).foldl (fun best i =>
    let run := zeroRun (pieces.drop i)
    if best.2 < run then (i, run) else best) (0, 0)

/-- Pieces between colons. -/
def colonText (pieces : List Nat) : List Char :=
  [':'].intercalate (pieces.map (Nat.toDigits 16))

/-- The written form of an IPv6 address. The longest run of two zeros or more
is left out. -/
def ipv6Text (pieces : List Nat) : List Char :=
  let (start, run) := longestRun pieces
  if run < 2 then colonText pieces
  else colonText (pieces.take start) ++ [':', ':'] ++ colonText (pieces.drop (start + run))

/-! ## Reading and writing -/

/-- The text that percent-encoded bytes stand for. -/
def decodedText? (cs : List Char) : Option (List Char) :=
  (String.fromUTF8? ⟨(Percent.decode cs).toArray⟩).map String.toList

/-- A text in brackets: the IPv6 address between them. -/
def readBracketed (cs : List Char) : Except UrlError Host :=
  if cs.getLast? = some ']' then
    match readIpv6? (cs.drop 1).dropLast with
    | some pieces => .ok (.ipv6 pieces)
    | none => .error .ipv6
  else .error .ipv6

/-- The host of an address with a well known scheme. -/
def read (cs : List Char) : Except UrlError Host :=
  if cs.head? = some '[' then readBracketed cs
  else
    match (decodedText? cs).bind DomainName.ascii? with
    | none => .error .internationalName
    | some [] => .error .emptyHost
    | some name =>
        if endsInNumber name then
          match readIpv4? name with
          | some number => .ok (.ipv4 number)
          | none => .error .ipv4
        else .ok (.domain name)

/-- A character that no host may hold. -/
def isForbiddenOpaque (c : Char) : Bool :=
  "\x00\t\n\r #/:<>?@[\\]^|".toList.contains c

/-- The host of an address with any other scheme. -/
def readOpaque (cs : List Char) : Except UrlError Host :=
  if cs.head? = some '[' then readBracketed cs
  else if cs.any isForbiddenOpaque then .error .domainCharacter
  else .ok (.domain (Percent.encode Percent.isControl cs))

/-- The written form of a host. -/
def text : Host → List Char
  | .domain name => name
  | .ipv4 number =>
      ['.'].intercalate
        ([3, 2, 1, 0].map fun i => Text.natText (number / Nat.pow 256 i % 256))
  | .ipv6 pieces => '[' :: ipv6Text pieces ++ [']']

end Host

end GridAdmin
