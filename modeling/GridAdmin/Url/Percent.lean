/-!
# Percent encoding

A character that may not stand in a part of an address is written as `%` and
two hexadecimal digits for each of its bytes. Which characters that are depends
on the part; characters outside ASCII and control characters are always
encoded.

## Main definitions

* `Percent.encode`: encode the characters of a class.
* `Percent.decode`: the bytes that a text stands for.
-/

namespace GridAdmin.Percent

/-! ## Classes of characters -/

/-- Control characters and characters outside ASCII. -/
def isControl (c : Char) : Bool :=
  decide (c.toNat < 0x20 ∨ 0x7E < c.toNat)

/-- Encoded in a fragment. -/
def inFragment (c : Char) : Bool :=
  isControl c || " \"<>`".toList.contains c

/-- Encoded in a query. -/
def inQuery (c : Char) : Bool :=
  isControl c || " \"#<>".toList.contains c

/-- Encoded in the query of an address with a well known scheme. -/
def inSpecialQuery (c : Char) : Bool :=
  inQuery c || c = '\''

/-- Encoded in a path. -/
def inPath (c : Char) : Bool :=
  inFragment c || "#?\x7b\x7d".toList.contains c

/-- Encoded in a user name or a password. -/
def inUserInfo (c : Char) : Bool :=
  inPath c || "/:;=@[\\]^|".toList.contains c

/-! ## Encoding and decoding -/

/-- A hexadecimal digit in upper case. -/
def hexDigit (n : Nat) : Char :=
  (Nat.digitChar n).toUpper

/-- One byte as `%` and two digits. -/
def byteText (b : UInt8) : List Char :=
  ['%', hexDigit (b.toNat / 16), hexDigit (b.toNat % 16)]

/-- Encode the characters for which `p` holds. -/
def encode (p : Char → Bool) (cs : List Char) : List Char :=
  cs.flatMap fun c => if p c then (String.utf8EncodeChar c).flatMap byteText else [c]

/-- The value of a hexadecimal digit, in either case. -/
def hexValue? (c : Char) : Option Nat :=
  if c.isDigit then some (c.toNat - 48)
  else if 'a' ≤ c ∧ c ≤ 'f' then some (c.toNat - 87)
  else if 'A' ≤ c ∧ c ≤ 'F' then some (c.toNat - 55)
  else none

/-- The bytes that a text stands for. A `%` without two digits behind it stands
for itself. -/
def decode : List Char → List UInt8
  | [] => []
  | '%' :: a :: b :: rest =>
      match hexValue? a, hexValue? b with
      | some high, some low => UInt8.ofNat (high * 16 + low) :: decode rest
      | _, _ => String.utf8EncodeChar '%' ++ decode (a :: b :: rest)
  | c :: rest => String.utf8EncodeChar c ++ decode rest

end GridAdmin.Percent
