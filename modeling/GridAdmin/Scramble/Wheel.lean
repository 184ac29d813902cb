import GridAdmin.Scramble.Sha256

/-!
# Scrambling on a wheel

Passwords are hidden by a reversible substitution. Seventy-seven characters
stand on a wheel; a character is turned forward by a byte of the key stream
plus the wheel position of the output before it, so that equal characters do
not stay equal. A character off the wheel passes through and leaves the chain
as it was. Turning back knows the same chain, because the chain is the
scrambled text itself.

The key stream is sixty-four bytes long and is used over and over: it is the
digest of the key followed by the digest of that digest.

## Main definitions

* `Wheel.position?`, `Wheel.char`: between characters and positions.
* `KeyStream.ofKey`: the key stream of a key.
* `scramble`, `descramble`: the substitution and its inverse.
-/

namespace GridAdmin

/-! ## The wheel -/

namespace Wheel

/-- The characters on the wheel, in order. -/
def chars : List Char :=
  "0123456789ABCDEFGHIJKLMNOPQRSTUVWXYZabcdefghijklmnopqrstuvwxyz!\"#$%&'()*+,-./".toList

/-- Number of characters on the wheel. -/
def size : Nat := 77

theorem length_chars : chars.length = size := by decide +kernel

theorem nodup_chars : chars.Nodup := by decide +kernel

/-- The position of a character; `none` off the wheel. -/
def position? (c : Char) : Option Nat :=
  chars.idxOf? c

/-- The character at a position, counted around the wheel. -/
def char (position : Nat) : Char :=
  chars.getD (position % size) '0'

/-- Turn forward: the position `shift` steps further on. -/
def forward (position shift : Nat) : Nat :=
  (position + shift) % size

/-- Turn back: the position `shift` steps before. -/
def back (position shift : Nat) : Nat :=
  (position + size - shift % size) % size

theorem back_forward {position : Nat} (hOn : position < size) (shift : Nat) :
    back (forward position shift) shift = position := by
  simp only [back, forward, size] at *
  omega

theorem forward_back {position : Nat} (hOn : position < size) (shift : Nat) :
    forward (back position shift) shift = position := by
  simp only [back, forward, size] at *
  omega

end Wheel

/-! ## Key streams -/

/-- Sixty-four bytes that are used over and over. -/
structure KeyStream where
  bytes : List UInt8
  length_bytes : bytes.length = 64

namespace KeyStream

/-- The shift for the character at `index`. -/
def shift (stream : KeyStream) (index : Nat) : Nat :=
  (stream.bytes.getD (index % 64) 0).toNat

/-- The digest of the key, followed by the digest of that digest. -/
def ofKey (key : String) : KeyStream where
  bytes :=
    let first := Sha256.digest key.toUTF8.toList
    first ++ Sha256.digest first
  length_bytes := by simp [Sha256.length_digest]

end KeyStream

/-! ## The substitution -/

/-- Scramble the rest of a text that starts at `index`. `chain` is the position
of the last scrambled character, zero before the first. -/
def scrambleFrom (stream : KeyStream) (index chain : Nat) : List Char → List Char
  | [] => []
  | c :: cs =>
      match Wheel.position? c with
      | none => c :: scrambleFrom stream (index + 1) chain cs
      | some position =>
          let turned := Wheel.forward position (stream.shift index + chain)
          Wheel.char turned :: scrambleFrom stream (index + 1) turned cs

/-- Descramble the rest of a text that starts at `index`. -/
def descrambleFrom (stream : KeyStream) (index chain : Nat) : List Char → List Char
  | [] => []
  | c :: cs =>
      match Wheel.position? c with
      | none => c :: descrambleFrom stream (index + 1) chain cs
      | some position =>
          Wheel.char (Wheel.back position (stream.shift index + chain))
            :: descrambleFrom stream (index + 1) position cs

/-- Scramble a text under a key stream. -/
def KeyStream.scramble (stream : KeyStream) (text : List Char) : List Char :=
  scrambleFrom stream 0 0 text

/-- Undo `KeyStream.scramble`. -/
def KeyStream.descramble (stream : KeyStream) (text : List Char) : List Char :=
  descrambleFrom stream 0 0 text

/-- Scramble a text under a key. -/
def scramble (text key : String) : String :=
  String.ofList ((KeyStream.ofKey key).scramble text.toList)

/-- Undo `scramble`. -/
def descramble (text key : String) : String :=
  String.ofList ((KeyStream.ofKey key).descramble text.toList)

end GridAdmin
