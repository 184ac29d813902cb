/-!
# Punycode

Labels of a domain name that hold characters outside ASCII are written in
ASCII: first the ASCII characters as they are, then, behind a hyphen, where
the others stand. The others are counted off in ascending order; each is
written as a distance in a number system of base thirty-six whose digit
thresholds adapt to the distances before it.

## Main definitions

* `Punycode.encode`: the written form of a label.
* `Punycode.decode?`: the label of a written form.
-/

namespace GridAdmin.Punycode

/-! ## Digits and thresholds -/

/-- The character of a digit: letters, then decimal digits. -/
def digitChar (digit : Nat) : Char :=
  if digit < 26 then Char.ofNat (97 + digit) else Char.ofNat (22 + digit)

/-- The digit of a character, in either case. -/
def digit? (c : Char) : Option Nat :=
  let n := c.toNat
  if 97 ≤ n ∧ n ≤ 122 then some (n - 97)
  else if 65 ≤ n ∧ n ≤ 90 then some (n - 65)
  else if 48 ≤ n ∧ n ≤ 57 then some (n - 22)
  else none

/-- The threshold of the digit at position `k`. -/
def threshold (k bias : Nat) : Nat :=
  if k ≤ bias then 1 else min (k - bias) 26

/-- Scale a distance down until it is small, counting the steps. -/
def scaleDown : Nat → Nat → Nat → Nat × Nat
  | 0, delta, k => (delta, k)
  | fuel + 1, delta, k => if 455 < delta then scaleDown fuel (delta / 35) (k + 36) else (delta, k)

/-- The bias after a distance. -/
def adapt (delta points : Nat) (isFirst : Bool) : Nat :=
  let halved := if isFirst then delta / 700 else delta / 2
  let start := halved + halved / points
  let (small, k) := scaleDown start start 0
  k + 36 * small / (small + 38)

/-! ## Writing -/

/-- The digits of a distance. -/
def distanceDigits : Nat → Nat → Nat → Nat → List Char
  | 0, _, _, _ => []
  | fuel + 1, bias, k, q =>
      let t := threshold k bias
      if q < t then [digitChar q]
      else digitChar (t + (q - t) % (36 - t))
        :: distanceDigits fuel bias (k + 36) ((q - t) / (36 - t))

/-- What the writer keeps between characters. -/
structure Progress where
  delta : Nat
  bias : Nat
  handled : Nat
  output : List Char

/-- Pass one character of the label while the character `n` is counted off. -/
def Progress.pass (basic n : Nat) (p : Progress) (c : Char) : Progress :=
  if c.toNat < n then { p with delta := p.delta + 1 }
  else if c.toNat = n then
    { delta := 0, bias := adapt p.delta (p.handled + 1) (p.handled = basic),
      handled := p.handled + 1,
      output := p.output ++ distanceDigits (p.delta + 1) p.bias 36 p.delta }
  else p

/-- Count off all characters from `n` on. -/
def countOff (label : List Char) (basic : Nat) : Nat → Nat → Progress → Progress
  | 0, _, p => p
  | fuel + 1, n, p =>
      match ((label.map Char.toNat).filter (n ≤ ·)).min? with
      | none => p
      | some m =>
          let p := { p with delta := p.delta + (m - n) * (p.handled + 1) }
          let p := label.foldl (Progress.pass basic m) p
          countOff label basic fuel (m + 1) { p with delta := p.delta + 1 }

/-- The written form of a label. -/
def encode (label : List Char) : List Char :=
  let ascii := label.filter fun c => decide (c.toNat < 0x80)
  let start := if ascii.isEmpty then [] else ascii ++ ['-']
  (countOff label ascii.length label.length 0x80
    { delta := 0, bias := 72, handled := ascii.length, output := start }).output

/-! ## Reading -/

/-- The largest number that a reader keeps. -/
def maxNumber : Nat := 0xFFFFFFFF

/-- Read one distance: the new value of `i`, and the text behind the distance.
Numbers that do not fit into thirty-two bits are refused. -/
def readDistance (bias : Nat) : Nat → Nat → Nat → List Char → Option (Nat × List Char)
  | _, _, _, [] => none
  | i, weight, k, c :: rest => do
      let digit ← digit? c
      let i := i + digit * weight
      let t := threshold k bias
      if maxNumber < i then none
      else if digit < t then some (i, rest)
      else if maxNumber < weight * (36 - t) then none
      else readDistance bias i (weight * (36 - t)) (k + 36) rest

/-- Read distances and put their characters in place. -/
def placeAll : Nat → Nat → Nat → Nat → List Char → List Char → Option (List Char)
  | 0, _, _, _, _, _ => none
  | fuel + 1, n, i, bias, label, text =>
      if text.isEmpty then some label
      else do
        let (next, rest) ← readDistance bias i 1 36 text
        let points := label.length + 1
        let n := n + next / points
        let position := next % points
        if 0x10FFFF < n ∨ (0xD800 ≤ n ∧ n < 0xE000) then none
        else
          let placed := label.take position ++ Char.ofNat n :: label.drop position
          placeAll fuel n (position + 1) (adapt (next - i) points (i = 0)) placed rest

/-- The label of a written form; `none` if the text is none. The last hyphen
stands behind the ASCII characters, of which there must be some. -/
def decode? (text : List Char) : Option (List Char) :=
  let tail := (text.reverse.takeWhile (· ≠ '-')).reverse
  let front := text.take (text.length - tail.length)
  if front = ['-'] then none
  else if text.all fun c => decide (c.toNat < 0x80) then
    placeAll (tail.length + 1) 0x80 0 72 front.dropLast tail
  else none

end GridAdmin.Punycode
