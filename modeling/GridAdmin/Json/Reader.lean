import GridAdmin.Json.Basic
import GridAdmin.Text.Decimal

/-!
# Reading JSON

The reader follows the grammar of JSON to the letter: no leading zeros, no
trailing commas, no raw control characters in strings, and blanks are the four
that JSON knows. A text is read only if it holds one value and nothing else.

Of any two steps in a row one consumes a character, so a text of `n` characters
needs at most `2 * n + 2` levels of recursion; `Json.read?` hides that bound.

## Main definitions

* `Json.read?`: the value that a text holds.
* `Json.readString?`: a string literal, its opening quote already read.
* `Json.readNumber?`: a number.
-/

namespace GridAdmin.Json

/-! ## Blanks -/

/-- The characters that may stand between tokens. -/
def isSpace (c : Char) : Bool :=
  decide (c = ' ' ∨ c = '\n' ∨ c = '\t' ∨ c = '\r')

/-- Drop the blanks at the start. -/
def skipSpace (cs : List Char) : List Char :=
  cs.dropWhile isSpace

/-- Drop `word` from the start of a text. -/
def skipWord (word : List Char) (cs : List Char) : Option (List Char) :=
  if word.isPrefixOf cs then some (cs.drop word.length) else none

/-! ## Strings -/

/-- A character of a string literal, or half of a surrogate pair. -/
inductive Piece where
  | char (c : Char)
  | half (unit : Nat)
  deriving DecidableEq, Repr

/-- What a numeric escape stands for. -/
def Piece.ofUnit (unit : Nat) : Piece :=
  if 0xD800 ≤ unit ∧ unit < 0xE000 then .half unit else .char (Char.ofNat unit)

/-- The value of a hexadecimal digit, in either case. -/
def hexDigit? (c : Char) : Option Nat :=
  if c.isDigit then some (c.toNat - '0'.toNat)
  else if 'a' ≤ c ∧ c ≤ 'f' then some (c.toNat - 'a'.toNat + 10)
  else if 'A' ≤ c ∧ c ≤ 'F' then some (c.toNat - 'A'.toNat + 10)
  else none

/-- The value of four hexadecimal digits. -/
def hexUnit? (a b c d : Char) : Option Nat := do
  let a ← hexDigit? a
  let b ← hexDigit? b
  let c ← hexDigit? c
  let d ← hexDigit? d
  some (a * 4096 + b * 256 + c * 16 + d)

/-- The character that a short escape stands for. -/
def shortEscape? (c : Char) : Option Char :=
  match c with
  | '"' => some '"'
  | '\\' => some '\\'
  | '/' => some '/'
  | 'b' => some '\x08'
  | 'f' => some '\x0c'
  | 'n' => some '\n'
  | 'r' => some '\r'
  | 't' => some '\t'
  | _ => none

/-- The pieces up to the closing quote, and the text behind it. -/
def readPieces? : List Char → Option (List Piece × List Char)
  | [] => none
  | '"' :: rest => some ([], rest)
  | '\\' :: 'u' :: a :: b :: c :: d :: rest => do
      let unit ← hexUnit? a b c d
      let (pieces, after) ← readPieces? rest
      some (.ofUnit unit :: pieces, after)
  | '\\' :: c :: rest => do
      let c ← shortEscape? c
      let (pieces, after) ← readPieces? rest
      some (.char c :: pieces, after)
  | c :: rest =>
      if c.toNat < 0x20 then none
      else (readPieces? rest).map fun (pieces, after) => (.char c :: pieces, after)

/-- The characters of a list of pieces, with surrogate pairs joined; `none` if
a half stays alone. -/
def joinPieces : List Piece → Option (List Char)
  | [] => some []
  | .char c :: rest => (joinPieces rest).map (c :: ·)
  | .half high :: .half low :: rest =>
      if high < 0xDC00 ∧ 0xDC00 ≤ low then
        (joinPieces rest).map
          (Char.ofNat (0x10000 + (high - 0xD800) * 0x400 + (low - 0xDC00)) :: ·)
      else none
  | .half _ :: _ => none

/-- A string literal, its opening quote already read. -/
def readString? (cs : List Char) : Option (Literal × List Char) :=
  (readPieces? cs).map fun (pieces, after) => ((joinPieces pieces).map String.ofList, after)

/-! ## Numbers -/

/-- The digits at the start of a text, of which there must be one, and the text
behind them. -/
def readDigits? (cs : List Char) : Option (List Char × List Char) :=
  let digits := cs.takeWhile Char.isDigit
  if digits = [] then none else some (digits, cs.drop digits.length)

/-- The digits of a fraction, if there is one. -/
def readFraction? : List Char → Option (List Char × List Char)
  | '.' :: rest => readDigits? rest
  | cs => some ([], cs)

/-- The digits of an exponent behind its sign. -/
def readExponentDigits? : List Char → Option (Int × List Char)
  | '-' :: rest => (readDigits? rest).map fun (ds, after) => (-(Nat.ofDigitChars 10 ds 0 : Int), after)
  | '+' :: rest => (readDigits? rest).map fun (ds, after) => ((Nat.ofDigitChars 10 ds 0 : Int), after)
  | cs => (readDigits? cs).map fun (ds, after) => ((Nat.ofDigitChars 10 ds 0 : Int), after)

/-- The exponent, if there is one. -/
def readExponent? : List Char → Option (Option Int × List Char)
  | 'e' :: rest | 'E' :: rest =>
      (readExponentDigits? rest).map fun (exponent, after) => (some exponent, after)
  | cs => some (none, cs)

/-- The number with these parts. -/
def Number.ofParts (minus : Bool) (whole fraction : List Char) (exponent : Option Int) : Number :=
  let digits := Nat.ofDigitChars 10 (whole ++ fraction) 0
  if fraction = [] ∧ exponent = none ∧ (digits ≠ 0 ∨ minus = false) then
    .integer (if minus then -(digits : Int) else digits)
  else .decimal minus digits (exponent.getD 0 - fraction.length)

/-- A number behind its minus sign, if it has one. -/
def readUnsigned? (minus : Bool) (cs : List Char) : Option (Number × List Char) := do
  let (whole, cs) ← readDigits? cs
  if whole.head? = some '0' ∧ whole.length ≠ 1 then none
  else
    let (fraction, cs) ← readFraction? cs
    let (exponent, cs) ← readExponent? cs
    some (.ofParts minus whole fraction exponent, cs)

/-- A number. -/
def readNumber? : List Char → Option (Number × List Char)
  | '-' :: rest => readUnsigned? true rest
  | cs => readUnsigned? false cs

/-! ## Values -/

mutual

/-- A value at the start of a text, and the text behind it. -/
def readValue? : Nat → List Char → Option (Json × List Char)
  | 0, _ => none
  | fuel + 1, cs =>
      match skipSpace cs with
      | '"' :: rest => (readString? rest).map fun (s, after) => (.string s, after)
      | '[' :: rest =>
          match skipSpace rest with
          | ']' :: after => some (.array [], after)
          | items => (readItems? fuel items).map fun (vs, after) => (.array vs, after)
      | '{' :: rest =>
          match skipSpace rest with
          | '}' :: after => some (.object [], after)
          | fields => (readFields? fuel fields).map fun (fs, after) => (.object fs, after)
      | 'n' :: rest => (skipWord "ull".toList rest).map fun after => (.null, after)
      | 't' :: rest => (skipWord "rue".toList rest).map fun after => (.bool true, after)
      | 'f' :: rest => (skipWord "alse".toList rest).map fun after => (.bool false, after)
      | rest => (readNumber? rest).map fun (n, after) => (.number n, after)

/-- The items of an array up to its closing bracket. -/
def readItems? : Nat → List Char → Option (List Json × List Char)
  | 0, _ => none
  | fuel + 1, cs => do
      let (value, rest) ← readValue? fuel cs
      match skipSpace rest with
      | ',' :: rest =>
          let (values, after) ← readItems? fuel rest
          some (value :: values, after)
      | ']' :: after => some ([value], after)
      | _ => none

/-- The fields of an object up to its closing bracket. -/
def readFields? : Nat → List Char → Option (List (Literal × Json) × List Char)
  | 0, _ => none
  | fuel + 1, cs =>
      match skipSpace cs with
      | '"' :: rest => do
          let (key, rest) ← readString? rest
          match skipSpace rest with
          | ':' :: rest =>
              let (value, rest) ← readValue? fuel rest
              match skipSpace rest with
              | ',' :: rest =>
                  let (fields, after) ← readFields? fuel rest
                  some ((key, value) :: fields, after)
              | '}' :: after => some ([(key, value)], after)
              | _ => none
          | _ => none
      | _ => none

end

/-- The value that a text holds, if it holds one and nothing else. -/
def read? (text : String) : Option Json :=
  let cs := text.toList
  match readValue? (2 * cs.length + 2) cs with
  | some (value, rest) => if skipSpace rest = [] then some value else none
  | none => none

end GridAdmin.Json
