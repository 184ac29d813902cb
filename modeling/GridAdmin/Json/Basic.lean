/-!
# JSON values

The values that the service exchanges and that the client environment file
holds. Two things are kept that a plain tree would lose, because readers of
these values depend on them: the fields of an object stay in the order in
which they were written, repetitions included, and a number remembers whether
it was written as an integer.

A string literal may name half of a surrogate pair by its escapes. It is well
formed, but stands for no text, and so it is kept as a literal without text.

## Main definitions

* `Json`, `Json.Number`, `Json.Literal`: the values.
* `Json.depth`: how deep arrays and objects are nested.
* `Json.isPlain`: every literal is a text and every number a finite one.
* `Json.sortFields`: the value with the fields of its objects in order.
-/

namespace GridAdmin

/-- The text of a string literal; `none` if it names half of a surrogate pair. -/
abbrev Json.Literal := Option String

/-- A number as it was written. -/
inductive Json.Number where
  /-- Without fraction and exponent. A zero with a minus sign does not count. -/
  | integer (value : Int)
  /-- `digits` times ten to the power of `exponent`, with a minus sign if `minus`. -/
  | decimal (minus : Bool) (digits : Nat) (exponent : Int)
  deriving DecidableEq, Repr

/-- A JSON value. -/
inductive Json where
  | null
  | bool (value : Bool)
  | number (value : Json.Number)
  | string (value : Json.Literal)
  | array (items : List Json)
  | object (fields : List (Json.Literal × Json))

namespace Json

/-! ## Constructors for well formed values -/

/-- The value of a text. -/
def text (s : String) : Json := .string (some s)

/-- The value of an integer. -/
def int (i : Int) : Json := .number (.integer i)

/-- The object with these fields. -/
def record (fields : List (String × Json)) : Json :=
  .object (fields.map fun (key, value) => (some key, value))

/-! ## Depth -/

mutual

/-- How deep arrays and objects are nested. -/
def depth : Json → Nat
  | .array items => depthItems items + 1
  | .object fields => depthFields fields + 1
  | .null | .bool _ | .number _ | .string _ => 0
  termination_by structural value => value

/-- The depth of the deepest item. -/
def depthItems : List Json → Nat
  | [] => 0
  | value :: rest => max value.depth (depthItems rest)
  termination_by structural items => items

/-- The depth of the deepest field. -/
def depthFields : List (Literal × Json) → Nat
  | [] => 0
  | (_, value) :: rest => max value.depth (depthFields rest)
  termination_by structural fields => fields

end

/-! ## Plain values -/

/-- Number of decimal digits. -/
def digitCount (n : Nat) : Nat := (Nat.toDigits 10 n).length

/-- The middle between the largest double and the next power of two. Numbers
from here on round to infinity. -/
def firstInfinite : Nat := Nat.pow 2 1024 - Nat.pow 2 970

/-- A number that rounds to a finite one in double precision. -/
def Number.isFinite : Number → Bool
  | .integer value => bounded value.natAbs 0
  | .decimal _ digits exponent => bounded digits exponent
where
  /-- `digits` times ten to the power of `exponent` lies below `firstInfinite`. -/
  bounded (digits : Nat) (exponent : Int) : Bool :=
    let top := (digitCount digits : Int) + exponent
    if digits = 0 || top < 300 then true
    else if 310 < top then false
    else if 0 ≤ exponent then
      decide (digits * Nat.pow 10 exponent.toNat < firstInfinite)
    else decide (digits < firstInfinite * Nat.pow 10 (-exponent).toNat)

mutual

/-- Every literal is a text, and every number is a finite one. -/
def isPlain : Json → Bool
  | .null | .bool _ => true
  | .number value => value.isFinite
  | .string value => value.isSome
  | .array items => isPlainItems items
  | .object fields => isPlainFields fields
  termination_by structural value => value

/-- All items are plain. -/
def isPlainItems : List Json → Bool
  | [] => true
  | value :: rest => value.isPlain && isPlainItems rest
  termination_by structural items => items

/-- All fields are plain, their keys included. -/
def isPlainFields : List (Literal × Json) → Bool
  | [] => true
  | (key, value) :: rest => key.isSome && value.isPlain && isPlainFields rest
  termination_by structural fields => fields

end

/-! ## Fields in order -/

/-- Put a field in front of the first field with a greater key. Of two fields
with one key the one that is already there counts. -/
def insertField (key : Literal) (value : Json) :
    List (Literal × Json) → List (Literal × Json)
  | [] => [(key, value)]
  | field :: rest =>
      if field.1 = key then field :: rest
      else if key.getD "" < field.1.getD "" then (key, value) :: field :: rest
      else field :: insertField key value rest

mutual

/-- The value with the fields of all its objects in ascending order of their
keys. Of several fields with one key only the last one stays. -/
def sortFields : Json → Json
  | .array items => .array (sortItems items)
  | .object fields => .object (sortObject fields)
  | .null => .null
  | .bool value => .bool value
  | .number value => .number value
  | .string value => .string value
  termination_by structural value => value

/-- `sortFields` on every item. -/
def sortItems : List Json → List Json
  | [] => []
  | value :: rest => value.sortFields :: sortItems rest
  termination_by structural items => items

/-- The fields in ascending order, each with its value in order. -/
def sortObject : List (Literal × Json) → List (Literal × Json)
  | [] => []
  | (key, value) :: rest => insertField key value.sortFields (sortObject rest)
  termination_by structural fields => fields

end

end Json

end GridAdmin
