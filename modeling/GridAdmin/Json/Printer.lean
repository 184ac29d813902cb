import GridAdmin.Json.Basic
import GridAdmin.Text.Decimal

/-!
# Printing JSON

Two layouts. The compact one has no blanks at all. The indented one puts every
item and field on a line of its own, four blanks deeper than the bracket that
holds it; an empty array or object stays on one line.

In strings, quotes, backslashes and the characters below U+0020 are escaped,
with the short escapes where they exist; everything else stands for itself.

## Main definitions

* `Json.compact`, `Json.indented`: the two layouts.
* `Json.escapeChar`: how one character is written inside a string.
-/

namespace GridAdmin.Json

/-- How one character is written inside a string. -/
def escapeChar (c : Char) : List Char :=
  if c = '"' then ['\\', '"']
  else if c = '\\' then ['\\', '\\']
  else if c = '\n' then ['\\', 'n']
  else if c = '\r' then ['\\', 'r']
  else if c = '\t' then ['\\', 't']
  else if c = '\x08' then ['\\', 'b']
  else if c = '\x0c' then ['\\', 'f']
  else if c.toNat < 0x20 then
    ['\\', 'u', '0', '0', Nat.digitChar (c.toNat / 16), Nat.digitChar (c.toNat % 16)]
  else [c]

/-- A text as a string literal. -/
def quoted (cs : List Char) : List Char :=
  '"' :: cs.flatMap escapeChar ++ ['"']

/-- A literal. One without text is written as half of a surrogate pair. -/
def Literal.print : Literal → List Char
  | some s => quoted s.toList
  | none => "\"\\ud800\"".toList

/-- A number. Those that are no integers are written with an exponent. -/
def Number.print : Number → List Char
  | .integer value => Text.intText value
  | .decimal minus digits exponent =>
      (if minus then ['-'] else []) ++ Text.natText digits ++ 'e' :: Text.intText exponent

/-! ## Compact layout -/

mutual

/-- The compact layout. -/
def compact : Json → List Char
  | .null => "null".toList
  | .bool true => "true".toList
  | .bool false => "false".toList
  | .number value => value.print
  | .string value => value.print
  | .array items => '[' :: compactItems items ++ [']']
  | .object fields => '{' :: compactFields fields ++ ['}']
  termination_by structural value => value

/-- Items with commas between them. -/
def compactItems : List Json → List Char
  | [] => []
  | [value] => value.compact
  | value :: rest => value.compact ++ ',' :: compactItems rest
  termination_by structural items => items

/-- Fields with commas between them. -/
def compactFields : List (Literal × Json) → List Char
  | [] => []
  | [(key, value)] => key.print ++ ':' :: value.compact
  | (key, value) :: rest =>
      key.print ++ ':' :: value.compact ++ ',' :: compactFields rest
  termination_by structural fields => fields

end

/-- The compact layout as a string. -/
def compactText (value : Json) : String :=
  String.ofList value.compact

/-! ## Indented layout -/

/-- The start of a line that is `level` brackets deep. -/
def newLine (level : Nat) : List Char :=
  '\n' :: List.replicate (4 * level) ' '

mutual

/-- The indented layout of a value that stands `level` brackets deep. -/
def indented (level : Nat) : Json → List Char
  | .null => "null".toList
  | .bool true => "true".toList
  | .bool false => "false".toList
  | .number value => value.print
  | .string value => value.print
  | .array [] => ['[', ']']
  | .array (value :: rest) =>
      '[' :: newLine (level + 1) ++ value.indented (level + 1)
        ++ indentedItems (level + 1) rest ++ newLine level ++ [']']
  | .object [] => ['{', '}']
  | .object ((key, value) :: rest) =>
      '{' :: newLine (level + 1) ++ key.print ++ ':' :: ' ' :: value.indented (level + 1)
        ++ indentedFields (level + 1) rest ++ newLine level ++ ['}']
  termination_by structural value => value

/-- Further items, each behind a comma and on a line of its own. -/
def indentedItems (level : Nat) : List Json → List Char
  | [] => []
  | value :: rest => ',' :: newLine level ++ value.indented level ++ indentedItems level rest
  termination_by structural items => items

/-- Further fields, each behind a comma and on a line of its own. -/
def indentedFields (level : Nat) : List (Literal × Json) → List Char
  | [] => []
  | (key, value) :: rest =>
      ',' :: newLine level ++ key.print ++ ':' :: ' ' :: value.indented level
        ++ indentedFields level rest
  termination_by structural fields => fields

end

/-- The indented layout as a string. -/
def indentedText (value : Json) : String :=
  String.ofList (value.indented 0)

end GridAdmin.Json
