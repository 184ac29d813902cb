import GridAdmin.Command.Basic
import GridAdmin.Text.Basic

/-!
# Typed lines

A typed line becomes a command in two steps. First the line is cut: to at
most `TypedLine.maxBytes` bytes, before its first newline, and without one trailing
carriage return. Then the rest is scanned once from left to right, and the
scanner marks where each token starts and stops.

Spaces separate bare tokens. A quote opens a quoted token only where a token
may start; the token then runs to the same quote, spaces included, or to the
end of the line. A quote inside a bare token is an ordinary character.

Spans count bytes, and a token is what lies between the two ends of its span.
The scanner steps over whole characters, so both ends fall between characters.

## Main definitions

* `TypedLine.spans`: the spans of all tokens of a line, the last of which may be empty.
* `Command.ofLine`: the command that a typed line stands for.
-/

namespace GridAdmin

namespace TypedLine

/-- Longest line that is read, in bytes. -/
def maxBytes : Nat := 2999

/-- The part of a typed line that is scanned. -/
def body (line : List Char) : List Char :=
  Text.dropOneAtEnd '\r' (Text.before '\n' (Text.takeBytes maxBytes line))

/-- A stretch of a line, from byte `start` up to but not including byte `stop`. -/
structure Span where
  start : Nat
  stop : Nat
  deriving DecidableEq, Repr

/-- The text that a span marks. -/
def Span.cut (span : Span) (line : List Char) : List Char :=
  Text.takeBytes (span.stop - span.start) (Text.dropBytes span.start line)

/-- What the scanner is inside of. -/
inductive Mode where
  | between
  | bare
  | quoted (quote : Char)
  deriving DecidableEq, Repr

/-- The characters that open a quoted token. -/
def isQuote (c : Char) : Bool :=
  decide (c = '\'' ∨ c = '"')

/-- Scan the rest of a line. `start` is where the current token starts and
`here` is the position of the next character. The end of the line closes the
current token, which is empty between tokens. -/
def scan (mode : Mode) (start here : Nat) : List Char → List Span
  | [] => [⟨start, here⟩]
  | c :: cs =>
      let next := here + c.utf8Size
      match mode with
      | .between =>
          if isQuote c then scan (.quoted c) next next cs
          else if c = ' ' then scan .between next next cs
          else scan .bare start next cs
      | .bare =>
          if c = ' ' then ⟨start, here⟩ :: scan .between next next cs
          else scan .bare start next cs
      | .quoted quote =>
          if c = quote then ⟨start, here⟩ :: scan .between next next cs
          else scan (.quoted quote) start next cs

/-- The spans of all tokens of a line. -/
def spans (line : List Char) : List Span :=
  scan .between 0 0 line

/-- The first `max` tokens of a typed line. -/
def tokens (max : Nat) (line : List Char) : List (List Char) :=
  ((spans (body line)).take max).map fun span => span.cut (body line)

end TypedLine

/-- The command that a typed line stands for, of which at most `max` tokens are
kept. -/
def Command.ofLine (line : String) (max : Nat) : Command :=
  Command.ofWords ((TypedLine.tokens (min max Command.width) line.toList).map String.ofList)

end GridAdmin
