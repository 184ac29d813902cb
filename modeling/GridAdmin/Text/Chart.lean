import GridAdmin.Text.Basic

/-!
# Charts of characters

What a standard says about single characters is kept as text, in charts. A
chart is a row of words between blanks, and code points are written in base
sixteen.

There are two kinds. A chart of stretches says which characters have a
property: `41` is one code point, `41-5A` all between two, and `100-12E/2`
every second one of them. A chart of rows says what stands for a character: a
word with a colon names the first code point of a row, and the words behind it
belong to this code point and the ones that follow it. Such a word writes a
text, with its characters joined by `+`.

## Main definitions

* `Chart.stretches`, `Chart.holds`: charts of a property.
* `Chart.rows`, `Chart.entry?`: charts of texts.
-/

namespace GridAdmin.Chart

/-! ## Words -/

/-- The words of a chart. -/
def words (chart : String) : List (List Char) :=
  ((chart.toList.map fun c => if c = '\n' then ' ' else c).splitOn ' ').filter (!·.isEmpty)

/-- The value of a digit in base sixteen, whose letters are in upper case. -/
def digit (c : Char) : Nat :=
  if c.isDigit then c.toNat - 48 else c.toNat - 55

/-- The code point that a word writes. -/
def codePoint (word : List Char) : Nat :=
  word.foldl (fun n c => n * 16 + digit c) 0

/-! ## Stretches -/

/-- Every `step`-th code point from `first` to `last`. -/
structure Stretch where
  first : Nat
  last : Nat
  step : Nat
  deriving DecidableEq, Repr

namespace Stretch

/-- The code point belongs to the stretch. -/
def holds (stretch : Stretch) (n : Nat) : Bool :=
  decide (stretch.first ≤ n ∧ n ≤ stretch.last ∧ (n - stretch.first) % stretch.step = 0)

/-- The stretch from one end to the other; both ends are the same without a hyphen. -/
def between (step : Nat) (ends : List Char) : Stretch :=
  match Text.cutAt '-' ends with
  | none => ⟨codePoint ends, codePoint ends, step⟩
  | some (first, last) => ⟨codePoint first, codePoint last, step⟩

/-- The stretch that a word writes. -/
def ofWord (word : List Char) : Stretch :=
  match Text.cutAt '/' word with
  | none => between 1 word
  | some (ends, step) => between (codePoint step) ends

end Stretch

/-- The stretches of a chart. -/
def stretches (chart : String) : List Stretch :=
  (words chart).map Stretch.ofWord

/-- Some stretch holds the character. -/
def holds (stretches : List Stretch) (c : Char) : Bool :=
  stretches.any (·.holds c.toNat)

/-- The class of a character: that of the first list of stretches that holds it. -/
def classOf? {α : Type} (classes : List (α × List Stretch)) (c : Char) : Option α :=
  (classes.find? fun entry => holds entry.2 c).map (·.1)

/-! ## Rows -/

/-- Texts for consecutive code points. -/
structure Row where
  first : Nat
  texts : List (List Char)
  deriving DecidableEq, Repr

/-- The text that a word writes. -/
def text (word : List Char) : List Char :=
  (word.splitOn '+').map fun part => Char.ofNat (codePoint part)

/-- Put a word in front of what was read behind it: the texts that belong to a
row further to the front, and the rows. -/
def gather (word : List Char) (behind : List (List Char) × List Row) :
    List (List Char) × List Row :=
  if word.getLast? = some ':' then ([], ⟨codePoint word.dropLast, behind.1⟩ :: behind.2)
  else (text word :: behind.1, behind.2)

/-- The rows of a chart. -/
def rows (chart : String) : List Row :=
  ((words chart).foldr gather ([], [])).2

/-- The text of a row for a code point. -/
def Row.text? (row : Row) (n : Nat) : Option (List Char) :=
  if row.first ≤ n then row.texts[n - row.first]? else none

/-- What stands for a character. -/
def entry? (rows : List Row) (c : Char) : Option (List Char) :=
  rows.findSome? (·.text? c.toNat)

end GridAdmin.Chart
