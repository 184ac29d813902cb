import GridAdmin.Text.CombiningClass
import GridAdmin.Text.Decomposition

/-!
# The composed normal form

One text can be written with different characters: a letter with an accent is
one character or two, and marks that do not get into each other's way may
stand in either order. The composed normal form is the same for all of them.
Every character is taken apart, the marks are put into order, and then pairs
are joined again from the left.

Hangul syllables are numbered by their parts, so that they are taken apart and
joined by arithmetic.

## Main definitions

* `Text.decomposed`, `Text.ordered`, `Text.composed`: the three steps.
* `Text.normalForm`: the composed normal form.

## Main results

* `ordered_perm`: putting marks into order loses nothing.
-/

namespace GridAdmin.Text

/-! ## Hangul -/

namespace Hangul

/-- The first leading consonant. -/
def leads : Nat := 0x1100

/-- The first vowel. -/
def vowels : Nat := 0x1161

/-- The place in front of the first trailing consonant. It stands for none. -/
def tails : Nat := 0x11A7

/-- The first syllable. -/
def syllables : Nat := 0xAC00

/-- The number of a character from `first` on, if it is one of `count`. -/
def index? (first count : Nat) (c : Char) : Option Nat :=
  if first ≤ c.toNat ∧ c.toNat < first + count then some (c.toNat - first) else none

/-- The parts of a syllable: a consonant, a vowel, and perhaps a consonant. -/
def parts? (c : Char) : Option (List Char) :=
  (index? syllables 11172 c).map fun i =>
    let front := [Char.ofNat (leads + i / 588), Char.ofNat (vowels + i % 588 / 28)]
    if i % 28 = 0 then front else front ++ [Char.ofNat (tails + i % 28)]

/-- A consonant and a vowel joined, or a syllable without a trailing consonant
and one. -/
def joined? (first second : Char) : Option Char :=
  match index? leads 19 first, index? vowels 21 second with
  | some lead, some vowel => some (Char.ofNat (syllables + (lead * 21 + vowel) * 28))
  | _, _ =>
      match index? syllables 11172 first, index? (tails + 1) 27 second with
      | some i, some tail =>
          if i % 28 = 0 then some (Char.ofNat (first.toNat + tail + 1)) else none
      | _, _ => none

end Hangul

/-! ## Taking apart -/

/-- A character taken apart, one step deep. -/
def takenApart (c : Char) : List Char :=
  ((Hangul.parts? c).or (decomposition? c)).getD [c]

/-- A text taken apart. No character needs more than three steps. -/
def decomposed (cs : List Char) : List Char :=
  ((cs.flatMap takenApart).flatMap takenApart).flatMap takenApart

/-! ## Order of marks -/

/-- Put a character in front of a text with its marks in order. It changes
places with the marks of a lower class. -/
def placeMark (c : Char) : List Char → List Char
  | [] => [c]
  | d :: rest =>
      if 0 < combiningClass d ∧ combiningClass d < combiningClass c then d :: placeMark c rest
      else c :: d :: rest

/-- Put the marks of a text into order. -/
def ordered (cs : List Char) : List Char :=
  cs.foldr placeMark []

private theorem placeMark_perm (c : Char) (cs : List Char) : (placeMark c cs).Perm (c :: cs) := by
  induction cs with
  | nil => exact .refl _
  | cons d rest ih =>
      unfold placeMark
      split
      · exact (ih.cons d).trans (.swap c d rest)
      · exact .refl _

/-- Putting marks into order loses nothing. -/
theorem ordered_perm (cs : List Char) : (ordered cs).Perm cs := by
  induction cs with
  | nil => exact .refl _
  | cons c rest ih => exact (placeMark_perm c (ordered rest)).trans (ih.cons c)

/-! ## Joining -/

/-- Two characters joined. -/
def joinedPair? (first second : Char) : Option Char :=
  (Hangul.joined? first second).or (joined? first second)

/-- Something keeps a character from the one that the marks stand behind, the
latest mark first. -/
def isBlocked (marks : List Char) (c : Char) : Bool :=
  match marks with
  | [] => false
  | last :: _ => decide (combiningClass c ≤ combiningClass last)

/-- Join a character with what follows it, where `marks` are the marks in
between that could not be joined, the latest first. -/
def composeBehind (front : Char) (marks : List Char) : List Char → List Char
  | [] => front :: marks.reverse
  | c :: rest =>
      match if isBlocked marks c then none else joinedPair? front c with
      | some both => composeBehind both marks rest
      | none =>
          if combiningClass c = 0 then front :: marks.reverse ++ composeBehind c [] rest
          else composeBehind front (c :: marks) rest

/-- Join the pairs of a text. Marks at its start have nothing to be joined with. -/
def composed : List Char → List Char
  | [] => []
  | c :: rest =>
      if combiningClass c = 0 then composeBehind c [] rest else c :: composed rest

/-! ## The normal form -/

/-- Nothing before U+0300 is taken apart for good, changes places or is joined
to what stands in front of it. -/
def isPlain (cs : List Char) : Bool :=
  cs.all fun c => decide (c.toNat < 0x300)

/-- The composed normal form of a text. -/
def normalForm (cs : List Char) : List Char :=
  if isPlain cs then cs else composed (ordered (decomposed cs))

end GridAdmin.Text
