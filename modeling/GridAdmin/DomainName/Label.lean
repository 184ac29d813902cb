import GridAdmin.DomainName.Mapping
import GridAdmin.DomainName.Punycode
import GridAdmin.Text.CombiningClass
import GridAdmin.Text.Direction
import GridAdmin.Text.Joining
import GridAdmin.Text.Mark
import GridAdmin.Text.NormalForm

/-!
# Labels of domain names

A label is a part of a domain name between full stops. In ASCII, a label with
other characters is written in Punycode behind a prefix; such a label is read
back first. A label must not begin with a mark. The two invisible joiners may
stand only where they show: behind a consonant without its vowel, or, for the
one that keeps letters apart, between letters that would be joined.

If a name has letters that are written from right to left, the characters of
each label must be such that the label looks the same in every surrounding.

## Main definitions

* `DomainName.decodedLabel?`: a label without the prefix.
* `DomainName.isWellFormed`: the rules for each label.
* `DomainName.isDirected`: the rule for labels of names with directions.
* `DomainName.asciiLabel`: a label as it is written in ASCII.
-/

namespace GridAdmin.DomainName

/-! ## Characters -/

/-- Every character belongs to ASCII. -/
def isAscii (cs : List Char) : Bool :=
  cs.all fun c => decide (c.toNat < 0x80)

/-- An ASCII character that no name may hold. -/
def isForbidden (c : Char) : Bool :=
  decide (c.toNat ≤ 0x20) || "%#/:<>?@[\\]^|\x7f".toList.contains c

/-! ## Labels in Punycode -/

/-- What stands in front of Punycode. -/
def codedPrefix : List Char := "xn--".toList

/-- The longest text in Punycode that is read. -/
def maxCoded : Nat := 2000

/-- The longest label that is written in Punycode. -/
def maxDecoded : Nat := 1000

/-- A character that may stand in a decoded label: it stands for itself. -/
def isSettled (c : Char) : Bool :=
  decide (mapped? c = some [c]) && !isForbidden c && decide (c ≠ '.')

/-- The label that a text in Punycode stands for. There is a shorter way to
write a label of ASCII alone, and one that is not in its final form. -/
def decoded? (text : List Char) : Option (List Char) := do
  if text.isEmpty ∨ text.getLast? = some '-' ∨ maxCoded < text.length then none
  let label ← Punycode.decode? text
  if label.all isSettled ∧ Text.normalForm label = label then some label else none

/-- A label without the prefix for Punycode. -/
def decodedLabel? (label : List Char) : Option (List Char) :=
  if codedPrefix.isPrefixOf label then decoded? (label.drop codedPrefix.length) else some label

/-! ## Joiners -/

/-- Keeps two letters apart that would be joined. -/
def nonJoiner : Char := '\u200c'

/-- Joins two letters that would stand apart. -/
def joiner : Char := '\u200d'

/-- The nearest letter of a text, passing over what is transparent, is joined in
one of these ways. -/
def nearestJoins (ways : List Joining) (cs : List Char) : Bool :=
  match cs.find? fun c => decide (Joining.of c ≠ .transparent) with
  | some c => ways.contains (Joining.of c)
  | none => false

/-- A joiner may stand between what is in front of it, the nearest character
first, and what is behind it. -/
def joinerFits (front : List Char) (c : Char) (behind : List Char) : Bool :=
  match front with
  | [] => false
  | nearest :: _ =>
      decide (Text.combiningClass nearest = Text.vowelKiller)
        || (decide (c = nonJoiner) && nearestJoins [.left, .both] front
          && nearestJoins [.right, .both] behind)

/-- All joiners of a text may stand where they do, behind `front`. -/
def joinersFit (front : List Char) : List Char → Bool
  | [] => true
  | c :: behind =>
      (!(c = nonJoiner || c = joiner) || joinerFits front c behind)
        && joinersFit (c :: front) behind

/-! ## Every label -/

/-- The first character is a mark. -/
def startsWithMark (label : List Char) : Bool :=
  (label.head?.map Text.isMark).getD false

/-- The rules that hold for each label of a name. -/
def isWellFormed (label : List Char) : Bool :=
  isAscii label
    || (!startsWithMark label && joinersFit [] label && decide (label.length ≤ maxDecoded))

/-! ## Direction -/

/-- The directions that call for the rule on directions. -/
def isRightward (c : Char) : Bool :=
  decide (0x590 ≤ c.toNat)
    && [Direction.rightToLeft, .arabicLetter, .arabicNumber].contains (Direction.of c)

/-- The last direction, not counting marks at the end, is one of these, if there
is any. -/
def endsIn (ends : List Direction) (directions : List Direction) : Bool :=
  match directions.reverse.find? fun d => decide (d ≠ .mark) with
  | some last => ends.contains last
  | none => true

/-- Directions that may stand anywhere behind the first letter. -/
def loose : List Direction :=
  [.europeanNumber, .numberSign, .separator, .numberEnd, .neutral, .boundary, .mark]

/-- Directions behind a first letter that is written from left to right. -/
def runsLeftToRight (rest : List Direction) : Bool :=
  rest.all (fun d => (.leftToRight :: loose).contains d)
    && endsIn [.leftToRight, .europeanNumber] rest

/-- Directions behind a first letter that is written from right to left. The two
kinds of numbers do not go together. -/
def runsRightToLeft (rest : List Direction) : Bool :=
  rest.all (fun d => (.rightToLeft :: .arabicLetter :: .arabicNumber :: loose).contains d)
    && endsIn [.rightToLeft, .arabicLetter, .arabicNumber, .europeanNumber] rest
    && !(rest.contains .arabicNumber && rest.contains .europeanNumber)

/-- The rule for each label of a name with letters written from right to left. -/
def isDirected (label : List Char) : Bool :=
  match label.map Direction.of with
  | [] => true
  | .leftToRight :: rest => runsLeftToRight rest
  | .rightToLeft :: rest | .arabicLetter :: rest => runsRightToLeft rest
  | _ => false

/-! ## ASCII -/

/-- A label as it is written in ASCII. -/
def asciiLabel (label : List Char) : List Char :=
  if isAscii label then label else codedPrefix ++ Punycode.encode label

end GridAdmin.DomainName
