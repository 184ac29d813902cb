import GridAdmin.DomainName.Label

/-!
# Domain names

A domain name is brought to one written form in ASCII, whichever way it is
typed. Its characters are mapped and the text is put into normal form; then it
is cut into labels, which are read back from Punycode, checked, and written in
ASCII.

## Main definitions

* `DomainName.labels?`: the checked labels of a typed name.
* `DomainName.ascii?`: the written form of a typed name.
-/

namespace GridAdmin.DomainName

/-- The characters of a typed name mapped and in normal form; `none` if one of
them may not stand in a name. -/
def prepared? (name : List Char) : Option (List Char) := do
  let text := Text.normalForm (← name.mapM mapped?).flatten
  if text.any isForbidden then none else some text

/-- The labels obey the rules for each label, and those for directions if some
character calls for them. -/
def isValid (labels : List (List Char)) : Bool :=
  labels.all isWellFormed
    && (!labels.any (·.any isRightward) || labels.all isDirected)

/-- The labels of a typed name, none of them in Punycode. -/
def labels? (name : List Char) : Option (List (List Char)) := do
  let text ← prepared? name
  let labels ← (text.splitOn '.').mapM decodedLabel?
  if isValid labels then some labels else none

/-- The written form of a typed name; `none` if it is no name. -/
def ascii? (name : List Char) : Option (List Char) :=
  (labels? name).map fun labels => ['.'].intercalate (labels.map asciiLabel)

end GridAdmin.DomainName
