import GridAdmin.Text.Basic

/-!
# Blank characters

Blank means the Unicode property White_Space: twenty-five characters, six of
them ASCII. Values are trimmed and resource types are stripped by this class.
-/

namespace GridAdmin.Text

/-- The characters with the Unicode property White_Space. -/
def isBlank (c : Char) : Bool :=
  let n := c.toNat
  (9 ≤ n && n ≤ 13) || n = 0x20 || n = 0x85 || n = 0xA0 || n = 0x1680
    || (0x2000 ≤ n && n ≤ 0x200A) || n = 0x2028 || n = 0x2029 || n = 0x202F
    || n = 0x205F || n = 0x3000

/-- Drop the blanks at both ends. -/
def trim (cs : List Char) : List Char :=
  dropEndWhile isBlank (cs.dropWhile isBlank)

/-- Drop every blank, wherever it stands. -/
def stripBlanks (s : String) : String :=
  String.ofList (s.toList.filter fun c => !isBlank c)

end GridAdmin.Text
