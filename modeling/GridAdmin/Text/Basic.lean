/-!
# Text as characters and as bytes

The shell counts in two units. Positions and tokens are counted in characters;
limits (the length of a command line, of a password) are counted in the bytes
that the text takes in UTF-8. All algorithms on text in this library work on
`List Char`, and this module provides the measure and the few cuts that they
share.

## Main results

* `takeBytes_append_dropBytes`: cutting at a byte limit loses nothing.
* `byteLength_takeBytes_le`: the kept part respects the limit.
* `occursIn_iff`: the executable substring test decides `<:+:`.
* `cutAt_eq`: the first part of a cut holds no separator.
-/

namespace GridAdmin.Text

/-! ## Byte measure -/

/-- Number of bytes that a text takes in UTF-8. -/
def byteLength : List Char → Nat
  | [] => 0
  | c :: cs => c.utf8Size + byteLength cs

@[simp] theorem byteLength_nil : byteLength [] = 0 := rfl

@[simp] theorem byteLength_cons (c : Char) (cs : List Char) :
    byteLength (c :: cs) = c.utf8Size + byteLength cs := rfl

@[simp] theorem byteLength_append (xs ys : List Char) :
    byteLength (xs ++ ys) = byteLength xs + byteLength ys := by
  induction xs with
  | nil => simp
  | cons x xs ih => simp [ih, Nat.add_assoc]

theorem length_le_byteLength (cs : List Char) : cs.length ≤ byteLength cs := by
  induction cs with
  | nil => simp
  | cons c cs ih =>
      have hPos := c.utf8Size_pos
      simp only [List.length_cons, byteLength_cons]
      omega

/-- The longest prefix of at most `limit` bytes. Characters are kept whole. -/
def takeBytes : Nat → List Char → List Char
  | _, [] => []
  | limit, c :: cs =>
      if c.utf8Size ≤ limit then c :: takeBytes (limit - c.utf8Size) cs else []

/-- What `takeBytes` leaves over. -/
def dropBytes : Nat → List Char → List Char
  | _, [] => []
  | limit, c :: cs =>
      if c.utf8Size ≤ limit then dropBytes (limit - c.utf8Size) cs else c :: cs

theorem takeBytes_append_dropBytes (limit : Nat) (cs : List Char) :
    takeBytes limit cs ++ dropBytes limit cs = cs := by
  induction cs generalizing limit with
  | nil => rfl
  | cons c cs ih =>
      by_cases hFits : c.utf8Size ≤ limit
      · simp [takeBytes, dropBytes, hFits, ih]
      · simp [takeBytes, dropBytes, hFits]

theorem byteLength_takeBytes_le (limit : Nat) (cs : List Char) :
    byteLength (takeBytes limit cs) ≤ limit := by
  induction cs generalizing limit with
  | nil => simp [takeBytes]
  | cons c cs ih =>
      by_cases hFits : c.utf8Size ≤ limit
      · have hRest := ih (limit - c.utf8Size)
        simp only [takeBytes, hFits, if_true, byteLength_cons]
        omega
      · simp [takeBytes, hFits]

/-! ## Cuts and substrings -/

/-- Cut at the first `sep`, which belongs to neither part; `none` without one. -/
def cutAt (sep : Char) : List Char → Option (List Char × List Char)
  | [] => none
  | c :: cs =>
      if c = sep then some ([], cs)
      else (cutAt sep cs).map fun (before, after) => (c :: before, after)

theorem cutAt_eq {sep : Char} {cs before after : List Char}
    (hCut : cutAt sep cs = some (before, after)) :
    cs = before ++ sep :: after ∧ sep ∉ before := by
  induction cs generalizing before with
  | nil => simp [cutAt] at hCut
  | cons c cs ih =>
      by_cases hSep : c = sep
      · simp only [cutAt, hSep, if_true, Option.some.injEq, Prod.mk.injEq] at hCut
        simp [← hCut.1, ← hCut.2, hSep]
      · simp only [cutAt, hSep, if_false, Option.map_eq_some_iff, Prod.mk.injEq,
          Prod.exists] at hCut
        obtain ⟨front, back, hRest, rfl, rfl⟩ := hCut
        obtain ⟨hEq, hNot⟩ := ih hRest
        exact ⟨by rw [hEq]; rfl, by simp [hNot, Ne.symm hSep]⟩

theorem cutAt_eq_none_iff {sep : Char} {cs : List Char} :
    cutAt sep cs = none ↔ sep ∉ cs := by
  induction cs with
  | nil => simp [cutAt]
  | cons c cs ih =>
      by_cases hSep : c = sep
      · simp [cutAt, hSep]
      · simp [cutAt, hSep, ih, Ne.symm hSep]

/-- Everything before the first `sep`, or all of the text without one. -/
def before (sep : Char) (cs : List Char) : List Char :=
  cs.takeWhile (· ≠ sep)

/-- Whether `needle` stands somewhere in the text. -/
def occursIn (needle : List Char) : List Char → Bool
  | [] => needle.isEmpty
  | c :: cs => needle.isPrefixOf (c :: cs) || occursIn needle cs

theorem occursIn_iff (needle cs : List Char) :
    occursIn needle cs = true ↔ needle <:+: cs := by
  induction cs with
  | nil => simp [occursIn]
  | cons c cs ih => simp [occursIn, ih, List.infix_cons_iff]

/-- `true` when `needle` stands somewhere in the string `s`. -/
def contains (s needle : String) : Bool :=
  occursIn needle.toList s.toList

/-- Drop one `last` from the end, if the text ends in it. -/
def dropOneAtEnd (last : Char) (cs : List Char) : List Char :=
  if cs.getLast? = some last then cs.dropLast else cs

/-- Drop every character that satisfies `p` from the end. -/
def dropEndWhile (p : Char → Bool) (cs : List Char) : List Char :=
  (cs.reverse.dropWhile p).reverse

/-! ## ASCII letters -/

/-- An ASCII letter's lower case; any other character as it is. -/
def toLowerAscii (cs : List Char) : List Char :=
  cs.map Char.toLower

end GridAdmin.Text
