import GridAdmin.Proofs.TextCuts
import GridAdmin.Scramble.Wheel
import Mathlib.Data.List.Forall2
import Mathlib.Data.List.GetD
import Mathlib.Data.List.Nodup

/-!
# Scrambling can be undone

A password that is sent scrambled must be read back by the service, and so scrambling has
to be undone by descrambling under the same key, whatever the key is and whatever the
password holds.  Nothing about the digest matters for this: the two directions undo each
other for any key stream.

What makes it work is the chain.  Scrambling turns a character by the position of the
*scrambled* character before it.  Descrambling has just read that character, so both
directions stand at the same chain at every index, and at each index one turns back what
the other turned forward.  A character off the wheel moves the index and not the chain, in
both directions alike.

## Main definitions

* `Wheel.Replaces`: what either direction may do to one character.

## Main results

* `descrambleFrom_scrambleFrom`, `scrambleFrom_descrambleFrom`: from any index and any chain
  on, the two directions undo each other.
* `forall₂_scrambleFrom`: characters are replaced one by one, on the wheel by such and off
  the wheel by themselves.
* `descramble_scramble`, `scramble_descramble`, `length_scramble`, `utf8ByteSize_scramble`:
  the same of texts under a key.
* `scramble_bijective`: all of it for whole texts, under key streams and under keys.
-/

namespace GridAdmin

/-! ## The wheel -/

namespace Wheel

variable {c after : Char} {position : Nat}

private theorem forward_lt (position shift : Nat) : forward position shift < size :=
  Nat.mod_lt _ (by decide)

private theorem back_lt (position shift : Nat) : back position shift < size :=
  Nat.mod_lt _ (by decide)

theorem lt_length_iff : position < chars.length ↔ position < size := by
  rw [length_chars]

/-- Every position up to the size of the wheel has its own character. -/
theorem char_eq_getElem (hLength : position < chars.length) : char position = chars[position] := by
  rw [char, Nat.mod_eq_of_lt (lt_length_iff.mp hLength)]
  exact List.getD_eq_getElem chars '0' hLength

private theorem char_mem : char position ∈ chars := by
  have hLength : position % size < chars.length := lt_length_iff.mpr (Nat.mod_lt _ (by decide))
  have hSame : char position = char (position % size) := by
    rw [char, char, Nat.mod_mod]
  rw [hSame, char_eq_getElem hLength]
  exact List.getElem_mem _

/-- Positions and characters determine each other, since no character stands on the wheel
twice. -/
theorem position?_eq_some_iff :
    position? c = some position ↔ position < size ∧ char position = c := by
  rw [position?, List.idxOf?_eq_some_iff]
  constructor
  · rintro ⟨hLength, hAt, -⟩
    refine ⟨lt_length_iff.mp hLength, ?_⟩
    rw [char_eq_getElem hLength]
    exact hAt
  · rintro ⟨hOn, hChar⟩
    have hLength : position < chars.length := lt_length_iff.mpr hOn
    rw [char_eq_getElem hLength] at hChar
    refine ⟨hLength, hChar, ?_⟩
    intro earlier hEarlier hSame
    have hIndex : earlier = position := by
      apply nodup_chars.getElem_inj_iff.mp
      rw [hSame, hChar]
    omega

theorem position?_char (hOn : position < size) : position? (char position) = some position :=
  position?_eq_some_iff.mpr ⟨hOn, rfl⟩

private theorem position?_eq_none_iff : position? c = none ↔ c ∉ chars :=
  List.idxOf?_eq_none_iff

/-- Only ASCII characters stand on the wheel. -/
private theorem utf8Size_of_mem (hOn : c ∈ chars) : c.utf8Size = 1 := by
  have hWheel : chars.all (·.utf8Size == 1) = true := by decide +kernel
  exact beq_iff_eq.mp (List.all_eq_true.mp hWheel c hOn)

/-- A character on the wheel is replaced by one on the wheel, and any other by itself. -/
def Replaces (after before : Char) : Prop :=
  (before ∈ chars → after ∈ chars) ∧ (before ∉ chars → after = before)

private theorem replaces_char (hPosition : position? c = some position) (turned : Nat) :
    Replaces (char turned) c := by
  have hOn : c ∈ chars := by
    rw [← (position?_eq_some_iff.mp hPosition).2]
    exact char_mem
  exact ⟨fun _ => char_mem, fun hOff => absurd hOn hOff⟩

private theorem replaces_self (hPosition : position? c = none) : Replaces c c := by
  have hOff : c ∉ chars := position?_eq_none_iff.mp hPosition
  exact ⟨fun hOn => absurd hOn hOff, fun _ => rfl⟩

private theorem Replaces.utf8Size_eq (hReplaces : Replaces after c) :
    after.utf8Size = c.utf8Size := by
  by_cases hOn : c ∈ chars
  · rw [utf8Size_of_mem hOn, utf8Size_of_mem (hReplaces.1 hOn)]
  · rw [hReplaces.2 hOn]

end Wheel

/-! ## Both directions -/

section Directions

section Steps

variable {stream : KeyStream} {index chain position : Nat} {c : Char} {text : List Char}

theorem scrambleFrom_off (hPosition : Wheel.position? c = none) :
    scrambleFrom stream index chain (c :: text)
      = c :: scrambleFrom stream (index + 1) chain text := by
  conv_lhs => unfold scrambleFrom
  rw [hPosition]

theorem scrambleFrom_on (hPosition : Wheel.position? c = some position) :
    scrambleFrom stream index chain (c :: text)
      = Wheel.char (Wheel.forward position (stream.shift index + chain))
        :: scrambleFrom stream (index + 1)
          (Wheel.forward position (stream.shift index + chain)) text := by
  conv_lhs => unfold scrambleFrom
  rw [hPosition]

theorem descrambleFrom_off (hPosition : Wheel.position? c = none) :
    descrambleFrom stream index chain (c :: text)
      = c :: descrambleFrom stream (index + 1) chain text := by
  conv_lhs => unfold descrambleFrom
  rw [hPosition]

theorem descrambleFrom_on (hPosition : Wheel.position? c = some position) :
    descrambleFrom stream index chain (c :: text)
      = Wheel.char (Wheel.back position (stream.shift index + chain))
        :: descrambleFrom stream (index + 1) position text := by
  conv_lhs => unfold descrambleFrom
  rw [hPosition]

end Steps

variable (stream : KeyStream) (index chain : Nat) (text : List Char)

/-- Where scrambling goes on behind the character at `index`, descrambling has the position
of that character as its chain. -/
theorem descrambleFrom_scrambleFrom :
    descrambleFrom stream index chain (scrambleFrom stream index chain text) = text := by
  induction text generalizing index chain with
  | nil => rfl
  | cons c cs ih =>
      cases hPosition : Wheel.position? c with
      | none =>
          rw [scrambleFrom_off hPosition, descrambleFrom_off hPosition, ih]
      | some position =>
          obtain ⟨hOn, hChar⟩ := Wheel.position?_eq_some_iff.mp hPosition
          -- What was written is on the wheel, so it is read at the position it was turned to.
          have hTurned := Wheel.forward_lt position (stream.shift index + chain)
          have hRead := Wheel.position?_char hTurned
          rw [scrambleFrom_on hPosition, descrambleFrom_on hRead, Wheel.back_forward hOn, hChar, ih]

/-- The other way round the chain is the position of the character that was read, and
scrambling comes back to it. -/
theorem scrambleFrom_descrambleFrom :
    scrambleFrom stream index chain (descrambleFrom stream index chain text) = text := by
  induction text generalizing index chain with
  | nil => rfl
  | cons c cs ih =>
      cases hPosition : Wheel.position? c with
      | none =>
          rw [descrambleFrom_off hPosition, scrambleFrom_off hPosition, ih]
      | some position =>
          obtain ⟨hOn, hChar⟩ := Wheel.position?_eq_some_iff.mp hPosition
          have hTurned := Wheel.back_lt position (stream.shift index + chain)
          have hRead := Wheel.position?_char hTurned
          rw [descrambleFrom_on hPosition, scrambleFrom_on hRead, Wheel.forward_back hOn, hChar, ih]

theorem forall₂_scrambleFrom :
    List.Forall₂ Wheel.Replaces (scrambleFrom stream index chain text) text := by
  induction text generalizing index chain with
  | nil => exact .nil
  | cons c cs ih =>
      cases hPosition : Wheel.position? c with
      | none =>
          rw [scrambleFrom_off hPosition]
          exact .cons (Wheel.replaces_self hPosition) (ih _ _)
      | some position =>
          rw [scrambleFrom_on hPosition]
          exact .cons (Wheel.replaces_char hPosition _) (ih _ _)

end Directions

/-! ## Whole texts -/

namespace Wheel

variable {text replaced : List Char}

/-- Replacing characters one by one keeps the number of bytes. -/
theorem byteLength_of_forall₂ (hReplaced : List.Forall₂ Replaces replaced text) :
    Text.byteLength replaced = Text.byteLength text := by
  induction hReplaced with
  | nil => rfl
  | cons hHead hRest ih => rw [Text.byteLength_cons, Text.byteLength_cons, hHead.utf8Size_eq, ih]

private theorem getElem?_of_forall₂ (hReplaced : List.Forall₂ Replaces replaced text) {index : Nat}
    {c : Char} (hAt : text[index]? = some c) :
    ∃ after, replaced[index]? = some after ∧ Replaces after c := by
  obtain ⟨hIndex, hChar⟩ := List.getElem?_eq_some_iff.mp hAt
  have hInside : index < replaced.length := by
    rw [hReplaced.length_eq]
    exact hIndex
  have hPair := (List.forall₂_iff_get.mp hReplaced).2 index hInside hIndex
  refine ⟨replaced[index], List.getElem?_eq_getElem hInside, ?_⟩
  rw [← hChar]
  exact hPair

end Wheel

section Texts

variable (text key : String)

theorem descramble_scramble : descramble (scramble text key) key = text := by
  unfold descramble scramble
  rw [String.toList_ofList]
  exact (congrArg String.ofList (descrambleFrom_scrambleFrom _ 0 0 _)).trans String.ofList_toList

theorem scramble_descramble : scramble (descramble text key) key = text := by
  unfold scramble descramble
  rw [String.toList_ofList]
  exact (congrArg String.ofList (scrambleFrom_descrambleFrom _ 0 0 _)).trans String.ofList_toList

theorem length_scramble : (scramble text key).length = text.length := by
  rw [scramble, String.length_ofList]
  exact (forall₂_scrambleFrom (KeyStream.ofKey key) 0 0 text.toList).length_eq

theorem utf8ByteSize_scramble : (scramble text key).utf8ByteSize = text.utf8ByteSize := by
  rw [scramble, utf8ByteSize_ofList]
  refine (Wheel.byteLength_of_forall₂ (forall₂_scrambleFrom (KeyStream.ofKey key) 0 0 _)).trans ?_
  rw [← utf8ByteSize_ofList, String.ofList_toList]

end Texts

/-- Scrambling and descrambling undo each other under every key stream.  Scrambling keeps
the number of characters and the number of bytes.  It leaves a character off the wheel
where and as it is, and puts a character of the wheel in the place of each other one.  Every
key has a key stream, so the same holds of the texts that are scrambled under a key. -/
theorem scramble_bijective (stream : KeyStream) (text : List Char) :
    stream.descramble (stream.scramble text) = text ∧
    stream.scramble (stream.descramble text) = text ∧
    (stream.scramble text).length = text.length ∧
    Text.byteLength (stream.scramble text) = Text.byteLength text ∧
    (∀ (index : Nat) (c : Char), text[index]? = some c →
      ∃ after, (stream.scramble text)[index]? = some after ∧
        (c ∈ Wheel.chars → after ∈ Wheel.chars) ∧ (c ∉ Wheel.chars → after = c)) ∧
    ∀ s key : String,
      descramble (scramble s key) key = s ∧ scramble (descramble s key) key = s ∧
        (scramble s key).length = s.length ∧ (scramble s key).utf8ByteSize = s.utf8ByteSize := by
  have hReplaced := forall₂_scrambleFrom stream 0 0 text
  refine ⟨descrambleFrom_scrambleFrom stream 0 0 text, scrambleFrom_descrambleFrom stream 0 0 text,
    hReplaced.length_eq, Wheel.byteLength_of_forall₂ hReplaced, ?_, ?_⟩
  · intro index c hAt
    exact Wheel.getElem?_of_forall₂ hReplaced hAt
  · intro s key
    exact ⟨descramble_scramble s key, scramble_descramble s key, length_scramble s key,
      utf8ByteSize_scramble s key⟩

/-- The at sign is off the wheel and stays where it is, and the letter before it is replaced
by a character of the wheel. -/
theorem scramble_at_sign :
    ['p', '@'][0]? = some 'p' ∧ ['p', '@'][1]? = some '@' ∧
      'p' ∈ Wheel.chars ∧ '@' ∉ Wheel.chars ∧
      (∃ after ∈ Wheel.chars, ((KeyStream.ofKey "secret").scramble ['p', '@'])[0]? = some after) ∧
      ((KeyStream.ofKey "secret").scramble ['p', '@'])[1]? = some '@' ∧
      (KeyStream.ofKey "secret").descramble ((KeyStream.ofKey "secret").scramble ['p', '@'])
        = ['p', '@'] := by
  obtain ⟨hBack, -, -, -, hEach, -⟩ := scramble_bijective (KeyStream.ofKey "secret") ['p', '@']
  have hLetter : 'p' ∈ Wheel.chars := by decide +kernel
  have hSign : '@' ∉ Wheel.chars := by decide +kernel
  obtain ⟨first, hFirst, hOn, -⟩ := hEach 0 'p' rfl
  obtain ⟨second, hSecond, -, hOff⟩ := hEach 1 '@' rfl
  refine ⟨rfl, rfl, hLetter, hSign, ⟨first, hOn hLetter, hFirst⟩, ?_, hBack⟩
  rw [hSecond, hOff hSign]

end GridAdmin
