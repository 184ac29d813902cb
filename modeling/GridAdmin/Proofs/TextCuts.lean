import GridAdmin.Text.Basic
import Mathlib.Data.List.TakeWhile

/-!
# Cuts of a text

A text is cut in two ways: at a sign that stands somewhere in it, and at a number of bytes.
Both are used all over the readers of this library, and what is said about them here needs
nothing but the text itself.  A cut at a sign is unique if the sign does not stand in front of
it.  A cut at a number of bytes keeps whole characters, and as many of them as there is room
for.

## Main results

* `before_append`, `behind_append`: a text is cut where the sign was put.
* `isPrefix_takeBytes`: a cut by bytes keeps as much as it may.
* `isValid_byteLength`: the end of a prefix is a position between characters.
-/

namespace GridAdmin

/-- The bytes of a string are those of its characters. -/
theorem utf8ByteSize_ofList (text : List Char) :
    (String.ofList text).utf8ByteSize = Text.byteLength text := by
  induction text with
  | nil => rfl
  | cons c cs ih =>
      rw [String.ofList_cons, String.utf8ByteSize_append, String.utf8ByteSize_singleton, ih,
        Text.byteLength_cons]

namespace Text

/-! ## Signs -/

section Signs

variable {cs front back : List Char} {sign : Char}

theorem forall_ne (hNone : sign ∉ cs) : ∀ c ∈ cs, decide (c ≠ sign) = true := by
  intro c hMem
  exact decide_eq_true fun hSame => hNone (hSame ▸ hMem)

theorem takeWhile_ne_append (hFront : sign ∉ front) :
    (front ++ sign :: back).takeWhile (· ≠ sign) = front := by
  rw [List.takeWhile_append_of_pos (forall_ne hFront), List.takeWhile_cons_of_neg (by simp),
    List.append_nil]

theorem dropWhile_ne_append (hFront : sign ∉ front) :
    (front ++ back).dropWhile (· ≠ sign) = back.dropWhile (· ≠ sign) :=
  List.dropWhile_append_of_pos (forall_ne hFront)

theorem before_append (hFront : sign ∉ front) : before sign (front ++ sign :: back) = front :=
  takeWhile_ne_append hFront

theorem cutAt_append (hFront : sign ∉ front) :
    cutAt sign (front ++ sign :: back) = some (front, back) := by
  induction front with
  | nil => rw [List.nil_append, cutAt, if_pos rfl]
  | cons c cs ih =>
      have hOther : ¬c = sign := Ne.symm (List.ne_of_not_mem_cons hFront)
      rw [List.cons_append, cutAt, if_neg hOther, ih (List.not_mem_of_not_mem_cons hFront)]
      rfl

theorem before_of_not_mem (hNone : sign ∉ cs) : before sign cs = cs :=
  List.takeWhile_eq_self_iff.mpr (forall_ne hNone)

theorem not_mem_before (sign : Char) (cs : List Char) : sign ∉ before sign cs := by
  intro hMem
  have hOther := List.mem_takeWhile_imp hMem
  simp at hOther

/-- Everything behind the first `sign`; nothing without one. -/
def behind (sign : Char) (cs : List Char) : List Char :=
  (cs.dropWhile (· ≠ sign)).tail

theorem behind_append (hFront : sign ∉ front) : behind sign (front ++ sign :: back) = back := by
  rw [behind, dropWhile_ne_append hFront, List.dropWhile_cons_of_neg (by simp), List.tail_cons]

theorem behind_of_not_mem (hNone : sign ∉ cs) : behind sign cs = [] := by
  rw [behind, List.dropWhile_eq_nil_iff.mpr (forall_ne hNone), List.tail_nil]

theorem length_behind_le (sign : Char) (cs : List Char) :
    (behind sign cs).length ≤ cs.length := by
  have hSuffix : behind sign cs <:+ cs := (List.tail_suffix _).trans (List.dropWhile_suffix _)
  exact hSuffix.length_le

/-- A text is cut at its first sign, if it holds one. -/
theorem eq_before_append_behind (hMem : sign ∈ cs) :
    cs = before sign cs ++ sign :: behind sign cs := by
  obtain ⟨front, back, rfl, hFront⟩ := List.eq_append_cons_of_mem hMem
  rw [before_append hFront, behind_append hFront]

end Signs

/-! ## Bytes -/

theorem takeBytes_append {first : List Char} (rest : List Char) {limit : Nat}
    (hFits : byteLength first ≤ limit) :
    takeBytes limit (first ++ rest) = first ++ takeBytes (limit - byteLength first) rest := by
  induction first generalizing limit with
  | nil => rfl
  | cons c cs ih =>
      rw [byteLength_cons] at hFits
      have hHead : c.utf8Size ≤ limit := by omega
      have hTail : byteLength cs ≤ limit - c.utf8Size := by omega
      have hLeft : limit - c.utf8Size - byteLength cs = limit - byteLength (c :: cs) := by
        rw [byteLength_cons]
        omega
      rw [List.cons_append, takeBytes, if_pos hHead, ih hTail, hLeft]
      rfl

theorem takeBytes_zero (text : List Char) : takeBytes 0 text = [] := by
  cases text with
  | nil => rfl
  | cons c cs =>
      have hPositive := c.utf8Size_pos
      rw [takeBytes, if_neg (by omega)]

theorem dropBytes_append (first rest : List Char) :
    dropBytes (byteLength first) (first ++ rest) = dropBytes 0 rest := by
  induction first with
  | nil => rfl
  | cons c cs ih =>
      have hHead : c.utf8Size ≤ byteLength (c :: cs) := by
        rw [byteLength_cons]
        omega
      have hLeft : byteLength (c :: cs) - c.utf8Size = byteLength cs := by
        rw [byteLength_cons]
        omega
      rw [List.cons_append, dropBytes, if_pos hHead, hLeft, ih]

theorem dropBytes_zero (text : List Char) : dropBytes 0 text = text := by
  have hWhole := takeBytes_append_dropBytes 0 text
  rw [takeBytes_zero] at hWhole
  exact hWhole

theorem takeBytes_isPrefix (limit : Nat) (text : List Char) : takeBytes limit text <+: text :=
  ⟨dropBytes limit text, takeBytes_append_dropBytes limit text⟩

/-- Every prefix within the limit is part of what is kept. -/
theorem isPrefix_takeBytes {limit : Nat} {first text : List Char} (hPrefix : first <+: text)
    (hFits : byteLength first ≤ limit) : first <+: takeBytes limit text := by
  obtain ⟨rest, rfl⟩ := hPrefix
  rw [takeBytes_append rest hFits]
  exact List.prefix_append _ _

/-- The end of a prefix is a position between characters. -/
theorem isValid_byteLength {first text : List Char} (hPrefix : first <+: text) :
    (⟨byteLength first⟩ : String.Pos.Raw).IsValid (String.ofList text) := by
  obtain ⟨rest, rfl⟩ := hPrefix
  refine String.Pos.Raw.isValid_iff_exists_append.mpr
    ⟨String.ofList first, String.ofList rest, String.ofList_append, ?_⟩
  rw [← utf8ByteSize_ofList]
  rfl

end Text

end GridAdmin
