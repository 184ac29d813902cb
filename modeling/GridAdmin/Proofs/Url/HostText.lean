import GridAdmin.Proofs.NormalForm
import GridAdmin.Url.Host

/-!
# The texts of hosts

The text of a host is told from what stands around it by brackets and colons, before anything is
known of the host itself.  So it matters which of these signs a text may hold that is read as a
host: a text in brackets holds no others between them, and any other text holds no bracket.

For a domain name the second part is far from the sign itself.  The text is decoded into bytes
and read back, its characters are mapped, the result is put into normal form, and only then the
forbidden characters are looked for.  A bracket passes through all of these steps unchanged.

## Main results

* `Host.bracket_mem_decodedText`: a bracket is not decoded into something else.
* `DomainName.bracket_not_mem_of_ascii?`: no name holds a bracket.
* `Host.isAddressChar_of_readIpv6?`: the characters of an address in brackets.
* `Host.IsHostText`: what is certain of a text that is read as a host.
-/

namespace GridAdmin

/-! ## Lists -/

/-- What is read part by part has a reading for each part. -/
theorem mem_of_mapM {α β : Type} {f : α → Option β} {xs : List α} {ys : List β} {x : α}
    (hMap : xs.mapM f = some ys) (hMem : x ∈ xs) : ∃ y ∈ ys, f x = some y := by
  induction xs generalizing ys with
  | nil => cases hMem
  | cons first rest ih =>
      simp only [List.mapM_cons, Option.bind_eq_bind, Option.bind_eq_some_iff] at hMap
      obtain ⟨y, hFirst, later, hLater, hAll⟩ := hMap
      cases hAll
      rcases List.mem_cons.mp hMem with rfl | hRest
      · exact ⟨y, List.mem_cons_self, hFirst⟩
      · obtain ⟨own, hOwn, hImage⟩ := ih hLater hRest
        exact ⟨own, List.mem_cons_of_mem _ hOwn, hImage⟩

/-- A member of a list that is split is a separator or in one of the parts. -/
theorem mem_part_of_splitOn {c separator : Char} {cs : List Char} (hMem : c ∈ cs) :
    c = separator ∨ ∃ part ∈ cs.splitOn separator, c ∈ part := by
  induction cs with
  | nil => cases hMem
  | cons first rest ih =>
      rw [List.splitOn_cons_eq_if_modifyHead]
      by_cases hFirst : first = separator
      · rw [if_pos (beq_iff_eq.mpr hFirst)]
        rcases List.mem_cons.mp hMem with rfl | hRest
        · exact Or.inl hFirst
        · refine (ih hRest).imp_right ?_
          rintro ⟨part, hPart, hIn⟩
          exact ⟨part, List.mem_cons_of_mem _ hPart, hIn⟩
      · rw [if_neg (fun hSame => hFirst (beq_iff_eq.mp hSame))]
        cases hParts : rest.splitOn separator with
        | nil => exact absurd hParts (List.splitOn_ne_nil _ _)
        | cons head tail =>
            rw [hParts] at ih
            rw [List.modifyHead_cons]
            rcases List.mem_cons.mp hMem with rfl | hRest
            · exact Or.inr ⟨_, List.mem_cons_self, List.mem_cons_self⟩
            · refine (ih hRest).imp_right ?_
              rintro ⟨part, hPart, hIn⟩
              rcases List.mem_cons.mp hPart with rfl | hTail
              · exact ⟨_, List.mem_cons_self, List.mem_cons_of_mem _ hIn⟩
              · exact ⟨part, List.mem_cons_of_mem _ hTail, hIn⟩

/-! ## Bytes of a text -/

/-- A byte of ASCII is written for its own character only. -/
private theorem toNat_eq_of_mem_utf8EncodeChar {c : Char} {b : UInt8} (hAscii : b.toNat < 0x80)
    (hMem : b ∈ String.utf8EncodeChar c) : c.toNat = b.toNat := by
  have hSame : c.val.toNat = c.toNat := rfl
  unfold String.utf8EncodeChar at hMem
  dsimp only at hMem
  split at hMem
  next hOne =>
    rw [List.mem_singleton.mp hMem, UInt8.toNat_ofNat']
    omega
  -- All bytes of a longer form are beyond ASCII.
  next =>
    split at hMem
    · simp only [List.mem_cons, List.not_mem_nil, or_false] at hMem
      rcases hMem with rfl | rfl <;> rw [UInt8.toNat_ofNat'] at hAscii <;> omega
    · split at hMem
      · simp only [List.mem_cons, List.not_mem_nil, or_false] at hMem
        rcases hMem with rfl | rfl | rfl <;> rw [UInt8.toNat_ofNat'] at hAscii <;> omega
      · simp only [List.mem_cons, List.not_mem_nil, or_false] at hMem
        rcases hMem with rfl | rfl | rfl | rfl <;> rw [UInt8.toNat_ofNat'] at hAscii <;> omega

private theorem mem_utf8EncodeChar_self {c : Char} (hAscii : c.toNat < 0x80) :
    UInt8.ofNat c.toNat ∈ String.utf8EncodeChar c := by
  have hOne : c.val.toNat ≤ 0x7f := Nat.le_of_lt_succ hAscii
  unfold String.utf8EncodeChar
  dsimp only
  rw [if_pos hOne]
  exact List.mem_singleton.mpr rfl

namespace Percent

variable {c : Char} {cs : List Char}

/-- A character of ASCII that is part of no escape is its own byte. -/
private theorem mem_decode (hAscii : c.toNat < 0x80) (hEscape : c ≠ '%') (hHex : hexValue? c = none)
    (hMem : c ∈ cs) : UInt8.ofNat c.toNat ∈ decode cs := by
  induction cs using decode.induct with
  | case1 => cases hMem
  | case2 a b rest high low hLow hHigh ih =>
      have hRest : c ∈ rest := by
        rw [List.mem_cons, List.mem_cons, List.mem_cons] at hMem
        rcases hMem with hSign | rfl | rfl | hRest
        · exact absurd hSign hEscape
        · cases hHex.symm.trans hHigh
        · cases hHex.symm.trans hLow
        · exact hRest
      rw [decode, hHigh, hLow]
      exact List.mem_cons_of_mem _ (ih hRest)
  | case3 a b rest hNone ih =>
      have hBehind := ih (List.mem_of_ne_of_mem hEscape hMem)
      rw [decode]
      split
      next high low hHigh hLow => exact absurd hLow (hNone high low hHigh)
      next => exact List.mem_append_right _ hBehind
  | case4 d rest hPlain ih =>
      rw [decode]
      · rw [List.mem_append]
        rcases List.mem_cons.mp hMem with rfl | hRest
        · exact Or.inl (mem_utf8EncodeChar_self hAscii)
        · exact Or.inr (ih hRest)
      · exact hPlain

end Percent

namespace Host

/-- A bracket is not decoded into something else. -/
theorem bracket_mem_decodedText {cs text : List Char} (hText : decodedText? cs = some text)
    (hMem : '[' ∈ cs) : '[' ∈ text := by
  unfold decodedText? at hText
  rw [Option.map_eq_some_iff] at hText
  obtain ⟨decoded, hDecoded, rfl⟩ := hText
  have hByte := Percent.mem_decode (c := '[') (by decide) (by decide) (by decide) hMem
  have hBytes : decoded.toByteArray = ⟨(Percent.decode cs).toArray⟩ := by
    unfold String.fromUTF8? at hDecoded
    split at hDecoded
    · cases hDecoded
      rfl
    · cases hDecoded
  rw [← String.utf8Encode_toList] at hBytes
  have hEncoded : decoded.toList.flatMap String.utf8EncodeChar = Percent.decode cs := by
    have hList := congrArg (fun bytes => bytes.data.toList) hBytes
    unfold List.utf8Encode at hList
    dsimp only at hList
    rwa [List.toList_data_toByteArray] at hList
  rw [← hEncoded] at hByte
  obtain ⟨c, hChar, hOwn⟩ := List.mem_flatMap.mp hByte
  have hSame : c = '[' := Char.toNat_inj.mp (toNat_eq_of_mem_utf8EncodeChar (by decide) hOwn)
  rwa [hSame] at hChar

end Host

namespace DomainName

/-- No name holds a bracket. -/
theorem bracket_not_mem_of_ascii? {name ascii : List Char} (hName : ascii? name = some ascii) :
    '[' ∉ name := by
  intro hMem
  unfold ascii? labels? prepared? at hName
  simp only [Option.bind_eq_bind, Option.map_eq_some_iff, Option.bind_eq_some_iff] at hName
  obtain ⟨labels, ⟨text, ⟨mapped, hMapped, hText⟩, -⟩, -⟩ := hName
  have hFlat : '[' ∈ mapped.flatten := by
    obtain ⟨own, hOwn, hBracket⟩ := mem_of_mapM hMapped hMem
    have hSelf : mapped? '[' = some ['['] := by decide
    cases hSelf.symm.trans hBracket
    exact List.mem_flatten_of_mem hOwn (List.mem_singleton_self _)
  have hNormal : '[' ∈ Text.normalForm mapped.flatten := Text.isInert_bracket.mem_normalForm hFlat
  rw [if_pos (List.any_eq_true.mpr ⟨_, hNormal, by decide⟩)] at hText
  cases hText

end DomainName

namespace Host

/-! ## Addresses in brackets -/

/-- A character of an address in brackets. -/
def IsAddressChar (c : Char) : Prop :=
  c = ':' ∨ c = '.' ∨ (Percent.hexValue? c).isSome = true

section Addresses

variable {c : Char} {cs : List Char}

theorem isAddressChar_of_number? {base start n : Nat}
    (hNumber : cs.foldlM (fun n c => (digit? base c).map (n * base + ·)) start = some n)
    (hMem : c ∈ cs) : IsAddressChar c := by
  induction cs generalizing start with
  | nil => cases hMem
  | cons first rest ih =>
      simp only [List.foldlM_cons, Option.bind_eq_bind, Option.bind_eq_some_iff,
        Option.map_eq_some_iff] at hNumber
      obtain ⟨next, ⟨value, hDigit, -⟩, hRest⟩ := hNumber
      rcases List.mem_cons.mp hMem with rfl | hLater
      · obtain ⟨hHex, -⟩ := Option.filter_eq_some_iff.mp hDigit
        exact Or.inr (Or.inr (Option.isSome_of_mem hHex))
      · exact ih hRest hLater

private theorem isAddressChar_of_piece? {n : Nat} (hPiece : piece? cs = some n) (hMem : c ∈ cs) :
    IsAddressChar c := by
  unfold piece? at hPiece
  split at hPiece
  · cases hPiece
  · exact isAddressChar_of_number? hPiece hMem

private theorem isAddressChar_of_byte? {n : Nat} (hByte : byte? cs = some n) (hMem : c ∈ cs) :
    IsAddressChar c := by
  unfold byte? at hByte
  split at hByte
  · cases hByte
  · exact isAddressChar_of_number? (Option.filter_eq_some_iff.mp hByte).1 hMem

private theorem isAddressChar_of_embeddedIpv4? {pieces : List Nat}
    (hEmbedded : embeddedIpv4? cs = some pieces) (hMem : c ∈ cs) : IsAddressChar c := by
  unfold embeddedIpv4? at hEmbedded
  simp only [Option.bind_eq_bind, Option.bind_eq_some_iff] at hEmbedded
  obtain ⟨bytes, hBytes, -⟩ := hEmbedded
  rcases @mem_part_of_splitOn c '.' cs hMem with hDot | ⟨part, hPart, hIn⟩
  · exact Or.inr (Or.inl hDot)
  · obtain ⟨byte, -, hByte⟩ := mem_of_mapM hBytes hPart
    exact isAddressChar_of_byte? hByte hIn

/-- Pieces and an embedded address are made of digits and dots. -/
private theorem isAddressChar_of_pieces? {parts : List (List Char)} {pieces : List Nat}
    (hPieces : pieces? parts = some pieces) {part : List Char} (hPart : part ∈ parts)
    (hMem : c ∈ part) : IsAddressChar c := by
  induction parts using pieces?.induct generalizing pieces with
  | case1 => cases hPart
  | case2 last hDots =>
      rw [List.mem_singleton] at hPart
      subst hPart
      rw [pieces?, if_pos hDots] at hPieces
      exact isAddressChar_of_embeddedIpv4? hPieces hMem
  | case3 last hDots =>
      rw [List.mem_singleton] at hPart
      subst hPart
      rw [pieces?, if_neg hDots, Option.map_eq_some_iff] at hPieces
      obtain ⟨n, hPiece, -⟩ := hPieces
      exact isAddressChar_of_piece? hPiece hMem
  | case4 first rest hMore ih =>
      rw [pieces?] at hPieces
      · simp only [Option.bind_eq_bind, Option.bind_eq_some_iff] at hPieces
        obtain ⟨n, hFirst, others, hRest, -⟩ := hPieces
        rcases List.mem_cons.mp hPart with rfl | hLater
        · exact isAddressChar_of_piece? hFirst hMem
        · exact ih hRest hLater
      · exact hMore

theorem isAddressChar_of_splitPieces? {pieces : List Nat}
    (hPieces : pieces? (cs.splitOn ':') = some pieces) (hMem : c ∈ cs) : IsAddressChar c := by
  rcases @mem_part_of_splitOn c ':' cs hMem with hColon | ⟨part, hPart, hIn⟩
  · exact Or.inl hColon
  · exact isAddressChar_of_pieces? hPieces hPart hIn

private theorem isAddressChar_of_side? {pieces : List Nat} (hSide : side? cs = some pieces)
    (hMem : c ∈ cs) : IsAddressChar c := by
  unfold side? at hSide
  split at hSide
  next hEmpty =>
    rw [List.isEmpty_iff.mp hEmpty] at hMem
    cases hMem
  next => exact isAddressChar_of_splitPieces? hSide hMem

private theorem eq_of_cutDouble {front back : List Char}
    (hCut : cutDouble cs = some (front, back)) :
    cs = front ++ ':' :: ':' :: back := by
  induction cs using cutDouble.induct generalizing front with
  | case1 rest =>
      cases hCut
      rfl
  | case2 first rest hPlain ih =>
      rw [cutDouble] at hCut
      · obtain ⟨⟨inner, outer⟩, hInner, hBoth⟩ := Option.map_eq_some_iff.mp hCut
        cases hBoth
        rw [ih hInner]
        rfl
      · exact hPlain
  | case3 => cases hCut

/-- The characters of an address in brackets. -/
theorem isAddressChar_of_readIpv6? {pieces : List Nat} (hRead : readIpv6? cs = some pieces)
    (hMem : c ∈ cs) : IsAddressChar c := by
  unfold readIpv6? at hRead
  split at hRead
  next => exact isAddressChar_of_splitPieces? (Option.filter_eq_some_iff.mp hRead).1 hMem
  next front back hCut =>
    split at hRead
    · cases hRead
    · simp only [Option.bind_eq_bind, Option.bind_eq_some_iff] at hRead
      obtain ⟨left, hLeft, right, hRight, -⟩ := hRead
      rw [eq_of_cutDouble hCut] at hMem
      simp only [List.mem_append, List.mem_cons] at hMem
      rcases hMem with hFront | hColon | hColon | hBack
      · exact isAddressChar_of_side? hLeft hFront
      · exact Or.inl hColon
      · exact Or.inl hColon
      · exact isAddressChar_of_side? hRight hBack

end Addresses

/-! ## Texts that are read as hosts -/

/-- A text in brackets without a closing one between them, or one without an opening bracket. -/
inductive IsHostText : List Char → Prop where
  | bracketed {inner : List Char} (hInner : ']' ∉ inner) : IsHostText ('[' :: inner ++ [']'])
  | plain {cs : List Char} (hPlain : '[' ∉ cs) : IsHostText cs

section Texts

variable {cs : List Char} {host : Host}

theorem isHostText_of_readBracketed (hHead : cs.head? = some '[')
    (hRead : readBracketed cs = .ok host) : IsHostText cs := by
  obtain ⟨rest, rfl⟩ := List.head?_eq_some_iff.mp hHead
  unfold readBracketed at hRead
  split at hRead
  next hLast =>
    have hNonempty : rest ≠ [] := by
      rintro rfl
      cases hLast
    have hClosing : rest.getLast hNonempty = ']' := by
      rw [List.getLast?_cons_of_ne_nil hNonempty, List.getLast?_eq_some_getLast hNonempty] at hLast
      exact Option.some.inj hLast
    have hRest : rest.dropLast ++ [']'] = rest := by
      rw [← hClosing]
      exact List.dropLast_concat_getLast hNonempty
    split at hRead
    next pieces hPieces =>
      have hInner : ']' ∉ rest.dropLast := by
        intro hMem
        exact absurd (isAddressChar_of_readIpv6? hPieces hMem) (by unfold IsAddressChar; decide)
      rw [← hRest]
      exact .bracketed hInner
    next => cases hRead
  next => cases hRead

/-- The host of an address with a well known scheme. -/
theorem isHostText_of_read (hRead : Host.read cs = .ok host) : IsHostText cs := by
  unfold Host.read at hRead
  split at hRead
  next hHead => exact isHostText_of_readBracketed hHead hRead
  next =>
    cases hName : (decodedText? cs).bind DomainName.ascii? with
    | none =>
        rw [hName] at hRead
        cases hRead
    | some name =>
        obtain ⟨text, hText, hAscii⟩ := Option.bind_eq_some_iff.mp hName
        exact .plain fun hMem => DomainName.bracket_not_mem_of_ascii? hAscii
          (bracket_mem_decodedText hText hMem)

/-- The host of an address with any other scheme. -/
theorem isHostText_of_readOpaque (hRead : Host.readOpaque cs = .ok host) : IsHostText cs := by
  unfold Host.readOpaque at hRead
  split at hRead
  next hHead => exact isHostText_of_readBracketed hHead hRead
  next =>
    split at hRead
    · cases hRead
    next hAllowed =>
      refine .plain fun hMem => hAllowed ?_
      exact List.any_eq_true.mpr ⟨_, hMem, by decide⟩

end Texts

end Host

end GridAdmin
