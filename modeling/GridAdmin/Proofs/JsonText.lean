import GridAdmin.Json.Printer
import GridAdmin.Json.Reader

/-!
# Written JSON is read back

The compact layout and the reader are two descriptions of one format, and the
reader accepts much that the layout never produces. Here they are held against
each other: the reader finds in a written text the very value that it was
written from, for every value, odd ones included: a number with an exponent, a
literal that stands for no text, an object that repeats a key.

Each reader is stated on a written part with any text behind it. Only a number
cares what that text is, because it ends where nothing prolongs it; inside a
value it is always followed by a comma or a closing bracket, and a whole text is
followed by nothing.

The reader counts its levels of recursion. Two for each character are enough, so
the induction over a value carries that bound, and the levels that `Json.read?`
sets aside never run out.

## Main definitions

* `Json.EndsNumber`: the text does not prolong a number in front of it.

## Main results

* `Json.readPieces?_escapeChar`: a character of a string is read as it was.
* `Json.readNumber?_print`: so is a number.
* `Json.readValue?_compact`: so is a value, in front of any text that does not
  prolong a number.
* `Json.read?_compactText`: a written text holds the value that it was written
  from.
-/

namespace GridAdmin.Json

/-! ## Strings -/

private theorem hexDigit?_digitChar : ∀ n < 16, hexDigit? (Nat.digitChar n) = some n := by
  decide

/-- A short escape is read as the character that it stands for. -/
theorem readPieces?_shortEscape {e c : Char} (rest : List Char) (hOther : e ≠ 'u')
    (hEscape : shortEscape? e = some c) :
    readPieces? ('\\' :: e :: rest)
      = (readPieces? rest).map fun (pieces, after) => (.char c :: pieces, after) := by
  have hNoUnit : ∀ a b c d after, e = 'u' → rest = a :: b :: c :: d :: after → False :=
    fun _ _ _ _ _ hUnit _ => hOther hUnit
  rw [readPieces?.eq_4 e rest hNoUnit, hEscape, Option.bind_eq_bind, Option.bind_some]
  cases readPieces? rest <;> rfl

/-- A numeric escape of a control character is read as that character. -/
private theorem readPieces?_controlEscape {c : Char} (rest : List Char)
    (hControl : c.toNat < 0x20) :
    readPieces? ('\\' :: 'u' :: '0' :: '0' :: Nat.digitChar (c.toNat / 16)
        :: Nat.digitChar (c.toNat % 16) :: rest)
      = (readPieces? rest).map fun (pieces, after) => (.char c :: pieces, after) := by
  have hHigh := hexDigit?_digitChar (c.toNat / 16) (by omega)
  have hLow := hexDigit?_digitChar (c.toNat % 16) (by omega)
  have hZero : hexDigit? '0' = some 0 := rfl
  have hUnit : hexUnit? '0' '0' (Nat.digitChar (c.toNat / 16)) (Nat.digitChar (c.toNat % 16))
      = some c.toNat := by
    simp only [hexUnit?, hZero, hHigh, hLow, Option.bind_eq_bind, Option.bind_some]
    congr 1
    omega
  have hPiece : Piece.ofUnit c.toNat = .char c := by
    rw [Piece.ofUnit, if_neg (by omega), Char.ofNat_toNat]
  rw [readPieces?, hUnit, Option.bind_eq_bind, Option.bind_some, hPiece]
  cases readPieces? rest <;> rfl

/-- A character that stands for itself is read as that character. -/
private theorem readPieces?_plain {c : Char} (rest : List Char) (hQuote : c ≠ '"')
    (hSlash : c ≠ '\\')
    (hPlain : ¬c.toNat < 0x20) :
    readPieces? (c :: rest)
      = (readPieces? rest).map fun (pieces, after) => (.char c :: pieces, after) := by
  have hNoUnit : ∀ a b c' d after, c = '\\' →
      rest = 'u' :: a :: b :: c' :: d :: after → False :=
    fun _ _ _ _ _ hEscape _ => hSlash hEscape
  have hNoEscape : ∀ d after, c = '\\' → rest = d :: after → False :=
    fun _ _ hEscape _ => hSlash hEscape
  rw [readPieces?.eq_5 c rest hQuote hNoUnit hNoEscape, if_neg hPlain]

/-- The characters with a short escape, and the characters that it is made of. -/
private theorem exists_shortEscape {c : Char}
    (hShort : c ∈ ['"', '\\', '\n', '\r', '\t', '\x08', '\x0c']) :
    ∃ e, escapeChar c = ['\\', e] ∧ e ≠ 'u' ∧ shortEscape? e = some c := by
  simp only [List.mem_cons, List.not_mem_nil, or_false] at hShort
  rcases hShort with rfl | rfl | rfl | rfl | rfl | rfl | rfl
  · exact ⟨'"', by decide⟩
  · exact ⟨'\\', by decide⟩
  · exact ⟨'n', by decide⟩
  · exact ⟨'r', by decide⟩
  · exact ⟨'t', by decide⟩
  · exact ⟨'b', by decide⟩
  · exact ⟨'f', by decide⟩

/-- A character that is written inside a string is read as that character. -/
theorem readPieces?_escapeChar (c : Char) (rest : List Char) :
    readPieces? (escapeChar c ++ rest)
      = (readPieces? rest).map fun (pieces, after) => (.char c :: pieces, after) := by
  by_cases hShort : c ∈ ['"', '\\', '\n', '\r', '\t', '\x08', '\x0c']
  · obtain ⟨e, hWritten, hOther, hEscape⟩ := exists_shortEscape hShort
    rw [hWritten]
    exact readPieces?_shortEscape rest hOther hEscape
  · have hWritten : escapeChar c = if c.toNat < 0x20 then
        ['\\', 'u', '0', '0', Nat.digitChar (c.toNat / 16), Nat.digitChar (c.toNat % 16)]
        else [c] := by
      simp only [List.mem_cons, List.not_mem_nil, or_false, not_or] at hShort
      simp only [escapeChar, hShort, if_false]
    rw [hWritten]
    by_cases hControl : c.toNat < 0x20
    · rw [if_pos hControl]
      exact readPieces?_controlEscape rest hControl
    · rw [if_neg hControl]
      exact readPieces?_plain rest (List.ne_of_not_mem_cons hShort)
        (List.ne_of_not_mem_cons (List.not_mem_of_not_mem_cons hShort)) hControl

private theorem readPieces?_flatMap_escapeChar (cs rest : List Char) :
    readPieces? (cs.flatMap escapeChar ++ '"' :: rest) = some (cs.map .char, rest) := by
  induction cs with
  | nil => rfl
  | cons c cs ih =>
      rw [List.flatMap_cons, List.append_assoc, readPieces?_escapeChar, ih]
      rfl

private theorem joinPieces_map_char (cs : List Char) : joinPieces (cs.map .char) = some cs := by
  induction cs with
  | nil => rfl
  | cons c cs ih =>
      rw [List.map_cons, joinPieces, ih]
      rfl

/-- Half of a surrogate pair that stands alone is no text. -/
private theorem readString?_half (rest : List Char) :
    readString? ('\\' :: 'u' :: 'd' :: '8' :: '0' :: '0' :: '"' :: rest) = some (none, rest) := by
  have hUnit : hexUnit? 'd' '8' '0' '0' = some 0xD800 := by decide
  have hHalf : Piece.ofUnit 0xD800 = .half 0xD800 := by decide
  rw [readString?, readPieces?, hUnit, Option.bind_eq_bind, Option.bind_some, hHalf, readPieces?]
  rfl

/-- A literal opens with a quote, and what follows is read as the literal. -/
theorem exists_print_eq_quote_cons (literal : Literal) :
    ∃ body, literal.print = '"' :: body
      ∧ ∀ rest, readString? (body ++ rest) = some (literal, rest) := by
  cases literal with
  | none => exact ⟨['\\', 'u', 'd', '8', '0', '0', '"'], rfl, readString?_half⟩
  | some s =>
      refine ⟨s.toList.flatMap escapeChar ++ ['"'], rfl, ?_⟩
      intro rest
      have hPieces := readPieces?_flatMap_escapeChar s.toList rest
      rw [readString?, List.append_assoc, List.singleton_append, hPieces, Option.map_some]
      simp only [joinPieces_map_char, Option.map_some, String.ofList_toList]

/-! ## Numbers -/

/-- The text does not go on with a number that ends in front of it. -/
def EndsNumber (rest : List Char) : Prop :=
  ∀ c, rest.head? = some c → c.isDigit = false ∧ c ≠ '.' ∧ c ≠ 'e' ∧ c ≠ 'E'

theorem endsNumber_nil : EndsNumber [] := nofun

private theorem EndsNumber.endsDigits {rest : List Char} (hRest : EndsNumber rest) :
    Text.EndsDigits rest :=
  fun c hHead => (hRest c hHead).1

/-- The text begins with a comma or with a closing bracket. -/
theorem endsNumber_cons {c : Char} (cs : List Char) (hMark : c = ',' ∨ c = ']' ∨ c = '}') :
    EndsNumber (c :: cs) := by
  intro d hHead
  obtain rfl : c = d := Option.some.inj hHead
  rcases hMark with rfl | rfl | rfl <;> decide

theorem readDigits?_natText {rest : List Char} (n : Nat) (hRest : Text.EndsDigits rest) :
    readDigits? (Text.natText n ++ rest) = some (Text.natText n, rest) := by
  have hSpan := Text.takeWhile_isDigit_append (Text.isDigits_natText n) hRest
  have hSome : Text.natText n ≠ [] := Nat.toDigits_ne_nil
  rw [readDigits?, hSpan, if_neg hSome, List.drop_left]

theorem ofDigitChars_natText (n : Nat) : Nat.ofDigitChars 10 (Text.natText n) 0 = n :=
  Nat.ofDigitChars_ten_toDigits

private theorem readExponentDigits?_intText {rest : List Char} (i : Int)
    (hRest : Text.EndsDigits rest) :
    readExponentDigits? (Text.intText i ++ rest) = some (i, rest) := by
  cases i with
  | negSucc n =>
      rw [Text.intText, List.cons_append, readExponentDigits?, readDigits?_natText _ hRest,
        Option.map_some]
      simp only [ofDigitChars_natText]
      rfl
  | ofNat n =>
      obtain ⟨c, cs, hText, hDigit⟩ := Text.natText_eq_cons n
      have hDigits := readDigits?_natText n hRest
      have hMinus : c ≠ '-' := by rintro rfl; exact absurd hDigit (by decide)
      have hPlus : c ≠ '+' := by rintro rfl; exact absurd hDigit (by decide)
      have hValue : Nat.ofDigitChars 10 (c :: cs) 0 = n := by rw [← hText, ofDigitChars_natText]
      rw [Text.intText]
      rw [hText, List.cons_append] at hDigits ⊢
      unfold readExponentDigits?
      split
      · simp_all
      · simp_all
      · rw [hDigits, Option.map_some]
        simp only [hValue]
        rfl

private theorem readFraction?_of_ne {cs : List Char} (hPoint : cs.head? ≠ some '.') :
    readFraction? cs = some ([], cs) := by
  unfold readFraction?
  split
  · exact absurd rfl hPoint
  · rfl

private theorem readExponent?_of_endsNumber {cs : List Char} (hRest : EndsNumber cs) :
    readExponent? cs = some (none, cs) := by
  unfold readExponent?
  split
  · exact absurd rfl (hRest _ rfl).2.2.1
  · exact absurd rfl (hRest _ rfl).2.2.2
  · rfl

/-- The digits of a number are followed by what is read as its exponent. -/
private theorem readUnsigned?_natText {cs rest : List Char} {exponent : Option Int} (minus : Bool)
    (n : Nat)
    (hDigits : Text.EndsDigits cs) (hPoint : cs.head? ≠ some '.')
    (hExponent : readExponent? cs = some (exponent, rest)) :
    readUnsigned? minus (Text.natText n ++ cs)
      = some (.ofParts minus (Text.natText n) [] exponent, rest) := by
  have hZero : ¬((Text.natText n).head? = some '0' ∧ (Text.natText n).length ≠ 1) :=
    fun h => h.2 (Text.length_natText_of_head? h.1)
  simp only [readUnsigned?, readDigits?_natText n hDigits, Option.bind_eq_bind, Option.bind_some,
    if_neg hZero, readFraction?_of_ne hPoint, hExponent]

/-- The minus sign of a number comes first; a digit is none. -/
private theorem readNumber?_natText (n : Nat) (cs : List Char) :
    readNumber? (Text.natText n ++ cs) = readUnsigned? false (Text.natText n ++ cs) := by
  obtain ⟨c, ds, hText, hDigit⟩ := Text.natText_eq_cons n
  have hMinus : c ≠ '-' := by rintro rfl; exact absurd hDigit (by decide)
  rw [hText, List.cons_append]
  unfold readNumber?
  split
  · simp_all
  · rfl

theorem readNumber?_print {rest : List Char} (number : Number) (hRest : EndsNumber rest) :
    readNumber? (number.print ++ rest) = some (number, rest) := by
  have hPoint : rest.head? ≠ some '.' := fun hHead => (hRest _ hHead).2.1 rfl
  have hWhole (minus : Bool) (n : Nat) := readUnsigned?_natText minus n hRest.endsDigits hPoint
    (readExponent?_of_endsNumber hRest)
  cases number with
  | integer value =>
      cases value with
      | ofNat n =>
          rw [Number.print, Text.intText, readNumber?_natText, hWhole]
          simp [Number.ofParts, ofDigitChars_natText]
      | negSucc n =>
          rw [Number.print, Text.intText, List.cons_append, readNumber?, hWhole]
          simp [Number.ofParts, ofDigitChars_natText]
          omega
  | decimal minus digits exponent =>
      have hTail : readExponent? ('e' :: (Text.intText exponent ++ rest))
          = some (some exponent, rest) := by
        rw [readExponent?, readExponentDigits?_intText _ hRest.endsDigits]
        rfl
      have hScaled := readUnsigned?_natText minus digits (Text.endsDigits_cons (by decide))
        (by rw [List.head?_cons]; decide) hTail
      have hParts : Number.ofParts minus (Text.natText digits) [] (some exponent)
          = .decimal minus digits exponent := by
        simp [Number.ofParts, ofDigitChars_natText]
      rw [hParts] at hScaled
      cases minus with
      | true =>
          rw [← hScaled]
          simp [Number.print, readNumber?]
      | false =>
          rw [← hScaled, ← readNumber?_natText]
          simp [Number.print]

/-! ## Values -/

theorem skipSpace_cons {c : Char} (cs : List Char) (hMark : isSpace c = false) :
    skipSpace (c :: cs) = c :: cs := by
  rw [skipSpace, List.dropWhile_cons_of_neg (by rw [hMark]; decide)]

theorem skipWord_append (word rest : List Char) : skipWord word (word ++ rest) = some rest := by
  have hPrefix : word.isPrefixOf (word ++ rest) = true :=
    List.isPrefixOf_iff_prefix.mpr (List.prefix_append word rest)
  rw [skipWord, if_pos hPrefix, List.drop_left]

/-- A number begins with its sign or with a digit. -/
theorem exists_numberPrint_eq_cons (number : Number) :
    ∃ c cs, number.print = c :: cs ∧ (c = '-' ∨ c.isDigit = true) := by
  have hNat (n : Nat) (tail : List Char) :
      ∃ c cs, Text.natText n ++ tail = c :: cs ∧ (c = '-' ∨ c.isDigit = true) := by
    obtain ⟨c, cs, hText, hDigit⟩ := Text.natText_eq_cons n
    exact ⟨c, cs ++ tail, by rw [hText, List.cons_append], Or.inr hDigit⟩
  cases number with
  | integer value =>
      cases value with
      | ofNat n => simpa [Number.print, Text.intText] using hNat n []
      | negSucc n => exact ⟨'-', _, rfl, Or.inl rfl⟩
  | decimal minus digits exponent =>
      cases minus with
      | true => exact ⟨'-', _, rfl, Or.inl rfl⟩
      | false => simpa [Number.print] using hNat digits ('e' :: Text.intText exponent)

theorem not_mark_of_numberHead {c : Char} (hHead : c = '-' ∨ c.isDigit = true) :
    isSpace c = false ∧ c ∉ ['"', '[', '{', 'n', 't', 'f', ']'] := by
  have hOther : c ∉ [' ', '\n', '\t', '\r', '"', '[', '{', 'n', 't', 'f', ']'] := by
    intro hMem
    simp only [List.mem_cons, List.not_mem_nil, or_false] at hMem
    rcases hMem with rfl | rfl | rfl | rfl | rfl | rfl | rfl | rfl | rfl | rfl | rfl <;>
      exact absurd hHead (by decide)
  simp_all [isSpace]

/-- What begins with a sign or a digit is read as a number. -/
private theorem readValue?_of_numberHead {c : Char} (fuel : Nat) (cs : List Char)
    (hHead : c = '-' ∨ c.isDigit = true) :
    readValue? (fuel + 1) (c :: cs)
      = (readNumber? (c :: cs)).map fun (n, after) => (.number n, after) := by
  obtain ⟨hSpace, hOther⟩ := not_mark_of_numberHead hHead
  rw [readValue?, skipSpace_cons cs hSpace]
  split <;> simp_all

/-- The compact layout begins with a mark of the value, which closes no array. -/
theorem exists_compact_eq_cons (value : Json) :
    ∃ c cs, value.compact = c :: cs ∧ isSpace c = false ∧ c ≠ ']' := by
  cases value with
  | null => exact ⟨'n', _, rfl, by decide, by decide⟩
  | bool value =>
      cases value with
      | true => exact ⟨'t', _, rfl, by decide, by decide⟩
      | false => exact ⟨'f', _, rfl, by decide, by decide⟩
  | number number =>
      obtain ⟨c, cs, hText, hHead⟩ := exists_numberPrint_eq_cons number
      obtain ⟨hSpace, hOther⟩ := not_mark_of_numberHead hHead
      exact ⟨c, cs, by rw [compact, hText], hSpace, by rintro rfl; simp at hOther⟩
  | string literal =>
      obtain ⟨body, hText, -⟩ := exists_print_eq_quote_cons literal
      exact ⟨'"', body, by rw [compact, hText], by decide, by decide⟩
  | array items => exact ⟨'[', _, rfl, by decide, by decide⟩
  | object fields => exact ⟨'{', _, rfl, by decide, by decide⟩

/-! ## One step of each reader -/

/-- An array is read by reading its items, unless its bracket closes at once. -/
private theorem readValue?_array {fuel : Nat} {c : Char} {cs after : List Char} {items : List Json}
    (hSpace : isSpace c = false) (hOpen : c ≠ ']')
    (hItems : readItems? fuel (c :: cs) = some (items, after)) :
    readValue? (fuel + 1) ('[' :: c :: cs) = some (.array items, after) := by
  rw [readValue?, skipSpace_cons _ (by decide)]
  simp only [skipSpace_cons cs hSpace]
  split
  · simp_all
  · rw [hItems, Option.map_some]

/-- An object is read by reading its fields, the first of which opens with a quote. -/
private theorem readValue?_object {fuel : Nat} {cs after : List Char}
    {fields : List (Literal × Json)}
    (hFields : readFields? fuel ('"' :: cs) = some (fields, after)) :
    readValue? (fuel + 1) ('{' :: '"' :: cs) = some (.object fields, after) := by
  have hSpace : isSpace '"' = false := by decide
  rw [readValue?, skipSpace_cons _ (by decide)]
  simp only [skipSpace_cons cs hSpace]
  split
  · simp_all
  · rw [hFields, Option.map_some]

private theorem readItems?_last {fuel : Nat} {cs after : List Char} {value : Json}
    (hValue : readValue? fuel cs = some (value, ']' :: after)) :
    readItems? (fuel + 1) cs = some ([value], after) := by
  have hSpace : isSpace ']' = false := by decide
  rw [readItems?, hValue, Option.bind_eq_bind, Option.bind_some]
  simp only [skipSpace_cons after hSpace]

private theorem readItems?_next {fuel : Nat} {cs more after : List Char} {value : Json}
    {items : List Json} (hValue : readValue? fuel cs = some (value, ',' :: more))
    (hItems : readItems? fuel more = some (items, after)) :
    readItems? (fuel + 1) cs = some (value :: items, after) := by
  have hSpace : isSpace ',' = false := by decide
  rw [readItems?, hValue, Option.bind_eq_bind, Option.bind_some]
  simp only [skipSpace_cons more hSpace, hItems, Option.bind_eq_bind, Option.bind_some]

/-- A field is its key, a colon, and its value. -/
theorem readFields?_key {fuel : Nat} {body : List Char} {key : Literal}
    (hKey : ∀ rest, readString? (body ++ rest) = some (key, rest)) (cs : List Char) :
    readFields? (fuel + 1) ('"' :: (body ++ ':' :: cs))
      = (readValue? fuel cs).bind fun (value, rest) =>
          match skipSpace rest with
          | ',' :: rest =>
              (readFields? fuel rest).bind fun (fields, after) =>
                some ((key, value) :: fields, after)
          | '}' :: after => some ([(key, value)], after)
          | _ => none := by
  have hQuote : isSpace '"' = false := by decide
  have hColon : isSpace ':' = false := by decide
  rw [readFields?, skipSpace_cons _ hQuote]
  simp only [hKey, Option.bind_eq_bind, Option.bind_some]
  generalize hAfter : skipSpace (':' :: cs) = after
  rw [skipSpace_cons cs hColon] at hAfter
  subst hAfter
  rfl

private theorem readFields?_last {fuel : Nat} {body cs after : List Char} {key : Literal}
    {value : Json}
    (hKey : ∀ rest, readString? (body ++ rest) = some (key, rest))
    (hValue : readValue? fuel cs = some (value, '}' :: after)) :
    readFields? (fuel + 1) ('"' :: (body ++ ':' :: cs)) = some ([(key, value)], after) := by
  have hSpace : isSpace '}' = false := by decide
  rw [readFields?_key hKey, hValue, Option.bind_some]
  simp only [skipSpace_cons after hSpace]

private theorem readFields?_next {fuel : Nat} {body cs more after : List Char} {key : Literal}
    {value : Json} {fields : List (Literal × Json)}
    (hKey : ∀ rest, readString? (body ++ rest) = some (key, rest))
    (hValue : readValue? fuel cs = some (value, ',' :: more))
    (hFields : readFields? fuel more = some (fields, after)) :
    readFields? (fuel + 1) ('"' :: (body ++ ':' :: cs)) = some ((key, value) :: fields, after) := by
  have hSpace : isSpace ',' = false := by decide
  rw [readFields?_key hKey, hValue, Option.bind_some]
  simp only [skipSpace_cons more hSpace, hFields, Option.bind_some]

/-! ## Layouts of two and more -/

theorem compactItems_cons_cons (value next : Json) (items : List Json) :
    compactItems (value :: next :: items)
      = value.compact ++ ',' :: compactItems (next :: items) :=
  rfl

theorem compactFields_cons_cons (key : Literal) (value : Json) (next : Literal × Json)
    (fields : List (Literal × Json)) :
    compactFields ((key, value) :: next :: fields)
      = key.print ++ ':' :: value.compact ++ ',' :: compactFields (next :: fields) :=
  rfl

theorem exists_compactItems_eq_cons (value : Json) (items : List Json) :
    ∃ c cs, compactItems (value :: items) = c :: cs ∧ isSpace c = false ∧ c ≠ ']' := by
  obtain ⟨c, cs, hText, hMark⟩ := exists_compact_eq_cons value
  cases items with
  | nil => exact ⟨c, cs, by rw [compactItems, hText], hMark⟩
  | cons next items =>
      exact ⟨c, _, by rw [compactItems_cons_cons, hText, List.cons_append], hMark⟩

theorem exists_compactFields_eq_cons (key : Literal) (value : Json)
    (fields : List (Literal × Json)) :
    ∃ cs, compactFields ((key, value) :: fields) = '"' :: cs := by
  obtain ⟨body, hText, -⟩ := exists_print_eq_quote_cons key
  cases fields with
  | nil => exact ⟨_, by rw [compactFields, hText, List.cons_append]⟩
  | cons next fields =>
      exact ⟨_, by rw [compactFields_cons_cons, hText, List.cons_append, List.cons_append]⟩

/-! ## All values -/

mutual

/-- A written value is read back from in front of any text that does not prolong a number. -/
theorem readValue?_compact : (value : Json) → ∀ (fuel : Nat) (rest : List Char),
    2 * value.compact.length ≤ fuel → EndsNumber rest →
    readValue? fuel (value.compact ++ rest) = some (value, rest)
  | value, 0, rest, hFuel, hRest => by
      obtain ⟨c, cs, hText, -⟩ := exists_compact_eq_cons value
      rw [hText, List.length_cons] at hFuel
      omega
  | .null, fuel + 1, rest, hFuel, hRest => by
      have hWord := skipWord_append "ull".toList rest
      show readValue? (fuel + 1) ('n' :: ("ull".toList ++ rest)) = _
      rw [readValue?, skipSpace_cons _ (by decide)]
      simp only [hWord, Option.map_some]
  | .bool true, fuel + 1, rest, hFuel, hRest => by
      have hWord := skipWord_append "rue".toList rest
      show readValue? (fuel + 1) ('t' :: ("rue".toList ++ rest)) = _
      rw [readValue?, skipSpace_cons _ (by decide)]
      simp only [hWord, Option.map_some]
  | .bool false, fuel + 1, rest, hFuel, hRest => by
      have hWord := skipWord_append "alse".toList rest
      show readValue? (fuel + 1) ('f' :: ("alse".toList ++ rest)) = _
      rw [readValue?, skipSpace_cons _ (by decide)]
      simp only [hWord, Option.map_some]
  | .number n, fuel + 1, rest, hFuel, hRest => by
      obtain ⟨c, cs, hText, hHead⟩ := exists_numberPrint_eq_cons n
      have hNumber := readNumber?_print n hRest
      rw [compact]
      rw [hText, List.cons_append] at hNumber ⊢
      rw [readValue?_of_numberHead fuel _ hHead, hNumber, Option.map_some]
  | .string literal, fuel + 1, rest, hFuel, hRest => by
      obtain ⟨body, hText, hRead⟩ := exists_print_eq_quote_cons literal
      rw [compact, hText, List.cons_append, readValue?, skipSpace_cons _ (by decide)]
      simp only [hRead, Option.map_some]
  | .array [], fuel + 1, rest, hFuel, hRest => by
      show readValue? (fuel + 1) ('[' :: ']' :: rest) = _
      have hSpace : isSpace ']' = false := by decide
      rw [readValue?, skipSpace_cons _ (by decide)]
      simp only [skipSpace_cons rest hSpace]
  | .array (value :: items), fuel + 1, rest, hFuel, hRest => by
      obtain ⟨c, cs, hText, hSpace, hOpen⟩ := exists_compactItems_eq_cons value items
      simp only [compact, List.length_append, List.length_cons] at hFuel
      have hItems := readItems?_compactItems value items fuel rest (by omega)
      have hOpened : (array (value :: items)).compact ++ rest
          = '[' :: (compactItems (value :: items) ++ ']' :: rest) := by
        simp [compact]
      rw [hText, List.cons_append] at hItems hOpened
      rw [hOpened]
      exact readValue?_array hSpace hOpen hItems
  | .object [], fuel + 1, rest, hFuel, hRest => by
      show readValue? (fuel + 1) ('{' :: '}' :: rest) = _
      have hSpace : isSpace '}' = false := by decide
      rw [readValue?, skipSpace_cons _ (by decide)]
      simp only [skipSpace_cons rest hSpace]
  | .object ((key, value) :: fields), fuel + 1, rest, hFuel, hRest => by
      obtain ⟨cs, hText⟩ := exists_compactFields_eq_cons key value fields
      simp only [compact, List.length_append, List.length_cons] at hFuel
      have hFields := readFields?_compactFields key value fields fuel rest (by omega)
      have hOpened : (object ((key, value) :: fields)).compact ++ rest
          = '{' :: (compactFields ((key, value) :: fields) ++ '}' :: rest) := by
        simp [compact]
      rw [hText, List.cons_append] at hFields hOpened
      rw [hOpened]
      exact readValue?_object hFields

/-- Written items are read back up to the bracket that closes them. -/
theorem readItems?_compactItems : (value : Json) → (items : List Json) →
    ∀ (fuel : Nat) (rest : List Char), 2 * (compactItems (value :: items)).length + 1 ≤ fuel →
    readItems? fuel (compactItems (value :: items) ++ ']' :: rest) = some (value :: items, rest)
  | _, _, 0, _, hFuel => by omega
  | value, [], fuel + 1, rest, hFuel => by
      rw [compactItems] at hFuel ⊢
      exact readItems?_last
        (readValue?_compact value _ _ (by omega) (endsNumber_cons rest (by decide)))
  | value, next :: items, fuel + 1, rest, hFuel => by
      rw [compactItems_cons_cons, List.length_append, List.length_cons] at hFuel
      rw [compactItems_cons_cons, List.append_assoc, List.cons_append]
      exact readItems?_next
        (readValue?_compact value _ _ (by omega) (endsNumber_cons _ (by decide)))
        (readItems?_compactItems next items _ _ (by omega))

/-- Written fields are read back up to the bracket that closes them. -/
theorem readFields?_compactFields : (key : Literal) → (value : Json) →
    (fields : List (Literal × Json)) → ∀ (fuel : Nat) (rest : List Char),
    2 * (compactFields ((key, value) :: fields)).length + 1 ≤ fuel →
    readFields? fuel (compactFields ((key, value) :: fields) ++ '}' :: rest)
      = some ((key, value) :: fields, rest)
  | _, _, _, 0, _, hFuel => by omega
  | key, value, [], fuel + 1, rest, hFuel => by
      obtain ⟨body, hText, hRead⟩ := exists_print_eq_quote_cons key
      rw [compactFields, List.length_append, List.length_cons] at hFuel
      rw [compactFields, hText, List.append_assoc, List.cons_append, List.cons_append]
      exact readFields?_last hRead
        (readValue?_compact value _ _ (by omega) (endsNumber_cons rest (by decide)))
  | key, value, (other, next) :: fields, fuel + 1, rest, hFuel => by
      obtain ⟨body, hText, hRead⟩ := exists_print_eq_quote_cons key
      simp only [compactFields_cons_cons, List.length_append, List.length_cons] at hFuel
      have hSplit : compactFields ((key, value) :: (other, next) :: fields) ++ '}' :: rest
          = '"' :: (body ++ ':' :: (value.compact
              ++ ',' :: (compactFields ((other, next) :: fields) ++ '}' :: rest))) := by
        simp [compactFields_cons_cons, hText]
      rw [hSplit]
      exact readFields?_next hRead
        (readValue?_compact value _ _ (by omega) (endsNumber_cons _ (by decide)))
        (readFields?_compactFields other next fields _ _ (by omega))

end

/-- A text that was written holds the value that it was written from. -/
theorem read?_compactText (value : Json) : read? value.compactText = some value := by
  have hValue := readValue?_compact value (2 * value.compact.length + 2) [] (by omega)
    endsNumber_nil
  rw [List.append_nil] at hValue
  have hChars : value.compactText.toList = value.compact := String.toList_ofList
  simp only [read?, hChars, hValue]
  rfl

end GridAdmin.Json
