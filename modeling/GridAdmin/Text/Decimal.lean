import GridAdmin.Text.Basic

/-!
# Decimal numbers in text

Numbers are written in decimal without leading zeros, with a leading `-` when
negative. They are read with an optional sign and any number of leading zeros;
only the ten ASCII digits count as digits, and a bounded reader refuses what
does not fit.

## Main results

* `readNat?_natText`, `readInt?_intText`: a written number reads back.
* `readInt64?_intText`, `readInt32?_intText`: the same for the bounded readers.
* `readNat?_zeroPad`: zeros in front do not count.
* `length_natText_of_head?`: a written number has none.
* `takeWhile_isDigit_append`: digits are told from a text behind them that begins
  with no digit.
-/

namespace GridAdmin.Text

/-! ## Writing -/

/-- Decimal digits, without leading zeros. -/
def natText (n : Nat) : List Char :=
  Nat.toDigits 10 n

/-- Decimal text with a leading `-` for negative numbers. -/
def intText : Int → List Char
  | .ofNat n => natText n
  | .negSucc n => '-' :: natText (n + 1)

/-- Zeros in front up to `width` characters; a longer text stays as it is. -/
def zeroPad (width : Nat) (cs : List Char) : List Char :=
  List.replicate (width - cs.length) '0' ++ cs

/-- Decimal text of at least `width` characters, the sign counted, zeros after it. -/
def intTextPadded (width : Nat) : Int → List Char
  | .ofNat n => zeroPad width (natText n)
  | .negSucc n => '-' :: zeroPad (width - 1) (natText (n + 1))

/-! ## Reading -/

/-- One or more ASCII digits. -/
def isDigits (cs : List Char) : Bool :=
  !cs.isEmpty && cs.all Char.isDigit

/-- The number written by one or more digits. -/
def readNat? (cs : List Char) : Option Nat :=
  if isDigits cs then some (Nat.ofDigitChars 10 cs 0) else none

/-- A number with an optional sign. -/
def readInt? : List Char → Option Int
  | '-' :: cs => (readNat? cs).map fun n => -(n : Int)
  | '+' :: cs => (readNat? cs).map fun n => (n : Int)
  | cs => (readNat? cs).map fun n => (n : Int)

/-- Keep a number that lies between the two bounds, ends included. -/
def within? (low high i : Int) : Option Int :=
  if low ≤ i ∧ i ≤ high then some i else none

/-- A signed number of 32 bits. -/
def readInt32? (cs : List Char) : Option Int32 :=
  ((readInt? cs).bind (within? (-2147483648) 2147483647)).map Int32.ofInt

/-- A signed number of 64 bits. -/
def readInt64? (cs : List Char) : Option Int64 :=
  ((readInt? cs).bind (within? (-9223372036854775808) 9223372036854775807)).map Int64.ofInt

/-! ## Reading what was written -/

theorem isDigits_natText (n : Nat) : isDigits (natText n) = true := by
  have hDigits : ∀ c ∈ natText n, c.isDigit = true := fun c hMem =>
    Nat.isDigit_of_mem_toDigits (by decide) (by decide) hMem
  simp only [isDigits, Bool.and_eq_true, List.all_eq_true, Bool.not_eq_true',
    List.isEmpty_eq_false_iff]
  exact ⟨Nat.toDigits_ne_nil, hDigits⟩

theorem readNat?_natText (n : Nat) : readNat? (natText n) = some n := by
  rw [readNat?, if_pos (isDigits_natText n), natText, Nat.ofDigitChars_ten_toDigits]

theorem natText_eq_cons (n : Nat) :
    ∃ c cs, natText n = c :: cs ∧ c.isDigit = true := by
  have hDigits := isDigits_natText n
  cases hText : natText n with
  | nil => simp [hText, isDigits] at hDigits
  | cons c cs =>
      refine ⟨c, cs, rfl, ?_⟩
      simp only [hText, isDigits, List.all_cons, Bool.and_eq_true] at hDigits
      exact hDigits.2.1

private theorem readInt?_natText (n : Nat) : readInt? (natText n) = some (n : Int) := by
  obtain ⟨c, cs, hText, hDigit⟩ := natText_eq_cons n
  have hMinus : c ≠ '-' := by rintro rfl; simp [Char.isDigit] at hDigit
  have hPlus : c ≠ '+' := by rintro rfl; simp [Char.isDigit] at hDigit
  have hRead := readNat?_natText n
  rw [hText] at hRead ⊢
  unfold readInt?
  split
  · simp_all
  · simp_all
  · rw [hRead]; rfl

theorem readInt?_intText (i : Int) : readInt? (intText i) = some i := by
  cases i with
  | ofNat n => exact readInt?_natText n
  | negSucc n =>
      simp only [intText, readInt?, readNat?_natText]
      rfl

theorem readInt32?_intText (i : Int32) : readInt32? (intText i.toInt) = some i := by
  have hLow := i.le_toInt
  have hHigh := i.toInt_lt
  have hWithin : within? (-2147483648) 2147483647 i.toInt = some i.toInt := by
    unfold within?
    rw [if_pos]
    omega
  simp [readInt32?, readInt?_intText, hWithin]

theorem readInt64?_intText (i : Int64) : readInt64? (intText i.toInt) = some i := by
  have hLow := i.le_toInt
  have hHigh := i.toInt_lt
  have hWithin : within? (-9223372036854775808) 9223372036854775807 i.toInt
      = some i.toInt := by
    unfold within?
    rw [if_pos]
    omega
  simp [readInt64?, readInt?_intText, hWithin]

/-! ## Zeros in front -/

theorem length_zeroPad (width : Nat) (cs : List Char) :
    (zeroPad width cs).length = max width cs.length := by
  rw [zeroPad, List.length_append, List.length_replicate]
  omega

theorem length_natText_le {n width : Nat} (hPos : 0 < width) (hBelow : n < Nat.pow 10 width) :
    (natText n).length ≤ width :=
  (Nat.length_toDigits_le_iff (by decide) hPos).mpr hBelow

theorem isDigits_zeroPad (width : Nat) {cs : List Char} (hDigits : isDigits cs = true) :
    isDigits (zeroPad width cs) = true := by
  simp only [isDigits, Bool.and_eq_true, Bool.not_eq_true', List.isEmpty_eq_false_iff,
    List.all_eq_true] at hDigits ⊢
  obtain ⟨hSome, hAll⟩ := hDigits
  refine ⟨fun hNil => hSome (List.append_eq_nil_iff.mp hNil).2, ?_⟩
  intro c hMem
  rcases List.mem_append.mp hMem with hZero | hOwn
  · rw [List.eq_of_mem_replicate hZero]
    rfl
  · exact hAll c hOwn

private theorem ofDigitChars_zeroPad (width : Nat) (cs : List Char) :
    Nat.ofDigitChars 10 (zeroPad width cs) 0 = Nat.ofDigitChars 10 cs 0 := by
  rw [zeroPad]
  generalize width - cs.length = count
  induction count with
  | zero => rfl
  | succ count ih =>
      rw [List.replicate_succ, List.cons_append, Nat.ofDigitChars_cons]
      exact ih

/-- Zeros in front do not count. -/
theorem readNat?_zeroPad (width n : Nat) : readNat? (zeroPad width (natText n)) = some n := by
  rw [readNat?, if_pos (isDigits_zeroPad width (isDigits_natText n)), ofDigitChars_zeroPad, natText,
    Nat.ofDigitChars_ten_toDigits]

/-! ## The first digit -/

private theorem digitChar_ne_zero : ∀ n < 10, 0 < n → Nat.digitChar n ≠ '0' := by
  decide

private theorem head?_natText_ne_zero {n : Nat} (hPos : 0 < n) : (natText n).head? ≠ some '0' := by
  induction n using Nat.strongRecOn with
  | ind n ih =>
      by_cases hOne : n < 10
      · rw [natText, Nat.toDigits_of_lt_base hOne, List.head?_cons]
        intro hZero
        exact digitChar_ne_zero n hOne hPos (Option.some.inj hZero)
      · have hFirst := ih (n / 10) (by omega) (by omega)
        obtain ⟨c, cs, hText, -⟩ := natText_eq_cons (n / 10)
        have hSplit : natText n = natText (n / 10) ++ [(n % 10).digitChar] :=
          Nat.toDigits_of_base_le (by decide) (by omega)
        rw [hSplit, hText, List.cons_append, List.head?_cons]
        rw [hText, List.head?_cons] at hFirst
        exact hFirst

/-- A zero stands in front of no other digit. -/
theorem length_natText_of_head? {n : Nat} (hHead : (natText n).head? = some '0') :
    (natText n).length = 1 := by
  have hZero : n = 0 := by
    have hNot : ¬0 < n := fun hPos => head?_natText_ne_zero hPos hHead
    omega
  rw [hZero]
  rfl

/-! ## Digits in front of other text -/

/-- The text does not begin with a digit, so digits in front of it are not continued. -/
def EndsDigits (rest : List Char) : Prop :=
  ∀ c, rest.head? = some c → c.isDigit = false

theorem endsDigits_nil : EndsDigits [] := nofun

theorem endsDigits_cons {c : Char} {cs : List Char} (hOther : c.isDigit = false) :
    EndsDigits (c :: cs) := by
  rintro _ ⟨⟩
  exact hOther

/-- Digits are told from a text behind them that begins with no digit. -/
theorem takeWhile_isDigit_append {digits rest : List Char} (hDigits : isDigits digits = true)
    (hRest : EndsDigits rest) : (digits ++ rest).takeWhile Char.isDigit = digits := by
  simp only [isDigits, Bool.and_eq_true, List.all_eq_true] at hDigits
  rw [List.takeWhile_append_of_pos hDigits.2]
  cases rest with
  | nil => rw [List.takeWhile_nil, List.append_nil]
  | cons c cs =>
      have hOther : ¬c.isDigit = true := by
        rw [hRest c rfl]
        decide
      rw [List.takeWhile_cons_of_neg hOther, List.append_nil]

end GridAdmin.Text
