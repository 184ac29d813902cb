import GridAdmin.Status

/-!
# Bases and sub-codes

A failure holds two numbers in one.  Its code is a base minus a sub-code, where the base is a
multiple of 1000 that is not positive and the sub-code lies between 0 and 999.  Whoever packs
two such numbers expects to read the same two back.

They are read with a division and a remainder of 32-bit numbers, which cut towards zero.  For a
failure that is upwards, so the quotient times 1000 is the multiple next above the code, and the
remainder has the sign of the code and has to be turned round.  None of these steps leaves the
32 bits.  The one quotient that would, the least number divided by -1, is not formed, and the
product lies between the code and zero.

Zero is a base, too.  What is packed with it is a failure from -999 to -1, and the success zero
is no sub-code of its own: a status that is not negative has no parts.

The exit code of a session asks for the base alone.  It tells a denial from all other failures,
whatever sub-code the server has added.

## Main definitions

* `SplitsExactly`: the steps towards base and sub-code are exact.
* `Packs`: a failure is made of a base and a sub-code.
* `IsDenial`: a failure made of one of the two bases of a denial.

## Main results

* `splitsExactly`: no step wraps around.
* `packs_iff`: a failure is made of one base and one sub-code, which are the ones read from it.
* `base_eq_iff`: the codes that share a base.
* `status_unpacks`: the parts of a status, and what the exit code sees of them.
-/

namespace GridAdmin.Status

variable {s v : Status} {b k : Int}

/-! ## Codes as numbers -/

theorem isFailure_iff : s.isFailure = true ↔ s.code.toInt < 0 := by
  rw [isFailure, decide_eq_true_eq, Int32.lt_iff_toInt_lt]
  rfl

private theorem isSuccess_iff : s.isSuccess = true ↔ 0 ≤ s.code.toInt := by
  rw [isSuccess, decide_eq_true_eq, Int32.le_iff_toInt_le]
  rfl

theorem isSuccess_of_not_isFailure (hNot : ¬s.isFailure = true) : s.isSuccess = true := by
  rw [isSuccess_eq_not_isFailure, Bool.eq_false_iff.mpr hNot]
  rfl

theorem not_nonneg_of_isFailure (hFailure : s.isFailure = true) : ¬0 ≤ s.code := by
  rw [Int32.le_iff_toInt_le]
  exact Int.not_le.mpr (isFailure_iff.mp hFailure)

theorem ext_toInt (hCode : s.code.toInt = v.code.toInt) : s = v := by
  cases s
  cases v
  simp only [Int32.toInt_inj] at hCode
  rw [hCode]

/-! ## Splitting a code -/

/-- The four steps towards the base and the sub-code of `code` give what they give on unbounded
numbers. -/
structure SplitsExactly (code : Int32) : Prop where
  quotient : (code / 1000).toInt = code.toInt.tdiv 1000
  product : (code / 1000 * 1000).toInt = code.toInt.tdiv 1000 * 1000
  remainder : (code % 1000).toInt = code.toInt.tmod 1000
  negated : (-(code % 1000)).toInt = -code.toInt.tmod 1000

theorem splitsExactly (code : Int32) : SplitsExactly code := by
  have hThousand : (1000 : Int32).toInt = 1000 := rfl
  have hLower : -2 ^ 31 ≤ code.toInt := code.le_toInt
  have hUpper : code.toInt < 2 ^ 31 := code.toInt_lt
  have hQuotient : (code.toInt.tdiv 1000).natAbs = code.toInt.natAbs / 1000 :=
    Int.natAbs_tdiv _ _
  have hProduct : (code.toInt.tdiv 1000 * 1000).natAbs = code.toInt.natAbs / 1000 * 1000 := by
    rw [Int.natAbs_mul, hQuotient]
    rfl
  have hRemainder : (code.toInt.tmod 1000).natAbs = code.toInt.natAbs % 1000 :=
    Int.natAbs_tmod _ _
  have quotient : (code / 1000).toInt = code.toInt.tdiv 1000 := by
    rw [Int32.toInt_div, hThousand]
    apply Int.bmod_eq_of_le
    · omega
    · omega
  have remainder : (code % 1000).toInt = code.toInt.tmod 1000 := by
    rw [Int32.toInt_mod, hThousand]
  refine ⟨quotient, ?_, remainder, ?_⟩
  · rw [Int32.toInt_mul, quotient, hThousand]
    apply Int.bmod_eq_of_le
    · omega
    · omega
  · rw [Int32.toInt_neg, remainder]
    apply Int.bmod_eq_of_le
    · omega
    · omega

/-- Cutting three digits off a negative number moves it up to a multiple of 1000. -/
private theorem tdiv_mul_of_neg {code : Int} (hNegative : code < 0) :
    code.tdiv 1000 * 1000 = -(-code / 1000 * 1000) := by
  have hFlip : code.tdiv 1000 = -((-code).tdiv 1000) := by
    rw [Int.neg_tdiv, Int.neg_neg]
  have hPositive : (-code).tdiv 1000 = -code / 1000 :=
    Int.tdiv_eq_ediv_of_nonneg (by omega)
  rw [hFlip, hPositive, Int.neg_mul]

/-- The base of a failure is the multiple of 1000 next to it in the direction of zero. -/
theorem toInt_base_of_isFailure (hFailure : s.isFailure = true) :
    s.base.code.toInt = -(-s.code.toInt / 1000 * 1000) := by
  have hNegative : s.code.toInt < 0 := isFailure_iff.mp hFailure
  have hBase : s.base.code = s.code / 1000 * 1000 := by
    rw [base, if_neg (not_nonneg_of_isFailure hFailure)]
  rw [hBase, (splitsExactly s.code).product, tdiv_mul_of_neg hNegative]

/-- The sub-code of a failure is how far it lies below its base. -/
theorem toInt_subCode_of_isFailure (hFailure : s.isFailure = true) :
    s.subCode.toInt = -s.code.toInt % 1000 := by
  have hNegative : s.code.toInt < 0 := isFailure_iff.mp hFailure
  have hSubCode : s.subCode = -(s.code % 1000) := by
    rw [subCode, if_neg (not_nonneg_of_isFailure hFailure)]
  have hPositive : (-s.code.toInt).tmod 1000 = -s.code.toInt % 1000 :=
    Int.tmod_eq_emod_of_nonneg (by omega)
  rw [hSubCode, (splitsExactly s.code).negated, ← Int.neg_tmod, hPositive]

/-- A thousand codes, from a multiple of 1000 downwards, have that multiple as base. -/
theorem base_eq_iff (hMultiple : v.code.toInt % 1000 = 0) (hSign : v.code.toInt ≤ 0) :
    s.base = v ↔ v.code.toInt - 1000 < s.code.toInt ∧ s.code.toInt ≤ v.code.toInt := by
  by_cases hFailure : s.isFailure = true
  · have hBase := toInt_base_of_isFailure hFailure
    constructor
    · intro hSame
      rw [hSame] at hBase
      omega
    · intro hRange
      apply ext_toInt
      omega
  · have hNot : ¬s.code.toInt < 0 := fun hNegative => hFailure (isFailure_iff.mpr hNegative)
    rw [base_of_isSuccess (isSuccess_of_not_isFailure hFailure)]
    constructor
    · intro hSame
      subst hSame
      omega
    · intro hRange
      apply ext_toInt
      omega

private theorem code_le_base (s : Status) : s.code.toInt ≤ s.base.code.toInt := by
  by_cases hFailure : s.isFailure = true
  · have hBase := toInt_base_of_isFailure hFailure
    omega
  · have hOwn : s.base = s := base_of_isSuccess (isSuccess_of_not_isFailure hFailure)
    exact Int.le_of_eq (congrArg (fun v : Status => v.code.toInt) hOwn.symm)

/-! ## Packing -/

/-- The failure `s` is made of the base `b` and the sub-code `k`. -/
structure Packs (s : Status) (b k : Int) : Prop where
  code_eq : s.code.toInt = b - k
  negative : s.code.toInt < 0
  multiple : b % 1000 = 0
  nonpos : b ≤ 0
  nonneg : 0 ≤ k
  below : k < 1000

/-- A failure is made of the parts that are read from it. -/
private theorem packs_parts (hFailure : s.isFailure = true) :
    s.Packs s.base.code.toInt s.subCode.toInt := by
  have hNegative : s.code.toInt < 0 := isFailure_iff.mp hFailure
  rw [toInt_base_of_isFailure hFailure, toInt_subCode_of_isFailure hFailure]
  constructor <;> omega

/-- The parts that a failure is made of are read from it. -/
theorem Packs.parts_eq (hPacks : s.Packs b k) :
    s.base.code.toInt = b ∧ s.subCode.toInt = k := by
  obtain ⟨hCode, hNegative, hMultiple, hNonpos, hNonneg, hBelow⟩ := hPacks
  have hFailure : s.isFailure = true := isFailure_iff.mpr hNegative
  rw [toInt_base_of_isFailure hFailure, toInt_subCode_of_isFailure hFailure]
  constructor
  · omega
  · omega

theorem packs_iff :
    s.Packs b k ↔ s.code.toInt < 0 ∧ s.base.code.toInt = b ∧ s.subCode.toInt = k := by
  constructor
  · intro hPacks
    exact ⟨hPacks.negative, hPacks.parts_eq⟩
  · rintro ⟨hNegative, rfl, rfl⟩
    exact packs_parts (isFailure_iff.mpr hNegative)

/-- A failure has the base `v` exactly if it is `v` with some sub-code. -/
private theorem base_eq_iff_packs (hFailure : v.isFailure = true)
    (hMultiple : v.code.toInt % 1000 = 0) :
    s.base = v ↔ ∃ k, s.Packs v.code.toInt k := by
  have hNegative : v.code.toInt < 0 := isFailure_iff.mp hFailure
  rw [base_eq_iff hMultiple (by omega)]
  constructor
  · intro hRange
    refine ⟨v.code.toInt - s.code.toInt, ?_⟩
    constructor <;> omega
  · rintro ⟨k, hPacks⟩
    obtain ⟨hCode, -, -, -, hNonneg, hBelow⟩ := hPacks
    omega

/-! ## Denials and exit codes -/

/-- The status is one of the two denials, with any sub-code. -/
def IsDenial (s : Status) : Prop :=
  (∃ k, s.Packs noApiPrivilege.code.toInt k) ∨ ∃ k, s.Packs insufficientPrivilege.code.toInt k

theorem isPrivilegeDenial_iff : s.isPrivilegeDenial = true ↔ s.IsDenial := by
  rw [isPrivilegeDenial, decide_eq_true_eq, IsDenial, base_eq_iff_packs (by decide) (by decide),
    base_eq_iff_packs (by decide) (by decide)]

private theorem isFailure_of_isPrivilegeDenial (hDenial : s.isPrivilegeDenial = true) :
    s.isFailure = true := by
  rcases isPrivilegeDenial_iff.mp hDenial with ⟨k, hPacks⟩ | ⟨k, hPacks⟩
  · exact isFailure_iff.mpr hPacks.negative
  · exact isFailure_iff.mpr hPacks.negative

private theorem exitCode_eq_one_iff : s.exitCode = 1 ↔ s.isPrivilegeDenial = true := by
  unfold exitCode
  cases s.isPrivilegeDenial <;> cases s.isFailure <;> decide

private theorem exitCode_eq_four_iff :
    s.exitCode = 4 ↔ s.isFailure = true ∧ ¬s.isPrivilegeDenial = true := by
  unfold exitCode
  cases s.isPrivilegeDenial <;> cases s.isFailure <;> decide

/-- The exit code is not zero exactly for the failures. -/
theorem exitCode_ne_zero_iff : s.exitCode ≠ 0 ↔ s.isFailure = true := by
  unfold exitCode
  cases hDenial : s.isPrivilegeDenial with
  | true => simp [isFailure_of_isPrivilegeDenial hDenial]
  | false => cases hFailure : s.isFailure <;> simp

private theorem exitCode_eq_zero_iff : s.exitCode = 0 ↔ 0 ≤ s.code.toInt := by
  rw [← Int.not_lt, ← isFailure_iff, ← exitCode_ne_zero_iff, ne_eq, Decidable.not_not]

/-- Failures of one base are denials together and end a session alike. -/
private theorem Packs.same_exitCode {other : Status} {k' : Int} (hPacks : s.Packs b k)
    (hOther : other.Packs b k') :
    other.isPrivilegeDenial = s.isPrivilegeDenial ∧ other.exitCode = s.exitCode := by
  have hBase : other.base = s.base := by
    apply ext_toInt
    rw [hOther.parts_eq.1, hPacks.parts_eq.1]
  have hDenial : other.isPrivilegeDenial = s.isPrivilegeDenial := by
    rw [isPrivilegeDenial, isPrivilegeDenial, hBase]
  have hFailure : other.isFailure = s.isFailure := by
    rw [isFailure_iff.mpr hOther.negative, isFailure_iff.mpr hPacks.negative]
  refine ⟨hDenial, ?_⟩
  rw [exitCode, exitCode, hDenial, hFailure]

/-- The parts of a status.  Base and sub-code are computed without wrapping around.  A failure is
made of exactly one base and one sub-code, and these are read from it; a status that is not
negative is its own base and has no sub-code.  Whether a failure is a denial, and what a session
exits with, depends on its base alone: 1 for the two denials with any sub-code, 4 for all other
failures, and 0 for the rest. -/
theorem status_unpacks (s : Status) :
    SplitsExactly s.code ∧
    (∀ b k, s.Packs b k ↔
      s.code.toInt < 0 ∧ s.base.code.toInt = b ∧ s.subCode.toInt = k) ∧
    s.code.toInt ≤ s.base.code.toInt ∧
    (0 ≤ s.code.toInt → s.base = s ∧ s.subCode = 0) ∧
    (∀ (other : Status) b k k', s.Packs b k → other.Packs b k' →
      other.isPrivilegeDenial = s.isPrivilegeDenial ∧ other.exitCode = s.exitCode) ∧
    (s.isPrivilegeDenial = true ↔ s.IsDenial) ∧
    (s.exitCode = 1 ↔ s.IsDenial) ∧
    (s.exitCode = 4 ↔ s.code.toInt < 0 ∧ ¬s.IsDenial) ∧
    (s.exitCode = 0 ↔ 0 ≤ s.code.toInt) := by
  refine ⟨splitsExactly s.code, fun b k => packs_iff, code_le_base s, ?_, ?_,
    isPrivilegeDenial_iff, ?_, ?_, exitCode_eq_zero_iff⟩
  · intro hCode
    have hSuccess : s.isSuccess = true := isSuccess_iff.mpr hCode
    exact ⟨base_of_isSuccess hSuccess, subCode_of_isSuccess hSuccess⟩
  · intro other b k k' hPacks hOther
    exact hPacks.same_exitCode hOther
  · rw [exitCode_eq_one_iff, isPrivilegeDenial_iff]
  · rw [exitCode_eq_four_iff, isPrivilegeDenial_iff, isFailure_iff]

/-- A denial with the number of a system error exits like the denial without one, and the least
number of 32 bits is split like any other. -/
theorem denial_with_system_error :
    (⟨-350013⟩ : Status).Packs (-350000) 13 ∧ (⟨-350013⟩ : Status).exitCode = 1 ∧
      (⟨Int32.minValue⟩ : Status).Packs (-2147483000) 648 ∧
      (⟨Int32.minValue⟩ : Status).exitCode = 4 := by
  have hDenial : (⟨-350013⟩ : Status).Packs (-350000) 13 := by constructor <;> decide
  have hPlain : noApiPrivilege.Packs (-350000) 0 := by constructor <;> decide
  have hLeast := (status_unpacks ⟨Int32.minValue⟩).2.1 (-2147483000) 648
  have hSame := (status_unpacks noApiPrivilege).2.2.2.2.1 _ _ _ _ hPlain hDenial
  exact ⟨hDenial, hSame.2.trans (by decide), hLeast.mpr (by decide), by decide⟩

end GridAdmin.Status
