import GridAdmin.Proofs.StatusPacking

/-!
# The names of failures

A status is named after its base: the last three digits of a failure are cut off,
and what is left is looked up in the table of known codes.  Cutting moves a negative
number towards zero, so a known multiple of 1000 lends its name to the thousand codes
that start with it and go down.  This is what a base with a sub-code asks for.

Zero is a multiple of 1000 as well, and it is known as `SUCCESS`.  The failures between
-999 and -1 therefore are named like a success, and the name of -1, which stands in the
table for an unclassified failure, is never found.

## Main results

* `name?_eq_some_iff`: the codes that share a name.
* `failure_named_success_iff`: which failures are named like a success, and which known codes keep
  their names, with a sub-code and without.
-/

namespace GridAdmin.Status

variable {s : Status} {called : String}

/-! ## Bases -/

/-- No status has -1 as its base. -/
private theorem base_ne_unknownError : s.base ≠ unknownError := by
  intro hSame
  have hCode : s.base.code.toInt = -1 := by
    rw [hSame]
    rfl
  by_cases hFailure : s.isFailure = true
  · rw [toInt_base_of_isFailure hFailure] at hCode
    omega
  · have hOwn : s = unknownError := by
      rw [← hSame, base_of_isSuccess (isSuccess_of_not_isFailure hFailure)]
    rw [hOwn] at hFailure
    exact hFailure (by decide)

/-! ## Names -/

/-- All known codes but one are multiples of 1000, and none of them is positive. -/
theorem multiple_of_mem_names {entry : Status × String} (hEntry : entry ∈ names)
    (hKnown : entry.1 ≠ unknownError) :
    entry.1.code.toInt % 1000 = 0 ∧ entry.1.code.toInt ≤ 0 := by
  have hTable : ∀ entry ∈ names, entry.1 ≠ unknownError →
      entry.1.code.toInt % 1000 = 0 ∧ entry.1.code.toInt ≤ 0 := by
    decide +kernel
  exact hTable entry hEntry hKnown

/-- The name is the one that the table gives to the base. -/
theorem name?_eq_some_iff_mem : s.name? = some called ↔ (s.base, called) ∈ names := by
  rw [name?, Option.map_eq_some_iff]
  constructor
  · rintro ⟨entry, hFind, rfl⟩
    have hBase : entry.1 = s.base := by simpa using List.find?_some hFind
    rw [← hBase]
    exact List.mem_of_find?_eq_some hFind
  · intro hEntry
    -- No code stands in the table twice.
    have hFirst : ∀ entry ∈ names,
        (names.find? fun other => decide (other.1 = entry.1)) = some entry := by
      decide +kernel
    exact ⟨(s.base, called), hFirst _ hEntry, rfl⟩

/-- A known code lends its name to itself and to the 999 codes below it, unless it is
the code of an unclassified failure. -/
theorem name?_eq_some_iff :
    s.name? = some called ↔ ∃ known, (known, called) ∈ names ∧ known ≠ unknownError ∧
      known.code.toInt - 1000 < s.code.toInt ∧ s.code.toInt ≤ known.code.toInt := by
  rw [name?_eq_some_iff_mem]
  constructor
  · intro hEntry
    have hKnown := multiple_of_mem_names hEntry base_ne_unknownError
    exact ⟨s.base, hEntry, base_ne_unknownError, (base_eq_iff hKnown.1 hKnown.2).mp rfl⟩
  · rintro ⟨known, hEntry, hKnown, hRange⟩
    obtain ⟨hMultiple, hSign⟩ := multiple_of_mem_names hEntry hKnown
    rw [(base_eq_iff hMultiple hSign).mpr hRange]
    exact hEntry

/-! ## Failures that are named like a success -/

/-- `SUCCESS` is the name of zero alone. -/
private theorem eq_success_of_mem_names {known : Status} (hEntry : (known, "SUCCESS") ∈ names) :
    known = success := by
  have hTable : ∀ entry ∈ names, entry.2 = "SUCCESS" → entry.1 = success := by
    decide +kernel
  exact hTable _ hEntry rfl

/-- A failure is named `SUCCESS` exactly if it lies above -1000. -/
theorem name?_eq_success_iff (hFailure : s.isFailure = true) :
    s.name? = some "SUCCESS" ↔ -1000 < s.code.toInt := by
  have hNegative : s.code.toInt < 0 := isFailure_iff.mp hFailure
  have hZero : success.code.toInt = 0 := rfl
  rw [name?_eq_some_iff]
  constructor
  · rintro ⟨known, hEntry, -, hAbove, -⟩
    rw [eq_success_of_mem_names hEntry] at hAbove
    omega
  · intro hAbove
    have hEntry : (success, "SUCCESS") ∈ names := by decide
    have hKnown : success ≠ unknownError := by decide
    exact ⟨success, hEntry, hKnown, by omega, by omega⟩

/-- A shown name that starts like `SUCCESS` is a name from the table: no other name in it
starts so, and neither does the placeholder for unknown codes. -/
private theorem name?_eq_success_of_prefix {rest : List Char}
    (hPrefix : "SUCCESS".toList <+: s.name.toList ++ rest) : s.name? = some "SUCCESS" := by
  have hTexts : ∀ shown ∈ "UNKNOWN_STATUS" :: names.map (·.2),
      "SUCCESS".toList.length ≤ shown.toList.length ∧
        ("SUCCESS".toList <+: shown.toList → shown = "SUCCESS") := by
    decide +kernel
  have hShown : s.name ∈ "UNKNOWN_STATUS" :: names.map (·.2) := by
    cases hName : s.name? with
    | none => simp [name, hName]
    | some text =>
        have hEntry := name?_eq_some_iff_mem.mp hName
        have hText : s.name = text := by rw [name, hName]; rfl
        rw [hText]
        exact List.mem_cons_of_mem _ (List.mem_map.mpr ⟨_, hEntry, rfl⟩)
  obtain ⟨hLength, hOnly⟩ := hTexts _ hShown
  have hSame : s.name = "SUCCESS" :=
    hOnly (List.prefix_of_prefix_length_le hPrefix (List.prefix_append _ _) hLength)
  cases hName : s.name? with
  | none =>
      rw [name, hName] at hSame
      exact absurd hSame (by decide)
  | some text =>
      rw [name, hName] at hSame
      exact congrArg some hSame

/-- A failure is shown as `SUCCESS` exactly if it is named so. -/
private theorem text_eq_success_iff (hFailure : s.isFailure = true) :
    (∃ rest, s.text = codeText s.code ++ " SUCCESS" ++ rest) ↔ -1000 < s.code.toInt := by
  obtain ⟨suffix, hText⟩ : ∃ suffix, s.text = codeText s.code ++ " " ++ s.name ++ suffix :=
    ⟨_, rfl⟩
  have hWord : " SUCCESS" = " " ++ "SUCCESS" := rfl
  rw [← name?_eq_success_iff hFailure]
  constructor
  · rintro ⟨rest, hRest⟩
    have hList := congrArg String.toList (hText.symm.trans hRest)
    rw [hWord] at hList
    simp only [String.toList_append, List.append_assoc, List.append_cancel_left_eq] at hList
    exact name?_eq_success_of_prefix ⟨_, hList.symm⟩
  · intro hName
    have hShown : s.name = "SUCCESS" := by
      rw [name, hName]
      rfl
    exact ⟨suffix, by rw [hText, hShown, hWord, ← String.append_assoc]⟩

/-- A known multiple of 1000 that is a failure gives its name to all its sub-codes. -/
private theorem name?_sub {entry : Status × String} (hEntry : entry ∈ names)
    (hFailure : entry.1.isFailure = true) (hMultiple : entry.1.code % 1000 = 0) {k : Int32}
    (hFrom : 0 ≤ k) (hBelow : k < 1000) :
    (⟨entry.1.code - k⟩ : Status).name? = some entry.2 := by
  have hKnown : entry.1 ≠ unknownError := by
    intro hSame
    rw [hSame] at hMultiple
    exact absurd hMultiple (by decide)
  have hTable : ∀ entry ∈ names, -1000000 < entry.1.code.toInt := by decide +kernel
  have hLower := hTable entry hEntry
  have hSign : entry.1.code.toInt < 0 := isFailure_iff.mp hFailure
  have hZero : 0 ≤ k.toInt := Int32.le_iff_toInt_le.mp hFrom
  have hThousand : k.toInt < 1000 := Int32.lt_iff_toInt_lt.mp hBelow
  have hCode : (entry.1.code - k).toInt = entry.1.code.toInt - k.toInt := by
    rw [Int32.toInt_sub]
    apply Int.bmod_eq_of_le
    · omega
    · omega
  apply name?_eq_some_iff.mpr
  exact ⟨entry.1, hEntry, hKnown, by rw [hCode]; omega, by rw [hCode]; omega⟩

/-- A known code has its own name unless it is the code of an unclassified failure. -/
private theorem name?_of_mem_names {entry : Status × String} (hEntry : entry ∈ names) :
    entry.1.name? = some entry.2 ↔ entry.1 ≠ unknownError := by
  constructor
  · intro hName hSame
    have hOther : ∀ entry ∈ names, entry.1 = unknownError →
        entry.1.name? ≠ some entry.2 := by
      decide +kernel
    exact hOther entry hEntry hSame hName
  · intro hKnown
    obtain ⟨hMultiple, hSign⟩ := multiple_of_mem_names hEntry hKnown
    apply name?_eq_some_iff_mem.mpr
    have hBase : entry.1.base = entry.1 := (base_eq_iff hMultiple hSign).mpr (by omega)
    rw [hBase]
    exact hEntry

/-- How failures are named.  A failure is named `SUCCESS`, and shown as one, exactly if it
lies above -1000.  A known code has the name that the table gives it, unless it is -1.
A known multiple of 1000 that is a failure keeps its name under every sub-code. -/
theorem failure_named_success_iff (s : Status) (hFailure : s.isFailure = true) :
    ((s.name? = some "SUCCESS" ↔ -1000 < s.code.toInt) ∧
      ((∃ rest, s.text = codeText s.code ++ " SUCCESS" ++ rest) ↔ -1000 < s.code.toInt)) ∧
    (∀ entry ∈ names, entry.1.name? = some entry.2 ↔ entry.1 ≠ unknownError) ∧
    ∀ entry ∈ names, entry.1.isFailure = true → entry.1.code % 1000 = 0 →
      ∀ k : Int32, 0 ≤ k → k < 1000 →
        (⟨entry.1.code - k⟩ : Status).name? = some entry.2 := by
  refine ⟨⟨name?_eq_success_iff hFailure, text_eq_success_iff hFailure⟩, ?_, ?_⟩
  · intro entry hEntry
    exact name?_of_mem_names hEntry
  · intro entry hEntry hKnown hMultiple k hFrom hBelow
    exact name?_sub hEntry hKnown hMultiple hFrom hBelow

/-- The status of a call that got no status is named, and shown, as a success. -/
theorem unknownError_named_success :
    unknownError.isFailure = true ∧ unknownError.name? = some "SUCCESS" ∧
      ∃ rest, unknownError.text = "-1 SUCCESS" ++ rest := by
  have hFailure : unknownError.isFailure = true := by decide
  have hNamed := (failure_named_success_iff unknownError hFailure).1
  refine ⟨hFailure, hNamed.1.mpr (by decide), ?_⟩
  obtain ⟨rest, hText⟩ := hNamed.2.mpr (by decide)
  exact ⟨rest, hText⟩

end GridAdmin.Status
