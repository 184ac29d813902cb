import GridAdmin.Proofs.CommandLine.Separator

/-!
# Places of a switch

People write a switch where it occurs to them: behind the verb, between two arguments, or at the
end of the line.  Lifting is meant to make no difference between these places, so that neither
the command nor the set of switches tells where a switch has stood.

Two words limit the freedom.  The first word is the verb and always stays, even if it looks like
a switch, so the places begin behind it.  The first `--` behind the verb ends them: a switch may
still stand directly in front of it, and what stands behind it is part of the command.

The law for one switch at one place is an induction over the words in front of that place.  Its
one real step is that turning on two switches does not depend on their order, because a switch
that is put in turns on later than those that stood in front of it.

What is not lifted is told by counting.  The kept words are a part of all words, in their order,
and no word is kept less often than it was written, but for the switches and for one `--`.

## Main definitions

* `Switch.allSpellings`: all spellings of all switches.

## Main results

* `Switch.ofWord?_eq_some_iff`: a word is a switch exactly if it is one of these spellings.
* `liftBehindVerb_insertIdx`: one switch at one place.
* `sublist_lift`, `count_lift`: what is kept.
* `switch_stands_anywhere`: the places of a switch, and what is never lifted.
-/

namespace GridAdmin.CommandLine

/-! ## Spellings -/

/-- The spellings of all switches. -/
def Switch.allSpellings : List (String × Switch) :=
  [("-f", .force), ("--force", .force), ("--dryrun", .dryRun), ("-v", .verbose),
    ("--verbose", .verbose), ("-V", .veryVerbose), ("--very-verbose", .veryVerbose)]

section Places

variable {word other : String} {words : List String} {switch : Switch} {i : Nat}

namespace Switch

private theorem mem_spellings_iff : word ∈ switch.spellings ↔ (word, switch) ∈ allSpellings := by
  cases switch <;> simp [spellings, longName, letter?, allSpellings, or_comm]

/-- A word that is a switch is spelled like one, letter for letter. -/
theorem ofWord?_eq_some_iff : ofWord? word = some switch ↔ (word, switch) ∈ allSpellings := by
  constructor
  · intro hSwitch
    have hSpelled : switch.spellings.contains word = true :=
      List.find?_some (p := fun other : Switch => other.spellings.contains word) hSwitch
    exact mem_spellings_iff.mp (List.contains_iff_mem.mp hSpelled)
  · intro hWritten
    -- No spelling stands for two switches.
    have hTable : ∀ entry ∈ allSpellings, ofWord? entry.1 = some entry.2 := by decide
    exact hTable (word, switch) hWritten

private theorem ofWord?_eq_none_iff :
    ofWord? word = none ↔ ∀ switch, (word, switch) ∉ allSpellings := by
  simp only [← ofWord?_eq_some_iff, Option.eq_none_iff_forall_ne_some, ne_eq]

private theorem ne_separator_of_ofWord? (hSwitch : ofWord? word = some switch) :
    word ≠ separator := by
  rintro rfl
  exact absurd hSwitch (by cases switch <;> decide)

end Switch

/-! ## One more switch -/

/-- The order in which switches are turned on does not matter. -/
private theorem Switches.turnOn_comm (switches : Switches) (first second : Switch) :
    (switches.turnOn first).turnOn second = (switches.turnOn second).turnOn first := by
  cases first <;> cases second <;> rfl

/-- A switch may stand at every place up to the separator. -/
theorem liftBehindVerb_insertIdx (hSwitch : Switch.ofWord? word = some switch)
    (hPlace : i ≤ words.idxOf separator) :
    liftBehindVerb (words.insertIdx i word)
      = ((liftBehindVerb words).1, (liftBehindVerb words).2.turnOn switch) := by
  have hWord : word ≠ separator := Switch.ne_separator_of_ofWord? hSwitch
  induction words using liftBehindVerb_induction generalizing i with
  | empty =>
      have hFirst : i = 0 := by simpa using hPlace
      subst hFirst
      exact liftBehindVerb_switch hWord hSwitch
  | ended rest =>
      have hFirst : i = 0 := by simpa using hPlace
      subst hFirst
      exact liftBehindVerb_switch hWord hSwitch
  | lifted first rest other hFirst hOther ih =>
      cases i with
      | zero => exact liftBehindVerb_switch hWord hSwitch
      | succ i =>
          have hRest : i ≤ rest.idxOf separator := by
            simpa [List.idxOf_cons, hFirst] using hPlace
          rw [List.insertIdx_succ_cons, liftBehindVerb_switch hFirst hOther,
            liftBehindVerb_switch hFirst hOther, ih hRest, Switches.turnOn_comm]
  | kept first rest hFirst ih =>
      cases i with
      | zero => exact liftBehindVerb_switch hWord hSwitch
      | succ i =>
          have hRest : i ≤ rest.idxOf separator := by
            simpa [List.idxOf_cons, hFirst.1] using hPlace
          rw [List.insertIdx_succ_cons, liftBehindVerb_ordinary hFirst,
            liftBehindVerb_ordinary hFirst, ih hRest]

private theorem lift_insertIdx (hWords : words ≠ []) (hSwitch : Switch.ofWord? word = some switch)
    (hBehind : 1 ≤ i) (hPlace : i ≤ words.tail.idxOf separator + 1) :
    lift (words.insertIdx i word) = ((lift words).1, (lift words).2.turnOn switch) := by
  cases words with
  | nil => exact absurd rfl hWords
  | cons verb rest =>
      obtain ⟨j, rfl⟩ : ∃ j, i = j + 1 := ⟨i - 1, by omega⟩
      have hRest : j ≤ rest.idxOf separator := Nat.le_of_succ_le_succ hPlace
      rw [List.insertIdx_succ_cons, lift, liftBehindVerb_insertIdx hSwitch hRest]
      rfl

/-! ## Words behind the separator -/

/-- Lifting has ended at the first separator. -/
theorem liftBehindVerb_append (hEnded : separator ∈ words) (more : List String) :
    liftBehindVerb (words ++ more)
      = ((liftBehindVerb words).1 ++ more, (liftBehindVerb words).2) := by
  obtain ⟨before, behind, rfl, hBefore⟩ := List.eq_append_cons_of_mem hEnded
  rw [List.append_assoc, List.cons_append, liftBehindVerb_append_separator hBefore,
    liftBehindVerb_append_separator hBefore, List.append_assoc]

theorem lift_append (hEnded : separator ∈ words.tail) (more : List String) :
    lift (words ++ more) = ((lift words).1 ++ more, (lift words).2) := by
  cases words with
  | nil => exact absurd hEnded List.not_mem_nil
  | cons verb rest =>
      have hRest : separator ∈ rest := hEnded
      rw [List.cons_append, lift, liftBehindVerb_append hRest more]
      rfl

/-- A separator that is put behind all words has nothing to end but itself. -/
private theorem lift_append_separator (hWords : words ≠ []) (hOpen : separator ∉ words.tail)
    (more : List String) :
    lift (words ++ separator :: more) = ((lift words).1 ++ more, (lift words).2) := by
  cases words with
  | nil => exact absurd rfl hWords
  | cons verb rest =>
      have hRest : separator ∉ rest := hOpen
      rw [List.cons_append, lift, liftBehindVerb_append_separator hRest]
      rfl

/-! ## What is kept -/

private theorem sublist_liftBehindVerb (words : List String) :
    (liftBehindVerb words).1.Sublist words := by
  induction words using liftBehindVerb_induction with
  | empty => exact List.Sublist.refl []
  | ended rest =>
      rw [liftBehindVerb_separator]
      exact List.sublist_cons_self separator rest
  | lifted word rest switch hWord hSwitch ih =>
      rw [liftBehindVerb_switch hWord hSwitch]
      exact ih.cons word
  | kept word rest hWord ih =>
      rw [liftBehindVerb_ordinary hWord]
      exact ih.cons_cons word

private theorem count_liftBehindVerb (hKept : Switch.ofWord? other = none) (words : List String) :
    (liftBehindVerb words).1.count other
        + (if other = separator ∧ separator ∈ words then 1 else 0)
      = words.count other := by
  induction words using liftBehindVerb_induction with
  | empty => simp [liftBehindVerb]
  | ended rest =>
      rw [liftBehindVerb_separator, List.count_cons]
      by_cases hOther : other = separator
      · simp [hOther]
      · simp [hOther, Ne.symm hOther]
  | lifted word rest switch hWord hSwitch ih =>
      have hMem : separator ∈ word :: rest ↔ separator ∈ rest := by simp [Ne.symm hWord]
      have hOther : word ≠ other := by
        rintro rfl
        cases hSwitch.symm.trans hKept
      simp only [liftBehindVerb_switch hWord hSwitch, hMem, ih, List.count_cons_of_ne hOther]
  | kept word rest hWord ih =>
      have hMem : separator ∈ word :: rest ↔ separator ∈ rest := by simp [Ne.symm hWord.1]
      simp only [liftBehindVerb_ordinary hWord, hMem, List.count_cons, ← ih]
      omega

/-- The kept words stand in their order. -/
theorem sublist_lift (words : List String) : (lift words).1.Sublist words := by
  cases words with
  | nil => exact List.Sublist.refl []
  | cons verb rest => exact (sublist_liftBehindVerb rest).cons_cons verb

/-- All words are kept but the switches and the first separator behind the verb. -/
theorem count_lift (hKept : Switch.ofWord? other = none) (words : List String) :
    (lift words).1.count other
        + (if other = separator ∧ separator ∈ words.tail then 1 else 0)
      = words.count other := by
  cases words with
  | nil => simp [lift]
  | cons verb rest =>
      have hRest := count_liftBehindVerb hKept rest
      show (verb :: (liftBehindVerb rest).1).count other
          + (if other = separator ∧ separator ∈ rest then 1 else 0) = (verb :: rest).count other
      rw [List.count_cons, List.count_cons, ← hRest]
      omega

end Places

/-- Where switches stand does not matter.  A switch in any of its spellings may be put behind the
verb at every place up to the first `--`, or up to the end where there is none: the words that
are kept are the same, and so is the command, and only this switch is turned on in addition.
Words behind that `--` are kept as they are and turn nothing on.  A word that is spelled like no
switch is never lifted: all such words are kept as often as they stand there, but for that `--`,
and in their order, and what is on has been spelled out between the verb and that `--`. -/
theorem switch_stands_anywhere (words : List String) (hWords : words ≠ []) :
    (∀ word switch i, (word, switch) ∈ Switch.allSpellings →
      1 ≤ i → i ≤ words.tail.idxOf separator + 1 →
      (lift (words.insertIdx i word)).1 = (lift words).1 ∧
        (lift (words.insertIdx i word)).2 = (lift words).2.turnOn switch) ∧
    (separator ∈ words.tail → ∀ more,
      lift (words ++ more) = ((lift words).1 ++ more, (lift words).2)) ∧
    (separator ∉ words.tail → ∀ more,
      lift (words ++ separator :: more) = ((lift words).1 ++ more, (lift words).2)) ∧
    ((lift words).1.head? = words.head? ∧ (lift words).1.Sublist words ∧
      ∀ other, (∀ switch, (other, switch) ∉ Switch.allSpellings) →
        (lift words).1.count other
            + (if other = separator ∧ separator ∈ words.tail then 1 else 0)
          = words.count other) ∧
    ∀ switch, (lift words).2.isOn switch = true ↔
      ∃ word ∈ words.tail.takeWhile (· ≠ separator), (word, switch) ∈ Switch.allSpellings := by
  refine ⟨?_, lift_append, lift_append_separator hWords, ⟨?_, sublist_lift words, ?_⟩, ?_⟩
  · intro word switch i hWritten hBehind hPlace
    have hSwitch : Switch.ofWord? word = some switch := Switch.ofWord?_eq_some_iff.mpr hWritten
    rw [lift_insertIdx hWords hSwitch hBehind hPlace]
    exact ⟨rfl, rfl⟩
  · cases words <;> rfl
  · intro other hKept
    exact count_lift (Switch.ofWord?_eq_none_iff.mpr hKept) words
  · intro switch
    rw [lift_snd, isOn_liftBehindVerb_iff]
    simp only [Switch.ofWord?_eq_some_iff]

/-- `-V` may still stand directly in front of the separator of a line whose first word is one. -/
theorem switch_in_front_of_separator :
    ["--", "-v", "a", "--", "-f"] ≠ [] ∧
      lift ["--", "-v", "a", "-V", "--", "-f"]
        = (["--", "a", "-f"], { verbose := true, veryVerbose := true }) := by
  have hWords : ["--", "-v", "a", "--", "-f"] ≠ [] := by decide
  have hPlaces := (switch_stands_anywhere _ hWords).1 "-V" .veryVerbose 3
  have hLifted := hPlaces (by decide) (by decide) (by decide)
  exact ⟨hWords, Prod.ext hLifted.1 hLifted.2⟩

end GridAdmin.CommandLine
