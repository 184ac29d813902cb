import GridAdmin.Proofs.CommandLine.SessionLife

/-!
# Words behind a separator

A bare `--` is there for words that would be misread: whoever writes one in front of a password
`-f` wants that password, and not a switch that lets low-level verbs run.  Two readers look for
it.  The reader of the options takes it for the end of the options as long as no command has
begun, and the lifting of switches takes it for its own end when it stands behind the verb.

A separator is used up by the reader that meets it first.  Behind the verb that is the lifting,
and the words behind it are safe.  In front of the verb it is the reader of the options, which
hands on the words without their separator; the lifting then sees a verb and words behind it,
and goes through them as if there had been no `--` at all.

## Main definitions

* `IsOrdinary`: a word that lifting leaves alone wherever it stands.
* `TakenVerbatim`: words that turn no switch on and all belong to the command.

## Main results

* `liftBehindVerb_induction`: the words behind the verb, one by one.
* `Invocation.readWords_append_separator`: what the reader of the options makes of a separator.
* `liftBehindVerb_append_separator`: what lifting makes of one.
* `takenVerbatim_iff`: the words behind a separator are taken as they are exactly if the command
  has begun in front of it or lifting finds nothing among them.
-/

namespace GridAdmin.CommandLine

/-! ## Lifting -/

/-- No switch and no separator. -/
def IsOrdinary (word : String) : Prop :=
  word ≠ separator ∧ Switch.ofWord? word = none

section Lifting

variable {word : String} {words before behind : List String} {switch : Switch}

theorem liftBehindVerb_separator : liftBehindVerb (separator :: words) = (words, {}) := by
  rw [liftBehindVerb, if_pos rfl]

theorem liftBehindVerb_switch (hWord : word ≠ separator)
    (hSwitch : Switch.ofWord? word = some switch) :
    liftBehindVerb (word :: words)
      = ((liftBehindVerb words).1, (liftBehindVerb words).2.turnOn switch) := by
  rw [liftBehindVerb, if_neg hWord, hSwitch]

theorem liftBehindVerb_ordinary (hWord : IsOrdinary word) :
    liftBehindVerb (word :: words)
      = (word :: (liftBehindVerb words).1, (liftBehindVerb words).2) := by
  rw [liftBehindVerb, if_neg hWord.1, hWord.2]

/-- Lifting goes through the words one by one up to a separator, and each word in front of it is
a switch or ordinary. -/
@[elab_as_elim]
theorem liftBehindVerb_induction {motive : List String → Prop} (empty : motive [])
    (ended : ∀ rest, motive (separator :: rest))
    (lifted : ∀ word rest switch, word ≠ separator → Switch.ofWord? word = some switch →
      motive rest → motive (word :: rest))
    (kept : ∀ word rest, IsOrdinary word → motive rest → motive (word :: rest))
    (words : List String) : motive words := by
  induction words with
  | nil => exact empty
  | cons word rest ih =>
      by_cases hWord : word = separator
      · subst hWord
        exact ended rest
      · cases hSwitch : Switch.ofWord? word with
        | some switch => exact lifted word rest switch hWord hSwitch ih
        | none => exact kept word rest ⟨hWord, hSwitch⟩ ih

/-- Lifting ends at the separator, and what stands behind it stays as it is. -/
theorem liftBehindVerb_append_separator (hBefore : separator ∉ before) :
    liftBehindVerb (before ++ separator :: behind)
      = ((liftBehindVerb before).1 ++ behind, (liftBehindVerb before).2) := by
  induction before using liftBehindVerb_induction with
  | empty => exact liftBehindVerb_separator
  | ended rest => exact absurd List.mem_cons_self hBefore
  | lifted word rest switch hWord hSwitch ih =>
      have hRest := ih fun hMem => hBefore (List.mem_cons_of_mem _ hMem)
      rw [List.cons_append, liftBehindVerb_switch hWord hSwitch,
        liftBehindVerb_switch hWord hSwitch, hRest]
  | kept word rest hWord ih =>
      have hRest := ih fun hMem => hBefore (List.mem_cons_of_mem _ hMem)
      rw [List.cons_append, liftBehindVerb_ordinary hWord, liftBehindVerb_ordinary hWord, hRest]
      rfl

/-- Of the words in front of a separator, those that are no switches are kept. -/
private theorem liftBehindVerb_words :
    (liftBehindVerb words).1
      = (words.takeWhile (· ≠ separator)).filter (fun word => (Switch.ofWord? word).isNone)
        ++ (words.dropWhile (· ≠ separator)).drop 1 := by
  induction words using liftBehindVerb_induction with
  | empty => rfl
  | ended rest =>
      rw [liftBehindVerb_separator]
      simp
  | lifted word rest switch hWord hSwitch ih =>
      rw [liftBehindVerb_switch hWord hSwitch, ih]
      simp [hWord, hSwitch]
  | kept word rest hWord ih =>
      rw [liftBehindVerb_ordinary hWord, ih]
      simp [hWord.1, hWord.2]

/-- A switch is on if one of the words in front of a separator spells it. -/
theorem isOn_liftBehindVerb_iff :
    (liftBehindVerb words).2.isOn switch = true
      ↔ ∃ word ∈ words.takeWhile (· ≠ separator), Switch.ofWord? word = some switch := by
  induction words using liftBehindVerb_induction with
  | empty => cases switch <;> simp [liftBehindVerb, Switches.isOn]
  | ended rest =>
      rw [liftBehindVerb_separator]
      cases switch <;> simp [Switches.isOn]
  | lifted word rest other hWord hSwitch ih =>
      rw [liftBehindVerb_switch hWord hSwitch, Switches.isOn_turnOn]
      simp only [Bool.or_eq_true, decide_eq_true_eq, ih, List.takeWhile_cons, hWord, ne_eq,
        not_false_eq_true, decide_true, if_true, List.exists_mem_cons_iff, hSwitch,
        Option.some.injEq]
      rw [eq_comm]
  | kept word rest hWord ih =>
      rw [liftBehindVerb_ordinary hWord]
      simp [hWord.1, hWord.2, ih]

private theorem length_liftBehindVerb_le : (liftBehindVerb words).1.length ≤ words.length := by
  induction words using liftBehindVerb_induction with
  | empty => exact Nat.le_refl _
  | ended rest =>
      rw [liftBehindVerb_separator]
      exact Nat.le_succ _
  | lifted word rest switch hWord hSwitch ih =>
      rw [liftBehindVerb_switch hWord hSwitch]
      exact Nat.le_succ_of_le ih
  | kept word rest hWord ih =>
      rw [liftBehindVerb_ordinary hWord]
      exact Nat.succ_le_succ ih

/-- Lifting takes something away unless all words are ordinary. -/
private theorem liftBehindVerb_eq_self_iff :
    (liftBehindVerb words).1 = words ↔ ∀ word ∈ words, IsOrdinary word := by
  induction words using liftBehindVerb_induction with
  | empty => exact ⟨fun _ => nofun, fun _ => rfl⟩
  | ended rest =>
      rw [List.forall_mem_cons, liftBehindVerb_separator]
      constructor
      · intro hSame
        exact absurd hSame (List.cons_ne_self separator rest).symm
      · rintro ⟨hOrdinary, -⟩
        exact absurd rfl hOrdinary.1
  | lifted word rest switch hWord hSwitch ih =>
      rw [List.forall_mem_cons, liftBehindVerb_switch hWord hSwitch]
      constructor
      · intro hSame
        have hLength := congrArg List.length hSame
        have hShort := @length_liftBehindVerb_le rest
        rw [List.length_cons] at hLength
        dsimp only at hLength
        omega
      · rintro ⟨hOrdinary, -⟩
        cases hSwitch.symm.trans hOrdinary.2
  | kept word rest hWord ih =>
      rw [List.forall_mem_cons, liftBehindVerb_ordinary hWord, List.cons_inj_right, ih]
      exact ⟨fun hRest => ⟨hWord, hRest⟩, fun hBoth => hBoth.2⟩

/-- Ordinary words turn no switch on. -/
private theorem liftBehindVerb_of_forall (hWords : ∀ word ∈ words, IsOrdinary word) :
    liftBehindVerb words = (words, {}) := by
  induction words with
  | nil => rfl
  | cons word rest ih =>
      rw [List.forall_mem_cons] at hWords
      rw [liftBehindVerb_ordinary hWords.1, ih hWords.2]

theorem lift_fst : (lift words).1 = words.take 1 ++ (liftBehindVerb words.tail).1 := by
  cases words <;> rfl

theorem lift_snd : (lift words).2 = (liftBehindVerb words.tail).2 := by
  cases words <;> rfl

end Lifting

/-! ## Reading -/

private theorem Word.ofLong_ne_separator {rest : List Char} : ofLong rest ≠ .separator := by
  unfold ofLong
  dsimp only
  split
  · nofun
  · split
    · nofun
    · split <;> nofun

private theorem Word.ofShort_ne_separator {letters : List Char} : ofShort letters ≠ .separator := by
  unfold ofShort
  split <;> nofun

theorem Word.eq_separator_of_ofText {word : String} (hText : ofText word = .separator) :
    word = CommandLine.separator := by
  unfold ofText at hText
  split at hText
  next hWord => exact String.toList_inj.mp (hWord.trans (by decide))
  next => exact absurd hText ofLong_ne_separator
  next => exact absurd hText ofShort_ne_separator
  next => cases hText

namespace Invocation

/-- What the reader of the options does with a word, whatever stands behind it. -/
inductive Reads (given : Given) (waiting : Option Setting) (word : String) : Prop where
  /-- The command line is refused, or asks for help. -/
  | stops (result : Except UsageFault Invocation) (hResult : ∀ given, result ≠ .ok (.run given))
      (hRead : ∀ rest, readWords given waiting (word :: rest) = result)
  | goesOn (next : Given) (later : Option Setting) (hWords : next.words = given.words)
      (hRead : ∀ rest, readWords given waiting (word :: rest) = readWords next later rest)
  /-- The word is the verb. -/
  | begins
      (hRead : ∀ rest, readWords given waiting (word :: rest)
        = .ok (.run { given with words := word :: rest }))

section Reading

variable {given result : Given} {waiting : Option Setting} {word : String}
  {front behind : List String}

/-- A value that is taken goes into the options and leaves the words alone. -/
theorem reads_take (setting : Setting) (value : String)
    (hRead : ∀ rest, readWords given waiting (word :: rest)
      = (given.options.take setting value >>= fun options =>
          readWords { given with options } none rest)) : Reads given waiting word := by
  cases hTaken : given.options.take setting value with
  | error fault =>
      refine .stops (.error fault) (fun _ hSame => by cases hSame) fun rest => ?_
      rw [hRead rest, hTaken]
      rfl
  | ok options =>
      refine .goesOn { given with options } none rfl fun rest => ?_
      rw [hRead rest, hTaken]
      rfl

theorem reads_flags (flags : List Flag)
    (hRead : ∀ rest, readWords given waiting (word :: rest)
      = (turnOn given.switches flags >>= fun
          | none => return .help
          | some switches => readWords { given with switches } none rest)) :
    Reads given waiting word := by
  cases hTurned : turnOn given.switches flags with
  | error fault =>
      refine .stops (.error fault) (fun _ hSame => by cases hSame) fun rest => ?_
      rw [hRead rest, hTurned]
      rfl
  | ok switches? =>
      cases switches? with
      | none =>
          refine .stops (.ok .help) (fun _ hSame => by cases hSame) fun rest => ?_
          rw [hRead rest, hTurned]
          rfl
      | some switches =>
          refine .goesOn { given with switches } none rfl fun rest => ?_
          rw [hRead rest, hTurned]
          rfl

/-- A setting that waits for its value takes any word but an option. -/
private theorem reads_of_waiting {setting : Setting} (hWord : word ≠ separator) :
    Reads given (some setting) word := by
  cases hText : Word.ofText word with
  | separator => exact absurd (Word.eq_separator_of_ofText hText) hWord
  | plain =>
      refine reads_take setting word fun rest => ?_
      rw [readWords.eq_def]
      simp only [hText]
  | _ =>
      refine .stops (.error (.missingValue setting)) (fun _ hSame => by cases hSame) fun rest => ?_
      rw [readWords.eq_def]
      simp only [hText]
      rfl

private theorem reads_of_ne_separator (hWord : word ≠ separator) : Reads given waiting word := by
  cases waiting with
  | some setting => exact reads_of_waiting hWord
  | none =>
      cases hText : Word.ofText word with
      | separator => exact absurd (Word.eq_separator_of_ofText hText) hWord
      | setting setting attached =>
          cases attached with
          | none =>
              refine .goesOn given (some setting) rfl fun rest => ?_
              rw [readWords.eq_def]
              simp only [hText]
              rfl
          | some value =>
              refine reads_take setting value fun rest => ?_
              rw [readWords.eq_def]
              simp only [hText]
              rfl
      | flags flags =>
          refine reads_flags flags fun rest => ?_
          rw [readWords.eq_def]
          simp only [hText]
          rfl
      | overfull name value =>
          refine .stops (.error (.unwantedValue name value)) (fun _ hSame => by cases hSame)
            fun rest => ?_
          rw [readWords.eq_def]
          simp only [hText]
          rfl
      | plain =>
          refine .begins fun rest => ?_
          rw [readWords.eq_def]
          simp only [hText]

private theorem readWords_separator :
    readWords given none (separator :: behind) = .ok (.run { given with words := behind }) := by
  have hText : Word.ofText separator = .separator := by decide
  rw [readWords.eq_def]
  simp only [hText]
  rfl

private theorem readWords_separator_of_waiting {setting : Setting} :
    readWords given (some setting) (separator :: behind) = .error (.missingValue setting) := by
  have hText : Word.ofText separator = .separator := by decide
  rw [readWords.eq_def]
  simp only [hText]
  rfl

/-- What is read of a command line with a separator, beside what is read of the part in front of
it: the separator is used up, or it stands behind the verb and is a word of the command. -/
def Continues (ahead given : Given) (behind : List String) : Prop :=
  (ahead.words = [] ∧ given = { ahead with words := behind }) ∨
    (ahead.words ≠ [] ∧ given = { ahead with words := ahead.words ++ separator :: behind })

theorem readWords_append_separator (hFirst : separator ∉ front) (hWords : given.words = [])
    (hRead : readWords given waiting (front ++ separator :: behind) = .ok (.run result)) :
    ∃ ahead, readWords given waiting front = .ok (.run ahead) ∧ separator ∉ ahead.words ∧
      Continues ahead result behind := by
  induction front generalizing given waiting with
  | nil =>
      rw [List.nil_append] at hRead
      cases waiting with
      | some setting => cases readWords_separator_of_waiting.symm.trans hRead
      | none =>
          cases readWords_separator.symm.trans hRead
          refine ⟨given, rfl, ?_, Or.inl ⟨hWords, rfl⟩⟩
          rw [hWords]
          exact List.not_mem_nil
  | cons word rest ih =>
      rw [List.mem_cons, not_or] at hFirst
      rw [List.cons_append] at hRead
      cases @reads_of_ne_separator given waiting word fun hSame => hFirst.1 hSame.symm with
      | stops stopped hStopped hStops =>
          rw [hStops] at hRead
          exact absurd hRead (hStopped result)
      | goesOn next later hNext hGoesOn =>
          rw [hGoesOn] at hRead ⊢
          exact ih hFirst.2 (hNext.trans hWords) hRead
      | begins hBegins =>
          cases (hBegins _).symm.trans hRead
          refine ⟨_, hBegins rest, ?_, Or.inr ⟨nofun, rfl⟩⟩
          rw [List.mem_cons, not_or]
          exact hFirst

/-- The environment fills the same gaps with and without a separator. -/
private theorem read_append_separator {environment : String → Option String}
    (hFirst : separator ∉ front)
    (hRead : read environment (front ++ separator :: behind) = .ok (.run result)) :
    ∃ ahead, read environment front = .ok (.run ahead) ∧ separator ∉ ahead.words ∧
      Continues ahead result behind := by
  unfold read at hRead ⊢
  cases hWords : readWords {} none (front ++ separator :: behind) with
  | error fault =>
      rw [hWords] at hRead
      cases hRead
  | ok invocation =>
      rw [hWords] at hRead
      cases invocation with
      | help => cases hRead
      | run read =>
          obtain ⟨ahead, hAhead, hNone, hContinues⟩ := readWords_append_separator hFirst rfl hWords
          have hOptions : read.options = ahead.options := by
            rcases hContinues with ⟨-, rfl⟩ | ⟨-, rfl⟩ <;> rfl
          rw [hAhead]
          cases hComplete : ahead.options.complete environment with
          | error fault =>
              dsimp only [bind, Except.bind] at hRead
              rw [hOptions, hComplete] at hRead
              cases hRead
          | ok options =>
              dsimp only [bind, Except.bind] at hRead ⊢
              rw [hOptions, hComplete] at hRead
              cases hRead
              refine ⟨{ ahead with options }, ?_, hNone, ?_⟩
              · rw [hComplete]
                rfl
              · rcases hContinues with ⟨hEmpty, rfl⟩ | ⟨hBegun, rfl⟩
                · exact Or.inl ⟨hEmpty, rfl⟩
                · exact Or.inr ⟨hBegun, rfl⟩

end Reading

end Invocation

/-! ## Words behind a separator -/

/-- Words are taken for what they are: they turn no switch on, and all of them stand in the
command behind those in front of the separator.  `ahead` is what is read without them. -/
structure TakenVerbatim (ahead given : Given) (behind : List String) : Prop where
  switches : given.allSwitches = ahead.allSwitches
  words : (lift given.words).1 = (lift ahead.words).1 ++ behind

section Behind

variable {ahead given : Given} {behind : List String}

private theorem Switches.merge_none_left (switches : Switches) :
    Switches.merge {} switches = switches := by
  cases switches
  rfl

/-- Behind the verb it is lifting that meets the separator. -/
private theorem takenVerbatim_of_begun (hNone : separator ∉ ahead.words) (hBegun : ahead.words ≠ [])
    (hGiven : given = { ahead with words := ahead.words ++ separator :: behind }) :
    TakenVerbatim ahead given behind := by
  obtain ⟨options, switches, _ | ⟨verb, before⟩⟩ := ahead
  · exact absurd rfl hBegun
  · rw [List.mem_cons, not_or] at hNone
    have hLift := @liftBehindVerb_append_separator before behind hNone.2
    subst hGiven
    refine ⟨?_, ?_⟩
    · show Switches.merge (liftBehindVerb (before ++ separator :: behind)).2 switches = _
      rw [hLift]
      rfl
    · show verb :: (liftBehindVerb (before ++ separator :: behind)).1 = _
      rw [hLift]
      rfl

/-- In front of the verb the separator is gone when lifting begins. -/
private theorem takenVerbatim_iff_of_empty (hEmpty : ahead.words = [])
    (hGiven : given = { ahead with words := behind }) :
    TakenVerbatim ahead given behind ↔ ∀ word ∈ behind.tail, IsOrdinary word := by
  obtain ⟨options, switches, words⟩ := ahead
  subst hGiven
  subst hEmpty
  constructor
  · rintro ⟨-, hWords⟩
    have hSame : behind.take 1 ++ (liftBehindVerb behind.tail).1 = behind := by
      rw [← lift_fst]
      exact hWords
    refine liftBehindVerb_eq_self_iff.mp ?_
    cases behind with
    | nil => rfl
    | cons verb rest => exact List.tail_eq_of_cons_eq hSame
  · intro hOrdinary
    have hLift := liftBehindVerb_of_forall hOrdinary
    refine ⟨?_, ?_⟩
    · show Switches.merge (lift behind).2 switches = Switches.merge {} switches
      rw [lift_snd, hLift]
    · show (lift behind).1 = behind
      rw [lift_fst, hLift]
      cases behind <;> rfl

end Behind

/-- The words behind the first separator of a command line turn no switch on and reach the
command as they are exactly if the command has begun in front of the separator, or none of them
but the first, which is the verb then, is a switch or another separator.  Otherwise the separator
has no effect: up to another one, each word behind the verb that spells a switch turns it on, and
the command is left without these words and without the other separator. -/
theorem takenVerbatim_iff {environment : String → Option String} {front behind : List String}
    {given : Given}
    (hRead : Invocation.read environment (front ++ separator :: behind) = .ok (.run given))
    (hFirst : separator ∉ front) :
    ∃ ahead, Invocation.read environment front = .ok (.run ahead) ∧
      given.options = ahead.options ∧
      (TakenVerbatim ahead given behind ↔
        ahead.words ≠ [] ∨ ∀ word ∈ behind.tail, IsOrdinary word) ∧
      (ahead.words = [] →
        (∀ switch, given.allSwitches.isOn switch = true ↔
          ahead.allSwitches.isOn switch = true ∨
            ∃ word ∈ behind.tail.takeWhile (· ≠ separator), Switch.ofWord? word = some switch) ∧
        given.command = Command.ofWords (behind.take 1
          ++ (behind.tail.takeWhile (· ≠ separator)).filter
            (fun word => (Switch.ofWord? word).isNone)
          ++ (behind.tail.dropWhile (· ≠ separator)).drop 1)) := by
  obtain ⟨ahead, hAhead, hNone, hContinues⟩ := Invocation.read_append_separator hFirst hRead
  refine ⟨ahead, hAhead, ?_⟩
  rcases hContinues with ⟨hEmpty, rfl⟩ | ⟨hBegun, hGiven⟩
  · refine ⟨rfl, ?_, fun _ => ⟨fun switch => ?_, ?_⟩⟩
    · rw [takenVerbatim_iff_of_empty hEmpty rfl]
      exact ⟨Or.inr, fun hEither => hEither.resolve_left fun hBegun => hBegun hEmpty⟩
    · show (Switches.merge (lift behind).2 ahead.switches).isOn switch = true ↔ _
      have hAll : ahead.allSwitches = ahead.switches := by
        unfold Given.allSwitches
        rw [hEmpty]
        exact Switches.merge_none_left _
      rw [Switches.isOn_merge, Bool.or_eq_true, lift_snd, isOn_liftBehindVerb_iff, hAll, or_comm]
    · show Command.ofWords (lift behind).1 = _
      rw [lift_fst, liftBehindVerb_words, List.append_assoc]
  · have hVerbatim := takenVerbatim_of_begun hNone hBegun hGiven
    subst hGiven
    exact ⟨rfl, ⟨fun _ => Or.inl hBegun, fun _ => hVerbatim⟩, fun hEmpty => absurd hEmpty hBegun⟩

/-- The password `-f` behind a separator turns a switch on, and the key takes its place. -/
theorem lifted_behind_separator :
    Invocation.read (fun _ => none) ([] ++ separator :: ["spass", "-f", "key"])
        = .ok (.run { words := ["spass", "-f", "key"] }) ∧
      separator ∉ ([] : List String) ∧
      ¬TakenVerbatim {} { words := ["spass", "-f", "key"] } ["spass", "-f", "key"] ∧
      Given.allSwitches { words := ["spass", "-f", "key"] } = { force := true } ∧
      Given.command { words := ["spass", "-f", "key"] } = Command.ofWords ["spass", "key"] := by
  have hRead : Invocation.read (fun _ => none) ([] ++ separator :: ["spass", "-f", "key"])
      = .ok (.run { words := ["spass", "-f", "key"] }) := by decide
  have hEmpty : Invocation.read (fun _ => none) [] = .ok (.run {}) := by decide
  obtain ⟨ahead, hAhead, -, hVerbatim, hLifted⟩ := takenVerbatim_iff hRead List.not_mem_nil
  cases hEmpty.symm.trans hAhead
  refine ⟨hRead, List.not_mem_nil, ?_, by decide, (hLifted rfl).2.trans (by decide)⟩
  rw [hVerbatim]
  rintro (hBegun | hOrdinary)
  · exact hBegun rfl
  · exact absurd (hOrdinary "-f" (by decide)).2 (by decide)

end GridAdmin.CommandLine
