import GridAdmin.CommandLine.Program
import GridAdmin.Proofs.Dates
import GridAdmin.Proofs.Shell.Dispatched
import GridAdmin.Rehearsal

/-!
# Times that are shown are read

A time is written as a year of varying width, which has a sign outside of four digits,
and five fields of two digits.  Each reader takes what its writer wrote and leaves the
rest, because the mark behind a field is no digit, and the date is counted back to the
day that it was made of.

`ctime` converts in both directions, and it answers without the service, so that the
statement about it is one on all surroundings, in a session and on the command line.

## Main definitions

* `Shell.MayPrint`: a command prints a line in some surroundings.
* `Shell.PrintsAlone`: a command prints a line and does nothing else in all of them.

## Main results

* `LocalTime.yearField_yearText`: a year is read back, whatever its sign and width.
* `LocalTime.readFields?_dateTimeText`: so are all fields of a time.
* `LocalTime.read?_text`: a time that is shown as a date is read as that time.
* `localTime_readsBack`: what `ctime` shows is what `ctime str` takes back.
-/

namespace GridAdmin

/-- A month and a day of it are written with two digits. -/
private theorem Date.lt_hundred {d : Date} (hValid : d.isValid = true) :
    d.month < 100 ∧ d.day < 100 := by
  obtain ⟨-, hMonth, -, hDay⟩ := (Date.isValid_iff d).mp hValid
  have hLength : daysInMonth d.year d.month ≤ 31 := by
    unfold daysInMonth
    repeat' split
    all_goals decide
  omega

namespace LocalTime

open Text (isBlank isDigits readNat? natText zeroPad EndsDigits)

/-! ## Fields -/

section Fields

variable {digits rest : List Char} {max n : Nat}

/-- Digits in front of a mark are read as their number. -/
theorem leadingNumber_append (hDigits : isDigits digits = true) (hRead : readNat? digits = some n)
    (hMax : digits.length ≤ max) (hRest : EndsDigits rest) :
    leadingNumber max (digits ++ rest) = some (n, rest) := by
  unfold leadingNumber
  rw [Text.takeWhile_isDigit_append hDigits hRest, List.take_of_length_le hMax]
  dsimp only
  rw [hRead, List.drop_left]
  rfl

/-- A number that is written with at most `max` digits, zeros in front included. -/
theorem leadingNumber_zeroPad {width : Nat} (hWidth : (zeroPad width (natText n)).length ≤ max)
    (hRest : EndsDigits rest) :
    leadingNumber max (zeroPad width (natText n) ++ rest) = some (n, rest) :=
  leadingNumber_append (Text.isDigits_zeroPad width (Text.isDigits_natText n))
    (Text.readNat?_zeroPad width n) hWidth hRest

private theorem isBlank_of_isDigit {c : Char} (hDigit : c.isDigit = true) : isBlank c = false := by
  have hLower : 48 ≤ c.toNat := by
    simp only [Char.isDigit, Bool.and_eq_true, decide_eq_true_eq] at hDigit
    exact hDigit.1
  have hUpper : c.toNat ≤ 57 := by
    simp only [Char.isDigit, Bool.and_eq_true, decide_eq_true_eq] at hDigit
    exact hDigit.2
  simp only [isBlank, Bool.or_eq_false_iff, Bool.and_eq_false_iff, decide_eq_false_iff_not]
  omega

/-- Digits begin with one, so nothing in front of them is passed over. -/
theorem exists_digit (hDigits : isDigits digits = true) (rest : List Char) :
    ∃ c cs, digits = c :: cs ∧ c.isDigit = true ∧
      (digits ++ rest).dropWhile isBlank = digits ++ rest := by
  cases digits with
  | nil => cases hDigits
  | cons c cs =>
      have hDigit : c.isDigit = true := by
        simp only [isDigits, List.all_cons, Bool.and_eq_true] at hDigits
        exact hDigits.2.1
      refine ⟨c, cs, rfl, hDigit, ?_⟩
      rw [List.cons_append, List.dropWhile_cons_of_neg]
      rw [isBlank_of_isDigit hDigit]
      decide

private theorem field_twoDigits (hBelow : n < 100) (hRest : EndsDigits rest) :
    field (twoDigits n ++ rest) = some (n, rest) := by
  have hDigits := Text.isDigits_zeroPad 2 (Text.isDigits_natText n)
  have hWidth : (zeroPad 2 (natText n)).length ≤ 2 := by
    have hOwn : (natText n).length ≤ 2 := Text.length_natText_le (by decide) hBelow
    rw [Text.length_zeroPad]
    omega
  obtain ⟨c, cs, -, -, hDrop⟩ := exists_digit hDigits rest
  unfold field twoDigits
  rw [hDrop]
  exact leadingNumber_zeroPad hWidth hRest

/-- Four digits are read as a year without a sign. -/
private theorem yearField_of_isDigits (hDigits : isDigits digits = true) :
    yearField (digits ++ rest)
      = (leadingNumber 4 (digits ++ rest)).map fun (n, after) => ((n : Int), after) := by
  obtain ⟨c, cs, hText, hDigit, hDrop⟩ := exists_digit hDigits rest
  unfold yearField
  rw [hDrop, hText, List.cons_append]
  split
  · rename_i hSign
    rw [(List.cons.inj hSign).1] at hDigit
    cases hDigit
  · rename_i hSign
    rw [(List.cons.inj hSign).1] at hDigit
    cases hDigit
  · rfl

/-- A year is read back, whatever its sign and however many digits it has. -/
theorem yearField_yearText (year : Int) (hRest : EndsDigits rest) :
    yearField (yearText year ++ rest) = some (year, rest) := by
  unfold yearText
  by_cases hPlain : 0 ≤ year ∧ year ≤ 9999
  · have hDigits := Text.isDigits_zeroPad 4 (Text.isDigits_natText year.toNat)
    have hWidth : (zeroPad 4 (natText year.toNat)).length ≤ 4 := by
      have hBelow : year.toNat < 10000 := by omega
      have hOwn : (natText year.toNat).length ≤ 4 := Text.length_natText_le (by decide) hBelow
      rw [Text.length_zeroPad]
      omega
    rw [if_pos hPlain, yearField_of_isDigits hDigits, leadingNumber_zeroPad hWidth hRest]
    show some ((year.toNat : Int), rest) = some (year, rest)
    rw [Int.toNat_of_nonneg hPlain.1]
  · have hWidth : (zeroPad 4 (natText year.natAbs)).length
        ≤ (zeroPad 4 (natText year.natAbs) ++ rest).length := by
      rw [List.length_append]
      omega
    have hNumber := leadingNumber_zeroPad hWidth hRest
    rw [if_neg hPlain]
    by_cases hMinus : year < 0
    · rw [if_pos hMinus]
      show (leadingNumber (zeroPad 4 (natText year.natAbs) ++ rest).length
        (zeroPad 4 (natText year.natAbs) ++ rest)).map _ = some (year, rest)
      rw [hNumber]
      show some (-(year.natAbs : Int), rest) = some (year, rest)
      rw [show -(year.natAbs : Int) = year by omega]
    · rw [if_neg hMinus]
      show (leadingNumber (zeroPad 4 (natText year.natAbs) ++ rest).length
        (zeroPad 4 (natText year.natAbs) ++ rest)).map _ = some (year, rest)
      rw [hNumber]
      show some ((year.natAbs : Int), rest) = some (year, rest)
      rw [show (year.natAbs : Int) = year by omega]

theorem skip_cons (c : Char) (cs : List Char) : skip c (c :: cs) = some cs :=
  if_pos rfl

end Fields

/-! ## Times -/

/-- Every field is read up to the mark behind it. -/
theorem readFields?_dateTimeText {date : Date} {second : Nat} (hValid : date.isValid = true)
    (hSecond : second < 86400) :
    readFields? (dateTimeText date second)
      = some (date, second / 3600, second / 60 % 60, second % 60) := by
  obtain ⟨hMonth, hDay⟩ := Date.lt_hundred hValid
  have hDash : ∀ cs, EndsDigits ('-' :: cs) := fun cs => Text.endsDigits_cons rfl
  have hDot : ∀ cs, EndsDigits ('.' :: cs) := fun cs => Text.endsDigits_cons rfl
  have hColon : ∀ cs, EndsDigits (':' :: cs) := fun cs => Text.endsDigits_cons rfl
  have hHour : second / 3600 < 100 := by omega
  have hMinute : second / 60 % 60 < 100 := by omega
  have hLast := field_twoDigits (n := second % 60) (by omega) Text.endsDigits_nil
  rw [List.append_nil] at hLast
  simp only [readFields?, dateTimeText, List.append_assoc, List.cons_append, Option.bind_eq_bind,
    yearField_yearText _ (hDash _), field_twoDigits hMonth (hDash _), field_twoDigits hDay (hDot _),
    field_twoDigits hHour (hColon _), field_twoDigits hMinute (hColon _), hLast, skip_cons,
    Option.bind_some, if_true]

/-- In a year that is shown, a time is written as its day and the second of that day. -/
theorem text_eq {seconds : Int}
    (hShown : (Date.ofDays (seconds / secondsPerDay)).isShown = true) :
    text seconds
      = dateTimeText (Date.ofDays (seconds / secondsPerDay)) (seconds % secondsPerDay).toNat :=
  if_pos hShown

/-- A date is no number, for it has dashes. -/
private theorem not_isDigits_text {seconds : Int}
    (hShown : (Date.ofDays (seconds / secondsPerDay)).isShown = true) :
    ¬isDigits (text seconds) = true := by
  intro hDigits
  have hDash : '-' ∈ text seconds := by
    rw [text_eq hShown]
    simp [dateTimeText]
  simp only [isDigits, Bool.and_eq_true, List.all_eq_true] at hDigits
  exact absurd (hDigits.2 '-' hDash) (by decide)

/-- A time that is shown as a date is read as that time. -/
theorem read?_text {seconds : Int}
    (hShown : (Date.ofDays (seconds / secondsPerDay)).isShown = true) :
    read? (text seconds) = some seconds := by
  have hValid := Date.isValid_ofDays (seconds / secondsPerDay)
  have hLower : 0 ≤ seconds % secondsPerDay := by
    unfold secondsPerDay
    omega
  have hUpper : seconds % secondsPerDay < 86400 := by
    unfold secondsPerDay
    omega
  have hSecond : (seconds % secondsPerDay).toNat < 86400 := by omega
  have hFields := readFields?_dateTimeText hValid hSecond
  rw [text_eq hShown, read?, hFields, Option.bind_eq_bind, Option.bind_some]
  have hTime : (seconds % secondsPerDay).toNat / 3600 ≤ 23 ∧
      (seconds % secondsPerDay).toNat / 60 % 60 ≤ 59 ∧
      (seconds % secondsPerDay).toNat % 60 ≤ 60 := by omega
  simp only [hValid, hShown, decide_eq_true hTime, Bool.and_self, if_true, Date.toDays_ofDays]
  have hDay : seconds / secondsPerDay * secondsPerDay + seconds % secondsPerDay = seconds :=
    Int.ediv_mul_add_emod _ _
  congr 1
  omega

end LocalTime

/-! ## What a command prints -/

namespace Shell

/-- In some surroundings, the command prints this line in a session. -/
def MayPrint (command : Command) (text : String) : Prop :=
  ∃ context state events ended?,
    Proc.Trace (toProc (dispatch command) context state) events ended? ∧
      (⟨Query.print (.out text), ()⟩ : Event) ∈ events

/-- Whatever the surroundings, the command prints this line and does nothing else, both in
a session, where its echo may stand in front, and from the command line. -/
structure PrintsAlone (command : Command) (text : String) : Prop where
  inSession : ∀ context state, Ensures (dispatch command) context state fun events last =>
    events = echoed context.settings command ++ shown [.out text] ∧
      last = some (.handled, { state with lastStatus := .success })
  fromCommandLine : ∃ program, CommandLine.offline? command = some program ∧
    program.Always fun events value? =>
      events = [⟨CommandLine.Query.print (.out text), ()⟩] ∧ value? = some 0

section Prints

variable {command : Command} {text other : String}

theorem printsAlone_of_offline {verb : Offline}
    (hVerb : Verb.handler? command.verb = some (.offline verb))
    (hPrint : Action.offline verb command = liftM (print (.out text))) :
    PrintsAlone command text where
  inSession := by
    intro context state
    refine ensures_dispatch.mono fun events last hTrace => ?_
    obtain ⟨body, ended?, hBody, rfl, rfl⟩ := hTrace.of_handler hVerb nofun
    have hAction : Action.handle (.offline verb) command = liftM (print (.out text)) := hPrint
    rw [hAction] at hBody
    have hPrinted : Action.Ensures (liftM (print (.out text))) context
        { state with lastStatus := .success } fun body last =>
          body = shown [.out text] ∧
            last = some (.ok (), { state with lastStatus := .success }) := by
      rw [Action.ensures_lift, ensures_print]
      exact ⟨rfl, rfl⟩
    obtain ⟨rfl, rfl⟩ := hPrinted body ended? hBody
    exact ⟨List.append_nil _, rfl⟩
  fromCommandLine := by
    refine ⟨CommandLine.runVerb verb command, ?_, ?_⟩
    · unfold CommandLine.offline?
      rw [hVerb]
    · have hProgram : CommandLine.runVerb verb command
          = .ask (CommandLine.Query.print (.out text)) fun _ => .done 0 := by
        unfold CommandLine.runVerb
        rw [hPrint]
        rfl
      rw [hProgram]
      exact Proc.always_ask.mpr fun _ => Proc.always_done.mpr ⟨rfl, rfl⟩

private theorem PrintsAlone.mayPrint (hPrints : PrintsAlone command text) :
    MayPrint command text := by
  have hTrace := Proc.trace_run Rehearsal.handler
    (toProc (dispatch command) CommandLine.offlineContext .initial)
    { terminal := {}, service := {} }
  refine ⟨_, _, _, _, hTrace, ?_⟩
  rw [(hPrints.inSession _ _ _ _ hTrace).1]
  exact List.mem_append_right _ List.mem_cons_self

/-- The echo is a line of another kind, so what is printed is this line. -/
private theorem PrintsAlone.eq_of_mayPrint (hPrints : PrintsAlone command text)
    (hMay : MayPrint command other) : other = text := by
  obtain ⟨context, state, events, ended?, hTrace, hEvent⟩ := hMay
  obtain ⟨rfl, -⟩ := hPrints.inSession context state events ended? hTrace
  have hEchoed : Asks (fun query => query ≠ .print (.out other))
      (echoed context.settings command) := by
    unfold echoed
    split
    · exact asks_shown_of_mem fun line hLine => by
        rw [List.mem_singleton.mp hLine]
        nofun
    · exact asks_nil
  rcases List.mem_append.mp hEvent with hEcho | hOwn
  · exact absurd rfl (hEchoed _ hEcho)
  · cases List.mem_singleton.mp hOwn
    rfl

end Prints

theorem handler?_ctime : Verb.handler? "ctime" = some (.offline .convertTime) := by
  decide +kernel

section ConvertTime

variable {command : Command} {seconds : Int64}

private theorem ofList_natText_toInt (hNat : 0 ≤ seconds.toInt) :
    Text.readInt64? (Text.natText seconds.toInt.toNat) = some seconds := by
  have hRead := Text.readInt64?_intText seconds
  have hText : Text.intText seconds.toInt = Text.natText seconds.toInt.toNat := by
    rw [← Int.toNat_of_nonneg hNat]
    rfl
  rw [hText] at hRead
  exact hRead

/-- A number of seconds is converted to the time that it is. -/
theorem printsAlone_of_number (hNat : 0 ≤ seconds.toInt) (hVerb : command.verb = "ctime")
    (hArg : command.arg 1 = String.ofList (Text.natText seconds.toInt.toNat)) :
    PrintsAlone command
      ("Converted to local time: " ++ String.ofList (LocalTime.text seconds.toInt)) := by
  have hDigits : Text.isDigits (command.arg 1).toList = true := by
    rw [hArg, String.toList_ofList]
    exact Text.isDigits_natText _
  have hNow : ¬command.arg 1 = "now" := by
    intro hWord
    rw [hWord] at hDigits
    exact absurd hDigits (by decide)
  have hStr : ¬command.arg 1 = "str" := by
    intro hWord
    rw [hWord] at hDigits
    exact absurd hDigits (by decide)
  have hResult : Action.localTimeOf (command.arg 1)
      = .ok (String.ofList (LocalTime.text seconds.toInt)) := by
    unfold Action.localTimeOf
    rw [if_pos hDigits, hArg, String.toList_ofList, ofList_natText_toInt hNat]
  have hHandler : Verb.handler? command.verb = some (.offline .convertTime) := by
    rw [hVerb]
    exact handler?_ctime
  refine printsAlone_of_offline hHandler ?_
  show Action.convertTime command = _
  unfold Action.convertTime
  rw [if_neg hNow, if_neg hStr, hResult]
  rfl

/-- A time that is shown as a date is converted to its number of seconds. -/
private theorem printsAlone_of_time
    (hShown : (Date.ofDays (seconds.toInt / LocalTime.secondsPerDay)).isShown = true)
    (hVerb : command.verb = "ctime") (hArg : command.arg 1 = "str")
    (hText : command.arg 2 = String.ofList (LocalTime.text seconds.toInt)) :
    PrintsAlone command ("Converted to local catalog integer time: "
      ++ String.ofList (LocalTime.catalogText seconds.toInt)) := by
  have hDate : ¬Text.isDigits (command.arg 2).toList = true := by
    rw [hText, String.toList_ofList]
    exact LocalTime.not_isDigits_text hShown
  have hResult : Action.catalogTimeOf (command.arg 2)
      = .ok (String.ofList (LocalTime.catalogText seconds.toInt)) := by
    unfold Action.catalogTimeOf
    rw [if_neg hDate, hText, String.toList_ofList, LocalTime.read?_text hShown]
  have hNow : ¬command.arg 1 = "now" := by
    rw [hArg]
    decide
  have hHandler : Verb.handler? command.verb = some (.offline .convertTime) := by
    rw [hVerb]
    exact handler?_ctime
  refine printsAlone_of_offline hHandler ?_
  show Action.convertTime command = _
  unfold Action.convertTime
  rw [if_neg hNow, if_pos hArg, hResult]
  rfl

end ConvertTime

end Shell

open Shell (MayPrint PrintsAlone) in
/-- A time in a year that is shown is written as a text that is read as that time.  So
`ctime` converts every number of seconds in these years to a text from which `ctime str`
gets back the number, in the catalog's own form. -/
theorem localTime_readsBack (seconds : Int64)
    (hFirst : Date.firstYear ≤ (Date.ofDays (seconds.toInt / LocalTime.secondsPerDay)).year)
    (hLast : (Date.ofDays (seconds.toInt / LocalTime.secondsPerDay)).year ≤ Date.lastYear) :
    LocalTime.read? (LocalTime.text seconds.toInt) = some seconds.toInt ∧
    (0 ≤ seconds.toInt →
      LocalTime.catalogText seconds.toInt
        = Text.zeroPad 11 (Text.natText seconds.toInt.toNat) ∧
      ∀ command : Command, command.verb = "ctime" →
        command.arg 1 = String.ofList (Text.natText seconds.toInt.toNat) →
        (∃ time, PrintsAlone command ("Converted to local time: " ++ time)) ∧
        ∀ time, MayPrint command ("Converted to local time: " ++ time) →
          ∀ back : Command, back.verb = "ctime" → back.arg 1 = "str" → back.arg 2 = time →
            PrintsAlone back ("Converted to local catalog integer time: "
              ++ String.ofList (LocalTime.catalogText seconds.toInt))) := by
  have hShown : (Date.ofDays (seconds.toInt / LocalTime.secondsPerDay)).isShown = true :=
    decide_eq_true ⟨hFirst, hLast⟩
  refine ⟨LocalTime.read?_text hShown, fun hNat => ⟨?_, fun command hVerb hArg => ?_⟩⟩
  · rw [← Int.toNat_of_nonneg hNat]
    rfl
  · have hPrints := Shell.printsAlone_of_number hNat hVerb hArg
    refine ⟨⟨_, hPrints⟩, fun time hMay back hBack hStr hTime => ?_⟩
    have hSame : time = String.ofList (LocalTime.text seconds.toInt) :=
      String.append_right_inj _ |>.mp (hPrints.eq_of_mayPrint hMay)
    exact Shell.printsAlone_of_time hShown hBack hStr (hTime.trans hSame)

open Shell (MayPrint PrintsAlone) in
/-- The first second of a year with five digits. -/
theorem catalogTime_of_signed_year :
    MayPrint (.ofWords ["ctime", "253402300800"])
        "Converted to local time: +10000-01-01.00:00:00" ∧
      PrintsAlone (.ofWords ["ctime", "str", "+10000-01-01.00:00:00"])
        "Converted to local catalog integer time: 253402300800" := by
  have hYear : (Date.ofDays ((253402300800 : Int64).toInt / LocalTime.secondsPerDay)).year
      = 10000 := by decide
  have hBack := (localTime_readsBack 253402300800 (by rw [hYear]; decide) (by rw [hYear]; decide)).2
    (by decide)
  have hText : String.ofList (LocalTime.text (253402300800 : Int64).toInt)
      = "+10000-01-01.00:00:00" := by decide
  have hPrints : PrintsAlone (.ofWords ["ctime", "253402300800"]) ("Converted to local time: "
      ++ String.ofList (LocalTime.text (253402300800 : Int64).toInt)) :=
    Shell.printsAlone_of_number (by decide) rfl (by decide)
  have hMay := hPrints.mayPrint
  rw [hText] at hMay
  exact ⟨hMay, (hBack.2 (.ofWords ["ctime", "253402300800"]) rfl (by decide)).2 _ hMay
    (.ofWords ["ctime", "str", "+10000-01-01.00:00:00"]) rfl rfl rfl⟩

end GridAdmin
