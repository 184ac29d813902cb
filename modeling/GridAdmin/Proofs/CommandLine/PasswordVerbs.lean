import GridAdmin.Proofs.CommandLine.OfflineVerbs
import GridAdmin.Proofs.Scrambling

/-!
# Scrambled passwords are read back

`spass` shows a scrambled password to be handed on, and `dspass` takes it back, from its words
or from two lines of the console.  Each of the two verbs has a limit of its own on the length of
what it is given, and they are on different texts, the password and its scrambled form.  That one
can always read what the other shows rests on two facts on scrambling: it keeps the number of
bytes, so that both limits are met or neither, and it keeps a text empty or not, so that a
scrambled form never looks like a missing word, unless it is that of the empty password.

The verbs need no session, so everything holds on the command line and in sessions alike.

## Main definitions

* `CommandLine.Converses`: what a command prints on given lines of input, and how it ends.

## Main results

* `CommandLine.converses_of_run`: it is enough to know what the command does alone.
* `CommandLine.Converses.unique`: there is only one way to converse on the same lines.
* `CommandLine.dspass_reads_spass`: what `spass` shows, `dspass` reads back.
-/

namespace GridAdmin

/-! ## Scrambled texts -/

section Texts

variable (text key : String)

theorem Password.isTooLong_iff :
    Password.isTooLong text = true ↔ Password.maxLength - 2 < text.utf8ByteSize := by
  unfold Password.isTooLong
  rw [decide_eq_true_eq, ← utf8ByteSize_ofList, String.ofList_toList]

/-- A scrambled text meets the limit exactly if the text does. -/
theorem Password.isTooLong_scramble :
    Password.isTooLong (scramble text key) = Password.isTooLong text := by
  rw [Bool.eq_iff_iff, isTooLong_iff, isTooLong_iff, utf8ByteSize_scramble]

private theorem scramble_eq_empty_iff : scramble text key = "" ↔ text = "" := by
  constructor
  · intro hEmpty
    rw [← descramble_scramble text key, hEmpty]
    rfl
  · rintro rfl
    rfl

end Texts

namespace Action

/-! ## Password verbs alone -/

/-- The warning in front of an empty key. -/
def keyWarning (key : String) : List String :=
  if key = "" then ["Warning, scramble key is null"] else []

/-- Print these texts, and end well. -/
def saying (texts : List String) : Proc Shell.interface (Except ShellError Unit) :=
  (liftM (Shell.printAll texts) : Action Unit).alone

section Alone

variable {key text : String}

/-- Both verbs are a limit, a warning and a line. -/
theorem alone_limited {c : Prop} [Decidable c] {fault : ArgumentFault} :
    (do
      if c then refuse fault
      warnOfEmptyKey key
      Shell.print (.out text) : Action Unit).alone
      = if c then .done (.error (.invalidArgument fault))
        else saying (keyWarning key ++ [text]) := by
  by_cases hLimit : c
  · simp only [if_pos hLimit]
    rfl
  · simp only [if_neg hLimit]
    unfold keyWarning warnOfEmptyKey
    by_cases hKey : key = ""
    · simp only [if_pos hKey]
      rfl
    · simp only [if_neg hKey]
      rfl

private theorem alone_scramblePassword {password : String} :
    (scramblePassword password key).alone
      = if Password.isTooLong password = true then
          .done (.error (.invalidArgument .passwordTooLong))
        else saying (keyWarning key ++ ["Scrambled form is:" ++ scramble password key]) :=
  alone_limited

theorem alone_descramblePassword {scrambled : String} :
    (descramblePassword scrambled key).alone
      = if Password.isTooLong scrambled = true then
          .done (.error (.invalidArgument .scrambledPasswordTooLong))
        else saying (keyWarning key ++ ["Unscrambled form is:" ++ descramble scrambled key]) :=
  alone_limited

end Alone

end Action

namespace CommandLine

open Shell (LineAnswer withLines)

/-! ## Conversations on lines of input -/

/-- What a run printed as its output, how it ended, and the lines that it left unread. -/
structure Summary (α : Type) where
  output : List String
  value? : Option α
  unread : List LineAnswer

def summaryOf {σ α : Type} (run : Proc.Run Shell.interface (List LineAnswer × σ) α) : Summary α :=
  ⟨Shell.printedOn .out run.events, run.value?, run.state.1⟩

/-- A command that needs no session reads exactly these lines, prints this output and ends with
this result, on the command line and, behind its echo, in every session. -/
structure Converses (command : Command) (lines : List LineAnswer) (output : List String)
    (result : Except ShellError Unit) : Prop where
  alone : ∃ talk, standalone? command = some talk ∧
    ∀ {σ : Type} (others : Proc.Handler Shell.interface σ) (more : List LineAnswer) (s : σ),
      summaryOf (talk.run (withLines others) (lines ++ more, s)) = ⟨output, some result, more⟩
  inSession : ∀ {σ : Type} (others : Proc.Handler Shell.interface σ) (more : List LineAnswer)
    (s : σ) (context : Shell.Context) (state : Shell.State),
      summaryOf ((Shell.toProc (Shell.dispatch command) context state).run (withLines others)
          (lines ++ more, s))
        = ⟨Shell.printedOn .out (Shell.echoed context.settings command) ++ output,
            Shell.endOf (some (result, { state with lastStatus := .success })), more⟩

section Converses

variable {command : Command} {lines : List LineAnswer} {output : List String}
  {result : Except ShellError Unit}

/-- Output is printed past the lines of input. -/
private theorem summaryOf_saying {σ : Type} (others : Proc.Handler Shell.interface σ)
    (texts : List String)
    (more : List LineAnswer) (s : σ) :
    summaryOf ((Action.saying texts).run (withLines others) (more, s))
      = ⟨texts, some (.ok ()), more⟩ := by
  induction texts generalizing s with
  | nil => rfl
  | cons text rest ih =>
      let later := (others.answer (.print (.out text)) s).2
      have hStep : summaryOf ((Action.saying (text :: rest)).run (withLines others) (more, s))
          = ⟨text :: (summaryOf ((Action.saying rest).run (withLines others) (more, later))).output,
              (summaryOf ((Action.saying rest).run (withLines others) (more, later))).value?,
              (summaryOf ((Action.saying rest).run (withLines others) (more, later))).unread⟩ := rfl
      rw [hStep, ih]

/-- The report of a local error is no output, and reads nothing. -/
private theorem summaryOf_bind_settle {σ : Type} {others : Proc.Handler Shell.interface σ}
    {talk : Proc Shell.interface (Except ShellError Unit)} {more : List LineAnswer}
    {start : List LineAnswer × σ} (state : Shell.State)
    (hLocal : ∀ e, result = .error e → e.isLocal = true)
    (hTalk : summaryOf (talk.run (withLines others) start) = ⟨output, some result, more⟩) :
    summaryOf ((talk >>= Shell.settle state).run (withLines others) start)
      = ⟨output, Shell.endOf (some (result, { state with lastStatus := .success })), more⟩ := by
  obtain ⟨hOutput, hValue, hUnread⟩ := Summary.mk.inj hTalk
  unfold summaryOf
  rw [Proc.run_bind, Proc.Run.andThen, hValue]
  rcases result with e | ⟨⟩
  · show Summary.mk (Shell.printedOn .out (_ ++ [⟨Shell.Query.print (Shell.failureLine e), _⟩])) _ _
      = _
    rw [Shell.failureLine_of_isLocal (hLocal e rfl), Shell.printedOn_append, hOutput]
    show Summary.mk (output ++ []) _ _ = _
    rw [List.append_nil]
    exact congrArg _ hUnread
  · show Summary.mk (Shell.printedOn .out (_ ++ [])) _ _ = _
    rw [List.append_nil, hOutput]
    exact congrArg _ hUnread

/-- What a command does alone on the lines decides what it does everywhere. -/
theorem converses_of_run {handler : Handler} (hHandler : Verb.handler? command.verb = some handler)
    (hSession : handler.NeedsNoSession)
    (hLocal : ∀ e, result = .error e → e.isLocal = true)
    (hRun : ∀ {σ : Type} (others : Proc.Handler Shell.interface σ) (more : List LineAnswer) (s : σ),
      summaryOf ((Action.handle handler command).alone.run (withLines others) (lines ++ more, s))
        = ⟨output, some result, more⟩) :
    Converses command lines output result where
  alone := ⟨_, standalone?_of_needsNoSession hHandler hSession, hRun⟩
  inSession := by
    intro σ others more s context state
    rw [Shell.toProc_dispatch_of_standsAlone hHandler hSession]
    by_cases hVerbose : context.settings.veryVerbose = true
    · rw [if_pos hVerbose]
      have hEcho : Shell.echoed context.settings command
          = Shell.shown [.echo command.words] := if_pos hVerbose
      let later := (others.answer (.print (.echo command.words)) s).2
      have hBehind := summaryOf_bind_settle state hLocal (hRun others more later)
      have hStep : ∀ {next : Proc Shell.interface (Outcome × Shell.State)},
          summaryOf ((Proc.ask (Shell.Query.print (.echo command.words)) fun _ => next).run
              (withLines others) (lines ++ more, s))
            = ⟨Shell.printedOn .out (Shell.shown [.echo command.words])
                ++ (summaryOf (next.run (withLines others) (lines ++ more, later))).output,
              (summaryOf (next.run (withLines others) (lines ++ more, later))).value?,
              (summaryOf (next.run (withLines others) (lines ++ more, later))).unread⟩ := rfl
      rw [hStep, hBehind, hEcho]
    · have hEcho : Shell.echoed context.settings command = [] := if_neg hVerbose
      rw [if_neg hVerbose, hEcho]
      exact summaryOf_bind_settle state hLocal (hRun others more s)

/-- The same lines lead to the same end. -/
theorem Converses.unique {other : List String} {otherResult : Except ShellError Unit}
    (hConverses : Converses command lines output result)
    (hOther : Converses command lines other otherResult) :
    output = other ∧ result = otherResult := by
  obtain ⟨talk, hTalk, hRun⟩ := hConverses.alone
  obtain ⟨again, hAgain, hOtherRun⟩ := hOther.alone
  cases hTalk.symm.trans hAgain
  have hSame := (hRun Rehearsal.handler [] { terminal := {}, service := {} }).symm.trans
    (hOtherRun Rehearsal.handler [] { terminal := {}, service := {} })
  obtain ⟨hOutput, hResult, -⟩ := Summary.mk.inj hSame
  exact ⟨hOutput, Option.some.inj hResult⟩

end Converses

/-! ## Password verbs -/

/-- The command refuses what is beyond its limit, and otherwise prints these texts. -/
structure Limits (command : Command) (lines : List LineAnswer) (tooLong : Bool)
    (fault : ArgumentFault) (texts : List String) : Prop where
  refuses : tooLong = true → Converses command lines [] (.error (.invalidArgument fault))
  prints : tooLong = false → Converses command lines texts (.ok ())

section Limits

variable {command : Command} {lines : List LineAnswer}

/-- Nothing else is refused. -/
private theorem Limits.refused_iff {tooLong : Bool} {fault : ArgumentFault} {texts : List String}
    (hLimits : Limits command lines tooLong fault texts) :
    (∃ output e, Converses command lines output (.error e)) ↔ tooLong = true := by
  constructor
  · rintro ⟨output, e, hRefused⟩
    by_contra hFits
    cases (hRefused.unique (hLimits.prints (Bool.eq_false_iff.mpr hFits))).2
  · intro hLong
    exact ⟨_, _, hLimits.refuses hLong⟩

/-- Nothing else is printed. -/
private theorem Limits.accepted {tooLong : Bool} {fault : ArgumentFault}
    {texts output : List String}
    (hLimits : Limits command lines tooLong fault texts)
    (hAccepted : Converses command lines output (.ok ())) :
    tooLong = false ∧ output = texts := by
  have hFits : tooLong = false := by
    refine Bool.eq_false_iff.mpr fun hLong => ?_
    cases (hAccepted.unique (hLimits.refuses hLong)).2
  exact ⟨hFits, (hAccepted.unique (hLimits.prints hFits)).1⟩

private theorem handler?_spass : Verb.handler? "spass" = some (.offline .scramble) := by
  decide +kernel

theorem handler?_dspass : Verb.handler? "dspass" = some (.offline .descramble) := by
  decide +kernel

theorem limits_of_run (verb : Offline) {tooLong : Bool} {fault : ArgumentFault}
    {texts : List String} (hHandler : Verb.handler? command.verb = some (.offline verb))
    (hRun : ∀ {σ : Type} (others : Proc.Handler Shell.interface σ) (more : List LineAnswer) (s : σ),
      summaryOf ((Action.offline verb command).alone.run (withLines others) (lines ++ more, s))
        = summaryOf ((if tooLong = true then .done (.error (.invalidArgument fault))
            else Action.saying texts).run (withLines others) (more, s))) :
    Limits command lines tooLong fault texts where
  refuses := by
    intro hLong
    refine converses_of_run hHandler (Or.inr ⟨verb, rfl⟩) ?_ fun others more s => ?_
    · rintro _ ⟨⟩
      rfl
    · exact (hRun others more s).trans (by rw [if_pos hLong]; rfl)
  prints := by
    intro hFits
    refine converses_of_run hHandler (Or.inr ⟨verb, rfl⟩) nofun fun others more s => ?_
    refine (hRun others more s).trans ?_
    rw [if_neg (by rw [hFits]; nofun)]
    exact summaryOf_saying others texts more s

theorem limits_spass (hVerb : command.verb = "spass") :
    Limits command [] (Password.isTooLong (command.arg 1)) .passwordTooLong
      (Action.keyWarning (command.arg 2)
        ++ ["Scrambled form is:" ++ scramble (command.arg 1) (command.arg 2)]) := by
  refine limits_of_run .scramble (by rw [hVerb]; exact handler?_spass) ?_
  intro σ others more s
  rw [← Action.alone_scramblePassword]
  rfl

/-- The words of `dspass` are used if there are any. -/
private theorem limits_dspass_words (hVerb : command.verb = "dspass") (hWord : command.arg 1 ≠ "") :
    Limits command [] (Password.isTooLong (command.arg 1)) .scrambledPasswordTooLong
      (Action.keyWarning (command.arg 2)
        ++ ["Unscrambled form is:" ++ descramble (command.arg 1) (command.arg 2)]) := by
  refine limits_of_run .descramble (by rw [hVerb]; exact handler?_dspass) ?_
  intro σ others more s
  rw [← Action.alone_descramblePassword]
  show summaryOf ((Action.descrambleWords command).alone.run _ _) = _
  unfold Action.descrambleWords
  rw [if_neg hWord]
  rfl

/-- Without words, `dspass` takes two lines of input. -/
private theorem limits_dspass_lines (hVerb : command.verb = "dspass") (hWord : command.arg 1 = "")
    (scrambled key : String) :
    Limits command [.ok (some scrambled), .ok (some key)] (Password.isTooLong scrambled)
      .scrambledPasswordTooLong
      (Action.keyWarning key ++ ["Unscrambled form is:" ++ descramble scrambled key]) := by
  refine limits_of_run .descramble (by rw [hVerb]; exact handler?_dspass) ?_
  intro σ others more s
  rw [← Action.alone_descramblePassword]
  show summaryOf ((Action.descrambleWords command).alone.run _ _) = _
  unfold Action.descrambleWords
  rw [if_pos hWord]
  rfl

variable (password key : String)

/-- On two lines, a scrambled form is limited as the password is, and read back. -/
private theorem limits_dspass_lines_of_scramble (hVerb : command.verb = "dspass")
    (hWord : command.arg 1 = "") :
    Limits command [.ok (some (scramble password key)), .ok (some key)]
      (Password.isTooLong password) .scrambledPasswordTooLong
      (Action.keyWarning key ++ ["Unscrambled form is:" ++ password]) := by
  have hLimits := limits_dspass_lines hVerb hWord (scramble password key) key
  rwa [Password.isTooLong_scramble, descramble_scramble] at hLimits

/-- In its words, too, if there is a password at all. -/
private theorem limits_dspass_words_of_scramble (hPassword : password ≠ "") :
    Limits (.ofWords ["dspass", scramble password key, key]) [] (Password.isTooLong password)
      .scrambledPasswordTooLong
      (Action.keyWarning key ++ ["Unscrambled form is:" ++ password]) := by
  have hWord : scramble password key ≠ "" :=
    fun hEmpty => hPassword ((scramble_eq_empty_iff password key).mp hEmpty)
  have hLimits := @limits_dspass_words (.ofWords ["dspass", scramble password key, key]) rfl hWord
  have hScrambled : (Command.ofWords ["dspass", scramble password key, key]).arg 1
      = scramble password key := rfl
  have hKey : (Command.ofWords ["dspass", scramble password key, key]).arg 2 = key := rfl
  rwa [hScrambled, hKey, Password.isTooLong_scramble, descramble_scramble] at hLimits

end Limits

/-- A scrambled form is announced by a line of its own. -/
private theorem eq_of_mem_announced {key scrambled shown : String}
    (hShown : "Scrambled form is:" ++ shown
      ∈ Action.keyWarning key ++ ["Scrambled form is:" ++ scrambled]) : shown = scrambled := by
  rcases List.mem_append.mp hShown with hWarning | hOwn
  · unfold Action.keyWarning at hWarning
    split at hWarning
    · have hSame := congrArg (fun text => text.toList.head?) (List.mem_singleton.mp hWarning)
      simp only [String.toList_append] at hSame
      exact absurd (show some 'S' = some 'W' from hSame) (by decide)
    · cases hWarning
  · exact (String.append_right_inj _).mp (List.mem_singleton.mp hOwn)

/-- `spass` refuses a password of more than 48 bytes and no other, and what it would have shown
for such a password `dspass` refuses, too.  Of every other password it shows a scrambled form, and
from each form that it shows under a key, `dspass` gets the password back under this key, from two
lines of input and, if the password is not empty, from its words. -/
theorem dspass_reads_spass (password key : String) :
    let spass := Command.ofWords ["spass", password, key]
    ((∃ output e, Converses spass [] output (.error e)) ↔ 48 < password.utf8ByteSize) ∧
    (48 < password.utf8ByteSize →
      Converses spass [] [] (.error (.invalidArgument .passwordTooLong)) ∧
      Converses (.ofWords ["dspass", scramble password key, key]) [] []
        (.error (.invalidArgument .scrambledPasswordTooLong)) ∧
      ∀ dspass : Command, dspass.verb = "dspass" → dspass.arg 1 = "" →
        Converses dspass [.ok (some (scramble password key)), .ok (some key)] []
          (.error (.invalidArgument .scrambledPasswordTooLong))) ∧
    (password.utf8ByteSize ≤ 48 →
      ∃ output shown, Converses spass [] output (.ok ()) ∧
        "Scrambled form is:" ++ shown ∈ output) ∧
    ∀ output shown, Converses spass [] output (.ok ()) → "Scrambled form is:" ++ shown ∈ output →
      (∀ dspass : Command, dspass.verb = "dspass" → dspass.arg 1 = "" →
        Converses dspass [.ok (some shown), .ok (some key)]
          (Action.keyWarning key ++ ["Unscrambled form is:" ++ password]) (.ok ())) ∧
      (password ≠ "" →
        Converses (.ofWords ["dspass", shown, key]) []
          (Action.keyWarning key ++ ["Unscrambled form is:" ++ password]) (.ok ())) := by
  intro spass
  have hSpass : Limits spass [] (Password.isTooLong password) .passwordTooLong
      (Action.keyWarning key ++ ["Scrambled form is:" ++ scramble password key]) :=
    limits_spass rfl
  have hLong : Password.isTooLong password = true ↔ 48 < password.utf8ByteSize :=
    Password.isTooLong_iff password
  refine ⟨hSpass.refused_iff.trans hLong, ?_, ?_, ?_⟩
  · intro hBytes
    have hTooLong := hLong.mpr hBytes
    have hPassword : password ≠ "" := by
      rintro rfl
      exact absurd hBytes (by decide)
    refine ⟨hSpass.refuses hTooLong, ?_, fun dspass hVerb hWord => ?_⟩
    · exact (limits_dspass_words_of_scramble password key hPassword).refuses hTooLong
    · exact (limits_dspass_lines_of_scramble password key hVerb hWord).refuses hTooLong
  · intro hBytes
    have hFits : Password.isTooLong password = false := by
      rw [Bool.eq_false_iff, Ne, hLong]
      exact Nat.not_lt.mpr hBytes
    refine ⟨_, scramble password key, hSpass.prints hFits, ?_⟩
    exact List.mem_append_right _ List.mem_cons_self
  · intro output shown hAccepted hShown
    obtain ⟨hFits, rfl⟩ := hSpass.accepted hAccepted
    cases eq_of_mem_announced hShown
    refine ⟨fun dspass hVerb hWord => ?_, fun hPassword => ?_⟩
    · exact (limits_dspass_lines_of_scramble password key hVerb hWord).prints hFits
    · exact (limits_dspass_words_of_scramble password key hPassword).prints hFits

/-- No character of this password is on the wheel, and the first takes two bytes. -/
theorem dspass_reads_off_wheel :
    Converses (.ofWords ["spass", "ä@", "key"]) [] ["Scrambled form is:ä@"] (.ok ()) ∧
      Converses (.ofWords ["dspass"]) [.ok (some "ä@"), .ok (some "key")]
        ["Unscrambled form is:ä@"] (.ok ()) ∧
      Converses (.ofWords ["dspass", "ä@", "key"]) [] ["Unscrambled form is:ä@"] (.ok ()) := by
  have hLimits := @limits_spass (.ofWords ["spass", "ä@", "key"]) rfl
  have hShown : Action.keyWarning "key" ++ ["Scrambled form is:" ++ scramble "ä@" "key"]
      = ["Scrambled form is:ä@"] := by decide
  have hSpass : Converses (.ofWords ["spass", "ä@", "key"]) [] ["Scrambled form is:ä@"]
      (.ok ()) := by
    rw [← hShown]
    exact hLimits.prints (by decide)
  obtain ⟨-, -, -, hReads⟩ := dspass_reads_spass "ä@" "key"
  obtain ⟨hLines, hWords⟩ := hReads _ "ä@" hSpass (by decide)
  exact ⟨hSpass, hLines (.ofWords ["dspass"]) rfl rfl, hWords (by decide)⟩

end CommandLine

end GridAdmin
