import GridAdmin.Proofs.CommandLine.Traffic
import GridAdmin.Proofs.Shell.InputLines
import GridAdmin.Proofs.Shell.Pages
import GridAdmin.Proofs.Shell.Rounds

/-!
# Verbs without a session

Help, the two password verbs and the conversion of times run in two places: on the command
line before anything is connected, and as commands of a session.  Both run the same handlers,
but in different surroundings, and each makes an exit code of an error in its own way.

The handlers cannot tell the difference, because they stand alone: their questions depend on
the answers only, and not on settings, user or anything remembered.  Such an action is one
program, found by running it anywhere, and a dispatched command is this program with a report
of the error behind it.  The command line runs the same program over its terminal.

## Main definitions

* `Action.StandsAlone`, `Action.alone`: an action without surroundings, and its program.
* `CommandLine.standalone`: the program of a command that needs no session.
* `CommandLine.overTerminal`: such a program on the terminal, up to the exit code.

## Main results

* `Action.standsAlone_handle`: the handlers that need no session stand alone.
* `Shell.toProc_dispatch_of_standsAlone`: what dispatching adds to such a handler.
* `CommandLine.offline?_eq`: what the command line makes of it.
* `CommandLine.offline_agrees_with_session`: both agree in output, input and exit code.
-/

namespace GridAdmin

/-- The handlers of the verbs that are carried out before anything is connected. -/
def Handler.NeedsNoSession (handler : Handler) : Prop :=
  handler = .help ∨ ∃ verb, handler = .offline verb

namespace Action

/-! ## Actions that stand alone -/

/-- The action is the same program in all contexts and states, and leaves the state as it is. -/
def StandsAlone {α : Type} (action : Action α) : Prop :=
  ∃ talk : Proc Shell.interface (Except ShellError α), ∀ context state,
    Shell.toProc action.run context state = talk >>= fun result => .done (result, state)

/-- The program of an action, without the state that it leaves behind. -/
def alone {α : Type} (action : Action α) : Proc Shell.interface (Except ShellError α) :=
  Shell.toProc action.run CommandLine.offlineContext .initial >>= fun ended => .done ended.1

section StandsAlone

variable {α β : Type} {context : Shell.Context} {state : Shell.State}

/-- An action that stands alone is its program, wherever it runs. -/
theorem StandsAlone.toProc_eq {action : Action α} (hAlone : StandsAlone action) :
    Shell.toProc action.run context state
      = action.alone >>= fun result => .done (result, state) := by
  obtain ⟨talk, hTalk⟩ := hAlone
  have hProgram : action.alone = talk := by
    unfold alone
    rw [hTalk, Proc.bind_assoc_eq]
    exact Proc.bind_done talk
  rw [hProgram, hTalk]

theorem standsAlone_pure (value : α) : StandsAlone (pure value) :=
  ⟨.done (.ok value), fun _ _ => rfl⟩

theorem standsAlone_throw (e : ShellError) : StandsAlone (throw e : Action α) :=
  ⟨.done (.error e), fun _ _ => rfl⟩

theorem standsAlone_refuse (fault : ArgumentFault) : StandsAlone (refuse fault : Action α) :=
  standsAlone_throw _

theorem standsAlone_bind {action : Action α} {rest : α → Action β}
    (hAction : StandsAlone action) (hRest : ∀ value, StandsAlone (rest value)) :
    StandsAlone (action >>= rest) := by
  refine ⟨action.alone >>= fun
    | .ok value => (rest value).alone
    | .error e => .done (.error e), fun context state => ?_⟩
  have hBoth : Shell.toProc (action >>= rest).run context state
      = Shell.toProc action.run context state >>= fun ended =>
          match ended.1 with
          | .ok value => Shell.toProc (rest value).run context ended.2
          | .error e => .done (.error e, ended.2) := by
    show (Shell.toProc action.run context state >>= fun ended =>
      Shell.toProc (ExceptT.bindCont rest ended.1) context ended.2) = _
    congr 1
    funext ended
    rcases ended with ⟨_ | _, after⟩ <;> rfl
  rw [hBoth, hAction.toProc_eq, Proc.bind_assoc_eq, Proc.bind_assoc_eq]
  congr 1
  funext result
  cases result with
  | ok value => exact (hRest value).toProc_eq
  | error e => rfl

theorem standsAlone_ite {c : Prop} [Decidable c] {first second : Action α}
    (hFirst : StandsAlone first) (hSecond : StandsAlone second) :
    StandsAlone (if c then first else second) := by
  split
  · exact hFirst
  · exact hSecond

/-- What follows an `if` without an alternative follows both of its ways. -/
theorem standsAlone_when {c : Prop} [Decidable c] {body : Action α} {rest : Action β}
    (hBody : StandsAlone body) (hRest : StandsAlone rest) :
    StandsAlone (if c then (body >>= fun _ => rest) else rest) :=
  standsAlone_ite (standsAlone_bind hBody fun _ => hRest) hRest

/-- A question of the shell is the same everywhere. -/
theorem standsAlone_ask (query : Shell.Query) :
    StandsAlone (liftM (Shell.ask query) : Action query.Answer) :=
  ⟨.ask query fun answer => .done (.ok answer), fun _ _ => rfl⟩

theorem standsAlone_print (line : Line) : StandsAlone (liftM (Shell.print line) : Action Unit) :=
  standsAlone_ask (.print line)

theorem standsAlone_printAll (texts : List String) :
    StandsAlone (liftM (Shell.printAll texts) : Action Unit) := by
  induction texts with
  | nil => exact standsAlone_pure ()
  | cons text rest ih =>
      have hBoth : (liftM (Shell.printAll (text :: rest)) : Action Unit)
          = (liftM (Shell.print (.out text)) >>= fun _ => liftM (Shell.printAll rest)) := rfl
      rw [hBoth]
      exact standsAlone_bind (standsAlone_print _) fun _ => ih

theorem standsAlone_readLine (prompt : String) : StandsAlone (readLine prompt) := by
  refine standsAlone_bind (standsAlone_ask (.readLine prompt)) fun answer => ?_
  rcases answer with cause | line
  · exact standsAlone_throw _
  · exact standsAlone_pure line

/-! ## Handlers that stand alone -/

theorem standsAlone_warnOfEmptyKey (key : String) : StandsAlone (warnOfEmptyKey key) :=
  standsAlone_ite (standsAlone_print _) (standsAlone_pure ())

private theorem standsAlone_scramblePassword (password key : String) :
    StandsAlone (scramblePassword password key) :=
  standsAlone_when (standsAlone_refuse _)
    (standsAlone_bind (standsAlone_warnOfEmptyKey key) fun _ => standsAlone_print _)

private theorem standsAlone_descramblePassword (scrambled key : String) :
    StandsAlone (descramblePassword scrambled key) :=
  standsAlone_when (standsAlone_refuse _)
    (standsAlone_bind (standsAlone_warnOfEmptyKey key) fun _ => standsAlone_print _)

private theorem standsAlone_descrambleWords (command : Command) :
    StandsAlone (descrambleWords command) := by
  have hLine : StandsAlone readPlainLine :=
    standsAlone_bind (standsAlone_readLine "") fun _ => standsAlone_pure _
  exact standsAlone_ite
    (standsAlone_bind hLine fun _ => standsAlone_bind hLine fun _ =>
      standsAlone_descramblePassword _ _)
    (standsAlone_descramblePassword _ _)

private theorem standsAlone_printResult (title : String) (result : Except ArgumentFault String) :
    StandsAlone (printResult title result) := by
  cases result with
  | ok text => exact standsAlone_print _
  | error fault => exact standsAlone_refuse _

private theorem standsAlone_convertTime (command : Command) : StandsAlone (convertTime command) :=
  standsAlone_ite
    (standsAlone_bind (standsAlone_ask .clock) fun _ => standsAlone_printResult _ _)
    (standsAlone_ite (standsAlone_printResult _ _) (standsAlone_printResult _ _))

private theorem standsAlone_offline (verb : Offline) (command : Command) :
    StandsAlone (offline verb command) := by
  cases verb with
  | scramble => exact standsAlone_scramblePassword _ _
  | descramble => exact standsAlone_descrambleWords _
  | convertTime => exact standsAlone_convertTime _

/-- The handlers that need no session stand alone. -/
theorem standsAlone_handle {handler : Handler} (hHandler : handler.NeedsNoSession)
    (command : Command) : StandsAlone (handle handler command) := by
  rcases hHandler with rfl | ⟨verb, rfl⟩
  · exact standsAlone_printAll _
  · exact standsAlone_offline verb command

private theorem usesQuiet_handle {handler : Handler} (hHandler : handler.NeedsNoSession)
    (command : Command) : UsesQuiet context (handle handler command) := by
  rcases hHandler with rfl | ⟨verb, rfl⟩
  · exact uses_showAllQuiet
  · exact uses_offline

/-- A quiet action makes no call and ends, and its errors are local. -/
private theorem always_alone {action : Action Unit}
    (hQuiet : UsesQuiet CommandLine.offlineContext action) :
    action.alone.Always fun events end? =>
      Shell.NoCall events ∧ ∃ result, end? = some result ∧
        ∀ e, result = .error e → e.isLocal = true := by
  refine Proc.always_bind.mpr (Proc.Always.mono (hQuiet .initial) fun events last hPath => ?_)
  obtain ⟨hNoCall, hEnding⟩ := hPath.quiet
  rcases last with _ | ⟨e | ⟨⟩, after⟩
  · exact hEnding.elim
  · refine Proc.always_done.mpr ⟨by rwa [List.append_nil], _, rfl, ?_⟩
    rintro _ ⟨⟩
    exact hEnding.2.1
  · exact Proc.always_done.mpr ⟨by rwa [List.append_nil], _, rfl, nofun⟩

end StandsAlone

end Action

namespace Shell

/-! ## Dispatching -/

/-- What dispatching adds behind a handler that stands alone. -/
def settle (state : State) : Except ShellError Unit → Proc interface (Outcome × State)
  | .ok () => .done (.handled, { state with lastStatus := .success })
  | .error e => .ask (Query.print (failureLine e)) fun _ =>
      .done (failureOutcome e, { state with lastStatus := e.status })

section Dispatching

variable {context : Context} {state : State} {command : Command} {handler : Handler}

/-- What was not found is no local error. -/
theorem failureLine_of_isLocal {e : ShellError} (hLocal : e.isLocal = true) :
    failureLine e = .commandFailed e := by
  refine if_neg ?_
  rintro rfl
  cases hLocal

theorem toProc_fail (e : ShellError) :
    toProc (fail e) context state = settle state (.error e) := by
  unfold fail
  rw [toProc_ite]
  by_cases hFound : e = .notFound
  · subst hFound
    rfl
  · have hLine : failureLine e = .commandFailed e := if_neg hFound
    rw [if_neg hFound, settle, hLine]
    unfold failureOutcome
    cases e.isLocal <;> rfl

theorem toProc_runHandler :
    toProc (runHandler handler command) context state
      = toProc (Action.handle handler command).run context { state with lastStatus := .success }
          >>= fun ended => toProc (match ended.1 with
            | .ok () => pure .handled
            | .error e => fail e) context ended.2 := rfl

private theorem toProc_runHandler_of_standsAlone
    (hAlone : (Action.handle handler command).StandsAlone) :
    toProc (runHandler handler command) context state
      = (Action.handle handler command).alone >>= settle state := by
  rw [toProc_runHandler, hAlone.toProc_eq, Proc.bind_assoc_eq]
  congr 1
  funext result
  rcases result with e | ⟨⟩
  · exact toProc_fail e
  · rfl

/-- In a very verbose session, a line stands in front of a step. -/
theorem toProc_echo {line : Line} {rest : Shell Outcome} :
    toProc (do
        if (← read).settings.veryVerbose then print line
        rest) context state
      = if context.settings.veryVerbose then
          .ask (Query.print line) fun _ => toProc rest context state
        else toProc rest context state := by
  show toProc (if context.settings.veryVerbose = true then print line >>= fun _ => rest else rest)
    context state = _
  by_cases hVerbose : context.settings.veryVerbose = true
  · rw [if_pos hVerbose, if_pos hVerbose]
    rfl
  · rw [if_neg hVerbose, if_neg hVerbose]

/-- A handler that stands alone is dispatched as its program with the report of an error behind
it, and in a very verbose session with the echo in front. -/
theorem toProc_dispatch_of_standsAlone (hHandler : Verb.handler? command.verb = some handler)
    (hSession : handler.NeedsNoSession) :
    toProc (dispatch command) context state
      = if context.settings.veryVerbose then
          .ask (Query.print (.echo command.words)) fun _ =>
            (Action.handle handler command).alone >>= settle state
        else (Action.handle handler command).alone >>= settle state := by
  have hVerb : ¬command.verb = "" := by
    intro hEmpty
    rw [hEmpty, Verb.handler?_empty] at hHandler
    cases hHandler
  have hAlone := Action.standsAlone_handle hSession command
  rw [← toProc_runHandler_of_standsAlone hAlone, ← toProc_echo]
  unfold dispatch
  rw [if_neg hVerb, hHandler]
  rcases hSession with rfl | ⟨verb, rfl⟩ <;> rfl

end Dispatching

end Shell

namespace CommandLine

/-! ## Over the terminal -/

/-- What a verb that needs no session exits with. -/
def exitCodeOf : Except ShellError Unit → Nat
  | .ok () => 0
  | .error e => e.status.exitCode

/-- A program of the shell over the terminal, where there is no session. -/
def unconnected {α : Type} (talk : Proc Shell.interface α) : Program α :=
  talk.interpret (answerShell performNothing)

/-- Run such a verb over the terminal, and report the error that ended it. -/
def overTerminal (talk : Proc Shell.interface (Except ShellError Unit)) : Program Nat := do
  let result ← unconnected talk
  if let .error e := result then ask (.notify (.verbFailed e))
  return exitCodeOf result

/-- The program of a command that needs no session. -/
def standalone? (command : Command) : Option (Proc Shell.interface (Except ShellError Unit)) :=
  match Verb.handler? command.verb with
  | some .help => some (Action.handle .help command).alone
  | some (.offline verb) => some (Action.handle (.offline verb) command).alone
  | _ => none

section OverTerminal

variable {command : Command} {handler : Handler} {σ : Type}

theorem standalone?_of_needsNoSession (hHandler : Verb.handler? command.verb = some handler)
    (hSession : handler.NeedsNoSession) :
    standalone? command = some (Action.handle handler command).alone := by
  unfold standalone?
  rw [hHandler]
  rcases hSession with rfl | ⟨verb, rfl⟩ <;> rfl

private theorem standalone?_isSome_iff : (standalone? command).isSome = true ↔
    ∃ handler, Verb.handler? command.verb = some handler ∧ handler.NeedsNoSession := by
  constructor
  · intro hSome
    unfold standalone? at hSome
    split at hSome
    next hHelp => exact ⟨_, hHelp, Or.inl rfl⟩
    next verb hVerb => exact ⟨_, hVerb, Or.inr ⟨verb, rfl⟩⟩
    next => cases hSome
  · rintro ⟨handler, hHandler, hSession⟩
    rw [standalone?_of_needsNoSession hHandler hSession]
    rfl

theorem unconnected_bind {α β : Type} (talk : Proc Shell.interface α)
    (rest : α → Proc Shell.interface β) :
    unconnected (talk >>= rest) = unconnected talk >>= fun value => unconnected (rest value) :=
  Proc.interpret_bind _ _ _

theorem runOffline_eq {α : Type} (step : Shell α) :
    runOffline step
      = unconnected (Shell.toProc step offlineContext .initial >>= fun ended => .done ended.1) :=
  (unconnected_bind (Shell.toProc step offlineContext .initial) fun ended => .done ended.1).symm

/-- A usage text is printed, and nothing can go wrong. -/
private theorem overTerminal_help :
    overTerminal (Action.handle .help command).alone = runHelp command := by
  have hHelp : (Action.handle .help command).alone
      = Shell.toProc (Shell.help (command.arg 1)) offlineContext .initial
          >>= fun ended => .done (.ok ended.1) := Proc.bind_assoc_eq _ _ _
  unfold overTerminal runHelp
  rw [runOffline_eq, hHelp, unconnected_bind, unconnected_bind, Proc.bind_assoc_eq,
    Proc.bind_assoc_eq]
  rfl

private theorem overTerminal_offline (verb : Offline) :
    overTerminal (Action.handle (.offline verb) command).alone = runVerb verb command := by
  have hRun : runOffline (Action.offline verb command).run
      = unconnected (Action.handle (.offline verb) command).alone := runOffline_eq _
  unfold overTerminal runVerb
  rw [hRun]
  congr 1
  funext result
  rcases result with e | ⟨⟩ <;> rfl

/-- The command line runs the program of a command over the terminal. -/
theorem offline?_eq : offline? command = (standalone? command).map overTerminal := by
  unfold offline? standalone?
  cases Verb.handler? command.verb with
  | none => rfl
  | some handler =>
      cases handler with
      | help => exact congrArg some overTerminal_help.symm
      | offline verb => exact congrArg some (overTerminal_offline verb).symm
      | _ => rfl

end OverTerminal

/-! ## Accounts of a run -/

/-- What a run printed as its output, which prompts were answered how, and what it exits with,
if it ends. -/
structure Account where
  output : List String
  input : List Shell.Event
  code? : Option Nat

/-- A prompt of the shell and its answer. -/
def promptedOf (event : Shell.Event) : Option Shell.Event :=
  match event.query with
  | .readLine _ | .readSecret _ => some event
  | .print _ | .clock | .call _ => none

/-- A prompt on the terminal and what its answer is to the shell. -/
def promptedOnTerminal (event : Event) : Option Shell.Event :=
  match event with
  | ⟨.readLine prompt, raw⟩ => some ⟨Shell.Query.readLine prompt, Except.map lineOfInput raw⟩
  | ⟨.readSecret prompt, answer⟩ => some ⟨Shell.Query.readSecret prompt, answer⟩
  | ⟨.print _, _⟩ | ⟨.notify _, _⟩ | ⟨.clock, _⟩ | ⟨.isFile _, _⟩ | ⟨.fileText _, _⟩
  | ⟨.network _, _⟩ => none

/-- A line of output on the terminal. -/
def outputOnTerminal (event : Event) : Option String :=
  match event.query with
  | .print line => if line.stream = .out then some line.text else none
  | .notify _ | .readLine _ | .readSecret _ | .clock | .isFile _ | .fileText _ | .network _ => none

namespace Account

section Accounts

variable {σ α : Type}

/-- The account of shell events, with what the run exits with. -/
def ofEvents (events : List Shell.Event) (code? : Option Nat) : Account where
  output := Shell.printedOn .out events
  input := events.filterMap promptedOf
  code? := code?

/-- The account of a verb that needs no session. -/
def ofAlone (run : Proc.Run Shell.interface σ (Except ShellError Unit)) : Account :=
  ofEvents run.events (run.value?.map exitCodeOf)

/-- The account of a dispatched command: it exits with what the recorded status says. -/
def ofDispatched (run : Proc.Run Shell.interface σ (Outcome × Shell.State)) : Account :=
  ofEvents run.events (run.value?.map fun ended => ended.2.lastStatus.exitCode)

/-- The account of the program. -/
def ofProgram (run : Proc.Run interface σ Nat) : Account where
  output := run.events.filterMap outputOnTerminal
  input := run.events.filterMap promptedOnTerminal
  code? := run.value?

end Accounts

end Account

/-- What a terminal is to the shell where there is no session. -/
def consoleOf {σ : Type} (terminal : Proc.Handler interface σ) :
    Proc.Handler Shell.interface σ where
  answer query s :=
    match query with
    | .print line => terminal.answer (.print line) s
    | .readLine prompt =>
        let answered := terminal.answer (.readLine prompt) s
        (Except.map lineOfInput answered.1, answered.2)
    | .readSecret prompt => terminal.answer (.readSecret prompt) s
    | .clock => terminal.answer .clock s
    | .call call => (Session.failed (.transport call.operation "there is no session"), s)

section Runs

variable {σ α : Type}

/-- A line of the shell goes to the stream that it names. -/
private theorem output_cons_print {line : Line} {raw : List Event} {said : List Shell.Event}
    (hRest : raw.filterMap outputOnTerminal = Shell.printedOn .out said) :
    (⟨Query.print line, ()⟩ :: raw).filterMap outputOnTerminal
      = Shell.printedOn .out (⟨Shell.Query.print line, ()⟩ :: said) := by
  unfold Shell.printedOn at hRest ⊢
  by_cases hOut : line.stream = .out
  · have hRaw : outputOnTerminal ⟨Query.print line, ()⟩ = some line.text := if_pos hOut
    have hSaid : Shell.printedOf .out ⟨Shell.Query.print line, ()⟩ = some line.text := if_pos hOut
    rw [List.filterMap_cons_some hRaw, List.filterMap_cons_some hSaid, hRest]
  · have hRaw : outputOnTerminal ⟨Query.print line, ()⟩ = none := if_neg hOut
    have hSaid : Shell.printedOf .out ⟨Shell.Query.print line, ()⟩ = none := if_neg hOut
    rw [List.filterMap_cons_none hRaw, List.filterMap_cons_none hSaid, hRest]

/-- Over the terminal, a program does what it does on the console that the terminal is. -/
private theorem run_unconnected (terminal : Proc.Handler interface σ)
    (talk : Proc Shell.interface α)
    (s : σ) :
    let raw := (unconnected talk).run terminal s
    let said := talk.run (consoleOf terminal) s
    raw.value? = said.value? ∧ raw.state = said.state ∧
      raw.events.filterMap outputOnTerminal = Shell.printedOn .out said.events ∧
      raw.events.filterMap promptedOnTerminal = said.events.filterMap promptedOf := by
  induction talk generalizing s with
  | done value => exact ⟨rfl, rfl, rfl, rfl⟩
  | exhausted => exact ⟨rfl, rfl, rfl, rfl⟩
  | ask query next ih =>
      obtain ⟨hValue, hState, hOutput, hInput⟩ :=
        ih ((consoleOf terminal).answer query s).1 ((consoleOf terminal).answer query s).2
      cases query with
      | print line => exact ⟨hValue, hState, output_cons_print hOutput, hInput⟩
      | readLine prompt => exact ⟨hValue, hState, hOutput, congrArg (List.cons _) hInput⟩
      | readSecret prompt => exact ⟨hValue, hState, hOutput, congrArg (List.cons _) hInput⟩
      | clock => exact ⟨hValue, hState, hOutput, hInput⟩
      | call call => exact ⟨hValue, hState, hOutput, hInput⟩

/-- The report of an error stands beside the output. -/
private theorem ofProgram_overTerminal (terminal : Proc.Handler interface σ)
    (talk : Proc Shell.interface (Except ShellError Unit)) (s : σ) :
    Account.ofProgram ((overTerminal talk).run terminal s)
      = .ofAlone (talk.run (consoleOf terminal) s) := by
  obtain ⟨hValue, hState, hOutput, hInput⟩ := run_unconnected terminal talk s
  unfold overTerminal Account.ofProgram Account.ofAlone Account.ofEvents
  rw [Proc.run_bind, ← hValue, ← hOutput, ← hInput]
  unfold Proc.Run.andThen
  cases ((unconnected talk).run terminal s).value? with
  | none => rfl
  | some result =>
      dsimp only
      rw [List.filterMap_append, List.filterMap_append]
      rcases result with e | ⟨⟩
      all_goals
        show Account.mk (_ ++ []) (_ ++ []) _ = _
        rw [List.append_nil, List.append_nil]
        rfl

/-- A local error is reported beside the output, too. -/
private theorem account_settle (console : Proc.Handler Shell.interface σ) (state : Shell.State)
    {result : Except ShellError Unit} (hLocal : ∀ e, result = .error e → e.isLocal = true) (s : σ) :
    let run := (Shell.settle state result).run console s
    Account.ofDispatched run = ⟨[], [], some (exitCodeOf result)⟩ ∧
      Shell.callsIn run.events = [] ∧ run.value?.isSome = true := by
  rcases result with e | ⟨⟩
  · have hLine := Shell.failureLine_of_isLocal (hLocal e rfl)
    intro run
    have hRun : run = ⟨some (Shell.failureOutcome e, { state with lastStatus := e.status }),
        [⟨Shell.Query.print (Shell.failureLine e), _⟩], _⟩ := rfl
    rw [hRun, hLine]
    exact ⟨rfl, rfl, rfl⟩
  · exact ⟨rfl, rfl, rfl⟩

/-- A program without calls, dispatched as a command: its account is the one that it has alone. -/
private theorem ofDispatched_bind_settle (console : Proc.Handler Shell.interface σ)
    (state : Shell.State)
    {talk : Proc Shell.interface (Except ShellError Unit)}
    (hTalk : talk.Always fun events end? => Shell.NoCall events ∧ ∃ result, end? = some result ∧
      ∀ e, result = .error e → e.isLocal = true) (s : σ) :
    let run := (talk >>= Shell.settle state).run console s
    Account.ofDispatched run = .ofAlone (talk.run console s) ∧
      Shell.callsIn run.events = [] ∧ run.value?.isSome = true := by
  obtain ⟨hNoCall, result, hValue, hLocal⟩ := hTalk _ _ (Proc.trace_run console talk s)
  obtain ⟨hAccount, hCalls, hEnds⟩ := account_settle console state hLocal (talk.run console s).state
  obtain ⟨hOutput, hInput, hCode⟩ := Account.mk.inj hAccount
  intro run
  have hRun : run = (talk.run console s).andThen fun result =>
      (Shell.settle state result).run console (talk.run console s).state :=
    Proc.run_bind console talk _ s
  rw [Proc.Run.andThen, hValue] at hRun
  dsimp only at hRun
  rw [hRun]
  refine ⟨?_, ?_, hEnds⟩
  · unfold Account.ofDispatched Account.ofAlone Account.ofEvents
    rw [hCode, hValue, Shell.printedOn_append, List.filterMap_append, hOutput, hInput,
      List.append_nil, List.append_nil]
    rfl
  · rw [Shell.callsIn_append, Shell.callsIn_of_noCall hNoCall, hCalls]
    rfl

end Runs

/-- A verb is carried out without a session exactly if it is help or one of the offline verbs.
Then the command line runs over its terminal the program of the handler.  Dispatching the same
command in a session that is not very verbose prints, on every console and from every state, the
same output as this program, reads the same, makes no call, and ends with a status whose exit
code is the one that the program ends with. -/
theorem offline_agrees_with_session {command : Command} {context : Shell.Context}
    (hVerbose : context.settings.veryVerbose = false) (state : Shell.State) :
    ((offline? command).isSome = true ↔
      ∃ handler, Verb.handler? command.verb = some handler ∧ handler.NeedsNoSession) ∧
    ∀ program, offline? command = some program →
      ∃ talk, standalone? command = some talk ∧ program = overTerminal talk ∧
        (∀ {σ : Type} (terminal : Proc.Handler interface σ) (s : σ),
          Account.ofProgram (program.run terminal s) = .ofAlone (talk.run (consoleOf terminal) s)) ∧
        ∀ {σ : Type} (console : Proc.Handler Shell.interface σ) (s : σ),
          let run := (Shell.toProc (Shell.dispatch command) context state).run console s
          Account.ofDispatched run = .ofAlone (talk.run console s) ∧
            Shell.callsIn run.events = [] ∧ run.value?.isSome = true := by
  refine ⟨?_, fun program hProgram => ?_⟩
  · rw [offline?_eq, Option.isSome_map, standalone?_isSome_iff]
  · rw [offline?_eq, Option.map_eq_some_iff] at hProgram
    obtain ⟨talk, hTalk, rfl⟩ := hProgram
    obtain ⟨handler, hHandler, hSession⟩ := standalone?_isSome_iff.mp (Option.isSome_of_mem hTalk)
    refine ⟨talk, hTalk, rfl, fun terminal s => ofProgram_overTerminal terminal talk s,
      fun console s => ?_⟩
    cases (standalone?_of_needsNoSession hHandler hSession).symm.trans hTalk
    have hDispatch : Shell.toProc (Shell.dispatch command) context state
        = (Action.handle handler command).alone >>= Shell.settle state := by
      rw [Shell.toProc_dispatch_of_standsAlone hHandler hSession, if_neg (by simp [hVerbose])]
    intro run
    have hAlways := Action.always_alone (Action.usesQuiet_handle hSession command)
    have hBind := ofDispatched_bind_settle console state hAlways s
    rw [← hDispatch] at hBind
    exact hBind

/-- A descrambling whose key cannot be read fails in both places, behind the same two prompts. -/
theorem unread_key_agrees :
    let command := Command.ofWords ["dspass"]
    let run := (Shell.toProc (Shell.dispatch command) offlineContext .initial).run
      (Shell.withLines Rehearsal.handler)
      ([.ok (some "fe"), .error "closed"], { terminal := {}, service := {} })
    offlineContext.settings.veryVerbose = false ∧ (offline? command).isSome = true ∧
      Account.ofDispatched run = ⟨[],
        [⟨Shell.Query.readLine "", .ok (some "fe")⟩, ⟨Shell.Query.readLine "", .error "closed"⟩],
        some 4⟩ ∧
      Shell.callsIn run.events = [] := by
  intro command run
  obtain ⟨hOffline, hRuns⟩ := @offline_agrees_with_session command offlineContext
    rfl .initial
  have hSome : (offline? command).isSome = true :=
    hOffline.mpr ⟨.offline .descramble, by decide +kernel, Or.inr ⟨_, rfl⟩⟩
  obtain ⟨program, hProgram⟩ := Option.isSome_iff_exists.mp hSome
  obtain ⟨talk, hTalk, -, -, hRun⟩ := hRuns program hProgram
  have hOwn : standalone? command
      = some (Action.handle (.offline .descramble) command).alone :=
    standalone?_of_needsNoSession (by decide +kernel) (Or.inr ⟨_, rfl⟩)
  cases hOwn.symm.trans hTalk
  obtain ⟨hAccount, hCalls, -⟩ := hRun (Shell.withLines Rehearsal.handler)
    ([.ok (some "fe"), .error "closed"], { terminal := {}, service := {} })
  exact ⟨rfl, hSome, hAccount.trans rfl, hCalls⟩

end CommandLine

end GridAdmin
