import GridAdmin.Proofs.Shell.Handlers

/-!
# Dispatched commands and sessions

`DispatchTrace` says all that dispatching a command can do: it has one case for
each way through `dispatch`, and each case says which events there are and what
is left behind.  Together with the phases of a handler it answers every
question about a single command.

A session is a list of dispatched commands, each from the state that the one
before it left behind.  The commands are arbitrary, and so are the answers of the
terminal and of the service, so a property of all sessions holds for every
terminal and every service.

## Main results

* `dispatchTrace_of_trace`: the ways through `dispatch`.
* `DispatchTrace.of_handler`: what a verb with a known handler does.
* `DispatchTrace.call_split`: in front of a call stand the events that allow it.
* `session_dispatchAll`: commands that run one after the other are a session.
* `Session.between`: what holds of every dispatch, along a session.
* `Session.learnsZone`: the remembered zone along a session.
-/

namespace GridAdmin

theorem Verb.handler?_empty : Verb.handler? "" = none := by
  decide +kernel

namespace Shell

variable {context : Context} {state : State} {command : Command} {events : List Event}
  {ended? : Option (Outcome × State)}

/-! ## One command -/

/-- The command as it is shown in a session that is very verbose. -/
def echoed (settings : Settings) (command : Command) : List Event :=
  if settings.veryVerbose then shown [.echo command.words] else []

/-- The line that reports an error. -/
def failureLine (e : ShellError) : Line :=
  if e = .notFound then .out e.message else .commandFailed e

/-- What becomes of a command that ended in an error. -/
def failureOutcome (e : ShellError) : Outcome :=
  if e.isLocal then .invalid else .handled

/-- All ways through `dispatch`. -/
inductive DispatchTrace (context : Context) (state : State) (command : Command) :
    List Event → Option (Outcome × State) → Prop where
  | empty (hVerb : command.verb = "") :
      DispatchTrace context state command [] (some (.empty, state))
  | unknown (hVerb : command.verb ≠ "") (hHandler : Verb.handler? command.verb = none) :
      DispatchTrace context state command
        (echoed context.settings command
          ++ shown [.note "unrecognized command, try 'help'"])
        (some (.invalid, { state with lastStatus := .invalidInput }))
  | quit (hVerb : command.verb ≠ "") (hHandler : Verb.handler? command.verb = some .quit) :
      DispatchTrace context state command (echoed context.settings command)
        (some (.quit, state))
  | finished {handler : Handler} {body : List Event} {after : State}
      (hVerb : command.verb ≠ "") (hHandler : Verb.handler? command.verb = some handler)
      (hQuit : handler ≠ .quit)
      (hBody : Proc.Trace (toProc (Action.handle handler command).run context
        { state with lastStatus := .success }) body (some (.ok (), after))) :
      DispatchTrace context state command (echoed context.settings command ++ body)
        (some (.handled, after))
  | failed {handler : Handler} {body : List Event} {e : ShellError} {after : State}
      (hVerb : command.verb ≠ "") (hHandler : Verb.handler? command.verb = some handler)
      (hQuit : handler ≠ .quit)
      (hBody : Proc.Trace (toProc (Action.handle handler command).run context
        { state with lastStatus := .success }) body (some (.error e, after))) :
      DispatchTrace context state command
        (echoed context.settings command ++ body ++ shown [failureLine e])
        (some (failureOutcome e, { after with lastStatus := e.status }))
  | exhausted {handler : Handler} {body : List Event}
      (hVerb : command.verb ≠ "") (hHandler : Verb.handler? command.verb = some handler)
      (hQuit : handler ≠ .quit)
      (hBody : Proc.Trace (toProc (Action.handle handler command).run context
        { state with lastStatus := .success }) body none) :
      DispatchTrace context state command (echoed context.settings command ++ body) none

theorem ensures_fail {e : ShellError} {post : List Event → Option (Outcome × State) → Prop}
    (hPost : post (shown [failureLine e])
      (some (failureOutcome e, { state with lastStatus := e.status }))) :
    Ensures (fail e) context state post := by
  unfold fail
  by_cases hFound : e = .notFound
  · subst hFound
    simpa [failureLine, failureOutcome, ShellError.isLocal, ShellError.status] using hPost
  · simpa [failureLine, failureOutcome, hFound] using hPost

theorem ensures_runHandler {handler : Handler} (hVerb : command.verb ≠ "")
    (hHandler : Verb.handler? command.verb = some handler) (hQuit : handler ≠ .quit) :
    Ensures (runHandler handler command) context state fun more end? =>
      DispatchTrace context state command (echoed context.settings command ++ more) end? := by
  unfold runHandler
  rw [ensures_bind, ensures_record]
  dsimp only
  rw [ensures_bind]
  intro body last hBody
  rcases last with _ | ⟨e | ⟨⟩, after⟩
  · exact .exhausted hVerb hHandler hQuit hBody
  · refine ensures_fail ?_
    rw [List.nil_append, ← List.append_assoc]
    exact .failed hVerb hHandler hQuit hBody
  · refine ensures_pure.mpr ?_
    rw [List.nil_append, List.append_nil]
    exact .finished hVerb hHandler hQuit hBody

/-- What is echoed stands in front of everything else. -/
theorem ensures_echo {rest : Shell Outcome}
    {post : List Event → Option (Outcome × State) → Prop}
    (hRest : Ensures rest context state fun more end? =>
      post (echoed context.settings command ++ more) end?) :
    Ensures (if context.settings.veryVerbose then (do print (.echo command.words); rest)
      else rest) context state post := by
  rw [ensures_ite]
  refine ⟨fun hVerbose => ?_, fun hVerbose => ?_⟩
  · have hEcho : echoed context.settings command = shown [.echo command.words] := if_pos hVerbose
    rw [hEcho] at hRest
    rw [ensures_bind, ensures_print]
    exact hRest
  · have hEcho : echoed context.settings command = [] := if_neg hVerbose
    rw [hEcho] at hRest
    exact hRest

/-- Dispatching a command goes one of these ways. -/
theorem ensures_dispatch :
    Ensures (dispatch command) context state (DispatchTrace context state command) := by
  unfold dispatch
  rw [ensures_ite]
  refine ⟨fun hVerb => ensures_pure.mpr (.empty hVerb), fun hVerb => ?_⟩
  rw [ensures_bind, ensures_read]
  dsimp only
  refine ensures_echo ?_
  cases hHandler : Verb.handler? command.verb with
  | none => simpa using DispatchTrace.unknown hVerb hHandler
  | some handler =>
      by_cases hQuit : handler = .quit
      · subst hQuit
        simpa using DispatchTrace.quit hVerb hHandler
      · have hRun := @ensures_runHandler context state command handler hVerb hHandler hQuit
        cases handler <;> first | exact absurd rfl hQuit | exact hRun

/-- All traces of a dispatched command go one of these ways. -/
theorem dispatchTrace_of_trace
    (hTrace : Proc.Trace (toProc (dispatch command) context state) events ended?) :
    DispatchTrace context state command events ended? :=
  ensures_dispatch events ended? hTrace

/-- And so does every run of it. -/
theorem dispatchTrace_run {σ : Type} (handler : Proc.Handler interface σ) (surroundings : σ)
    (context : Context) (state : State) (command : Command) :
    let run := (toProc (dispatch command) context state).run handler surroundings
    DispatchTrace context state command run.events run.value? :=
  dispatchTrace_of_trace (Proc.trace_run handler _ surroundings)

/-- What a dispatch prints behind the events of the handler. -/
def reportOf : Option (Except ShellError Unit × State) → List Event
  | some (.error e, _) => shown [failureLine e]
  | some (.ok (), _) | none => []

/-- How a dispatch ends when its handler has ended. -/
def endOf : Option (Except ShellError Unit × State) → Option (Outcome × State)
  | some (.error e, after) => some (failureOutcome e, { after with lastStatus := e.status })
  | some (.ok (), after) => some (.handled, after)
  | none => none

/-- What a session keeps of a command: its outcome and the status that it left behind. -/
def recorded (ended? : Option (Outcome × State)) : Option (Outcome × Status) :=
  ended?.map fun ended => (ended.1, ended.2.lastStatus)

theorem recorded_endOf_error {e : ShellError} {after : State} :
    recorded (endOf (some (.error e, after))) = some (failureOutcome e, e.status) := rfl

/-- The dispatch of a verb with a handler is the trace of that handler, between the
echo and the report. -/
theorem DispatchTrace.of_handler {handler : Handler}
    (hTrace : DispatchTrace context state command events ended?)
    (hHandler : Verb.handler? command.verb = some handler) (hQuit : handler ≠ .quit) :
    ∃ body last, Proc.Trace (toProc (Action.handle handler command).run context
        { state with lastStatus := .success }) body last ∧
      events = echoed context.settings command ++ body ++ reportOf last ∧ ended? = endOf last := by
  cases hTrace with
  | empty hVerb =>
      rw [hVerb, Verb.handler?_empty] at hHandler
      cases hHandler
  | unknown hVerb hNone =>
      rw [hNone] at hHandler
      cases hHandler
  | quit hVerb hOther =>
      rw [hOther] at hHandler
      exact absurd (Option.some.inj hHandler).symm hQuit
  | finished hVerb hOwn hOther hBody =>
      cases hOwn.symm.trans hHandler
      exact ⟨_, _, hBody, (List.append_nil _).symm, rfl⟩
  | failed hVerb hOwn hOther hBody =>
      cases hOwn.symm.trans hHandler
      exact ⟨_, _, hBody, rfl, rfl⟩
  | exhausted hVerb hOwn hOther hBody =>
      cases hOwn.symm.trans hHandler
      exact ⟨_, _, hBody, (List.append_nil _).symm, rfl⟩

theorem noCall_shown {lines : List Line} : NoCall (shown lines) :=
  asks_shown fun _ _ => nofun

theorem asks_echoed {settings : Settings} {kind : Query → Prop}
    (hPrint : ∀ line, kind (.print line)) : Asks kind (echoed settings command) := by
  unfold echoed
  split
  · exact asks_shown hPrint
  · exact asks_nil

theorem noCall_echoed {settings : Settings} : NoCall (echoed settings command) :=
  asks_echoed fun _ _ => nofun

/-- The report of a dispatch is printed. -/
theorem asks_reportOf {last : Option (Except ShellError Unit × State)} {kind : Query → Prop}
    (hPrint : ∀ line, kind (.print line)) : Asks kind (reportOf last) := by
  rcases last with _ | ⟨e | ⟨⟩, after⟩
  · exact asks_nil
  · exact asks_shown hPrint
  · exact asks_nil

theorem noCall_reportOf {last : Option (Except ShellError Unit × State)} :
    NoCall (reportOf last) :=
  asks_reportOf fun _ _ => nofun

/-- A command without any call, or the phases of its handler between the echo and the
report. -/
theorem DispatchTrace.phases (hTrace : DispatchTrace context state command events ended?) :
    NoCall events ∨ ∃ handler body lines ending,
      Verb.handler? command.verb = some handler ∧
        events = echoed context.settings command ++ body ++ shown lines ∧
        Phases context.user (handler.MayAct context.settings command)
          { state with lastStatus := .success } body ending := by
  cases hTrace with
  | empty hVerb => exact Or.inl asks_nil
  | unknown hVerb hHandler =>
      exact Or.inl (asks_append_iff.mpr ⟨noCall_echoed, noCall_shown⟩)
  | quit hVerb hHandler => exact Or.inl noCall_echoed
  | finished hVerb hHandler hQuit hBody =>
      exact Or.inr ⟨_, _, [], _, hHandler, by simp, Action.phased_handle _ _ _ hBody⟩
  | failed hVerb hHandler hQuit hBody =>
      exact Or.inr ⟨_, _, _, _, hHandler, rfl, Action.phased_handle _ _ _ hBody⟩
  | exhausted hVerb hHandler hQuit hBody =>
      exact Or.inr ⟨_, _, [], _, hHandler, by simp, Action.phased_handle _ _ _ hBody⟩

private theorem alwaysAgreed_echoed {settings : Settings} :
    AlwaysAgreed (echoed settings command) :=
  alwaysAgreed_of_asks (asks_echoed fun _ _ => nofun)

/-- A call belongs to the handler of the verb, in front of it stand the events
that allow it, and nothing was declined in the whole dispatch. -/
theorem DispatchTrace.call_split (hTrace : DispatchTrace context state command events ended?)
    {c : Call} {exchange : Exchange c} {before after : List Event}
    (hEvents : events = before ++ ⟨Query.call c, exchange⟩ :: after) :
    ∃ handler first middle, Verb.handler? command.verb = some handler ∧
      before = echoed context.settings command ++ first ++ middle ∧
      handler.MayCall context.settings command first c ∧ AlwaysAgreed events := by
  rcases hTrace.phases with hNoCall | ⟨handler, body, lines, ending, hHandler, hBody, hPhases⟩
  · have hEvent : (⟨Query.call c, exchange⟩ : Event) ∈ events := by
      rw [hEvents]
      simp
    exact absurd rfl (hNoCall _ hEvent c)
  · rw [hBody, List.append_assoc] at hEvents
    obtain ⟨inner, rfl, hInner⟩ := split_behind noCall_echoed.asks ⟨c, rfl⟩ hEvents
    obtain ⟨tail, hTail, -⟩ := split_before noCall_shown.asks ⟨c, rfl⟩ hInner
    obtain ⟨first, middle, rfl, hCall, hRemote⟩ := hPhases.call_split hTail
    refine ⟨handler, first, middle, hHandler, by rw [List.append_assoc], hCall, ?_⟩
    have hFirst : AlwaysAgreed first := by
      obtain ⟨act, hAct, -⟩ := hCall
      exact hAct.1
    have hTyped : AlwaysAgreed (middle ++ tail) := by
      refine alwaysAgreed_of_asks fun event hEvent prompt hPrompt => ?_
      have hEventRemote := hRemote event hEvent
      rw [hPrompt] at hEventRemote
      exact hEventRemote
    have hAsked : AlwaysAgreed [⟨Query.call c, exchange⟩] :=
      alwaysAgreed_of_asks (asks_singleton fun _ => nofun)
    rw [hBody, hTail, List.append_cons (first ++ middle)]
    simp only [alwaysAgreed_append_iff] at hTyped ⊢
    exact ⟨⟨alwaysAgreed_echoed, ⟨⟨hFirst, hTyped.1⟩, hAsked⟩, hTyped.2⟩, alwaysAgreed_shown⟩

/-- Over a whole dispatch the remembered zone changes only from unknown to an
answer. -/
theorem DispatchTrace.learnsZone {outcome : Outcome} {after : State}
    (hTrace : DispatchTrace context state command events (some (outcome, after))) :
    LearnsZone state events after := by
  generalize hEnd : some (outcome, after) = ended? at hTrace
  cases hTrace with
  | empty hVerb =>
      cases hEnd
      exact Or.inl rfl
  | unknown hVerb hHandler =>
      cases hEnd
      exact Or.inl rfl
  | quit hVerb hHandler =>
      cases hEnd
      exact Or.inl rfl
  | finished hVerb hHandler hQuit hBody =>
      cases hEnd
      have hLearns := (Action.phased_handle _ _ _ hBody).learnsZone rfl
      have hAll := hLearns.surround (echoed context.settings command) []
      rw [List.append_nil] at hAll
      exact hAll
  | failed hVerb hHandler hQuit hBody =>
      obtain ⟨-, rfl⟩ := Prod.mk.inj (Option.some.inj hEnd)
      have hLearns := (Action.phased_handle _ _ _ hBody).learnsZone rfl
      exact hLearns.surround _ _
  | exhausted hVerb hHandler hQuit hBody => cases hEnd

/-! ## Sessions -/

/-- A command that was dispatched: the state before it, its events, and its end,
which is missing if it ran out of fuel. -/
structure Dispatched where
  command : Command
  before : State
  events : List Event
  ended? : Option (Outcome × State)

/-- The events and the end are those of some execution of the command. -/
def Dispatched.IsTrace (context : Context) (dispatched : Dispatched) : Prop :=
  Proc.Trace (toProc (dispatch dispatched.command) context dispatched.before)
    dispatched.events dispatched.ended?

/-- Commands dispatched one after the other. -/
inductive Session (context : Context) : State → List Dispatched → Prop where
  | nil (state : State) : Session context state []
  | cut {command : Command} {state : State} {events : List Event}
      (hTrace : Proc.Trace (toProc (dispatch command) context state) events none) :
      Session context state [⟨command, state, events, none⟩]
  | cons {command : Command} {state after : State} {events : List Event} {outcome : Outcome}
      {rest : List Dispatched}
      (hTrace : Proc.Trace (toProc (dispatch command) context state) events
        (some (outcome, after)))
      (hRest : Session context after rest) :
      Session context state (⟨command, state, events, some (outcome, after)⟩ :: rest)

/-- Dispatch these commands in these surroundings, as long as there is fuel. -/
def dispatchAll {σ : Type} (handler : Proc.Handler interface σ) (context : Context) :
    List Command → State → σ → List Dispatched
  | [], _, _ => []
  | command :: rest, state, surroundings =>
      let run := (toProc (dispatch command) context state).run handler surroundings
      ⟨command, state, run.events, run.value?⟩ ::
        match run.value? with
        | none => []
        | some (_, after) => dispatchAll handler context rest after run.state

/-- Whatever the surroundings are, commands that run in them are a session. -/
theorem session_dispatchAll {σ : Type} (context : Context)
    (handler : Proc.Handler interface σ) (commands : List Command) (state : State)
    (surroundings : σ) :
    Session context state (dispatchAll handler context commands state surroundings) := by
  induction commands generalizing state surroundings with
  | nil => exact .nil state
  | cons command rest ih =>
      have hTrace := Proc.trace_run handler (toProc (dispatch command) context state) surroundings
      unfold dispatchAll
      dsimp only
      cases hValue :
        ((toProc (dispatch command) context state).run handler surroundings).value? with
      | none =>
          rw [hValue] at hTrace
          exact .cut hTrace
      | some ended =>
          rw [hValue] at hTrace
          exact .cons hTrace (ih _ _)

/-- What holds of every single trace holds all along a session. -/
theorem Session.forall_isTrace {dispatched : List Dispatched}
    (hSession : Session context state dispatched) : ∀ d ∈ dispatched, d.IsTrace context := by
  induction hSession with
  | nil state => simp
  | cut hTrace =>
      intro d hMem
      rw [List.mem_singleton.mp hMem]
      exact hTrace
  | cons hTrace hRest ih =>
      intro d hMem
      rcases List.mem_cons.mp hMem with rfl | hLater
      · exact hTrace
      · exact ih d hLater

/-- What composes and holds of every dispatch that ended holds between the beginning
of a session and any of its commands, and the session goes on from there. -/
theorem Session.between {holds : State → List Event → State → Prop}
    (hNil : ∀ state, holds state [] state)
    (hAppend : ∀ {state next after : State} {events rest : List Event},
      holds state events next → holds next rest after → holds state (events ++ rest) after)
    (hDispatch : ∀ {command : Command} {state after : State} {events : List Event}
      {outcome : Outcome}, DispatchTrace context state command events (some (outcome, after)) →
        holds state events after)
    {first rest : List Dispatched} {d : Dispatched}
    (hSession : Session context state (first ++ d :: rest)) :
    holds state (first.flatMap Dispatched.events) d.before ∧
      Session context d.before (d :: rest) := by
  induction first generalizing state with
  | nil =>
      cases hSession with
      | cut hTrace => exact ⟨hNil _, .cut hTrace⟩
      | cons hTrace hRest => exact ⟨hNil _, .cons hTrace hRest⟩
  | cons head tail ih =>
      generalize hList : head :: tail ++ d :: rest = dispatched at hSession
      cases hSession with
      | nil => cases hList
      | cut hTrace =>
          obtain ⟨-, hTail⟩ := List.cons.inj hList
          simp at hTail
      | cons hTrace hRest =>
          obtain ⟨rfl, rfl⟩ := List.cons.inj hList
          obtain ⟨hLater, hOn⟩ := ih hRest
          rw [List.flatMap_cons]
          exact ⟨hAppend (hDispatch (dispatchTrace_of_trace hTrace)) hLater, hOn⟩

/-- At any command of a session, the zone remembered is the one from the beginning,
or that was unknown and the service has named the zone in between; and the session
goes on from there. -/
theorem Session.learnsZone {first rest : List Dispatched} {d : Dispatched}
    (hSession : Session context state (first ++ d :: rest)) :
    LearnsZone state (first.flatMap Dispatched.events) d.before ∧
      Session context d.before (d :: rest) :=
  hSession.between (fun _ => Or.inl rfl) LearnsZone.append DispatchTrace.learnsZone

end Shell

end GridAdmin
