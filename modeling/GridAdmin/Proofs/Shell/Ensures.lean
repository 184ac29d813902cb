import GridAdmin.Proofs.Trace
import GridAdmin.Shell.Admin

/-!
# Conditions on steps and actions

A step of the shell is a program once the context and the state it starts from
are known.  `Ensures` is the condition on all its traces: whatever the
terminal, the clock and the service answer, `post` holds of the events and of
the way the step ended.  Running out of fuel is an end too.

Each building block has one equivalence, which computes the condition on the
block from the condition on what it does.  Loops that only print have one as
well, since nothing about them is left to the surroundings.

## Main definitions

* `Shell.Ensures`, `Action.Ensures`: conditions on all traces.
* `Shell.shown`: the events of printing lines.
* `Shell.stackLines`: the lines that print an error stack.
* `Shell.Attempts`, `Shell.Sent`: the calls of an administrative request, and all about sending it.
-/

namespace GridAdmin

/-! ## Kinds of lines -/

/-- The line is neither a diagnostic of the server nor about how a command ended. -/
def Line.isPlain : Line → Bool
  | .out _ | .note _ | .echo _ | .queryText _ => true
  | .diagnostic _ _ | .adminUnanswered _ _ | .adminFailed _ _ | .malformedUserName
  | .dryRun _ _ | .updateFailed _ | .commandFailed _ => false

/-- The line is one of those that report on an administrative request. -/
def Line.isRequestReport : Line → Bool
  | .adminUnanswered _ _ | .adminFailed _ _ | .malformedUserName | .dryRun _ _ | .note _ => true
  | .out _ | .echo _ | .queryText _ | .diagnostic _ _ | .updateFailed _ | .commandFailed _ => false

namespace Shell

/-- One question of the shell with its answer. -/
abbrev Event := Proc.Event interface

/-- The events of printing lines. -/
def shown (lines : List Line) : List Event :=
  lines.map fun line => ⟨Query.print line, ()⟩

@[simp] theorem shown_nil : shown [] = [] := rfl

theorem shown_cons (line : Line) (lines : List Line) :
    shown (line :: lines) = ⟨Query.print line, ()⟩ :: shown lines := rfl

theorem shown_append (first second : List Line) :
    shown (first ++ second) = shown first ++ shown second :=
  List.map_append

/-- The lines that print diagnostics whose positions start at `level`. -/
def stackLines (level : Nat) : ErrorStack → List Line
  | [] => []
  | diagnostic :: rest => .diagnostic level diagnostic :: stackLines (level + 1) rest

theorem eq_diagnostic_of_mem_stackLines {level : Nat} {stack : ErrorStack} {line : Line}
    (hLine : line ∈ stackLines level stack) :
    ∃ position message, line = .diagnostic position message := by
  induction stack generalizing level with
  | nil => cases hLine
  | cons diagnostic rest ih =>
      rcases List.mem_cons.mp hLine with rfl | hRest
      · exact ⟨level, diagnostic, rfl⟩
      · exact ih hRest

/-- The lines of an error stack say what its printed form says. -/
theorem map_text_stackLines (level : Nat) (stack : ErrorStack) :
    (stackLines level stack).map Line.text = diagnosticLines level stack := by
  induction stack generalizing level with
  | nil => rfl
  | cons diagnostic rest ih => exact congrArg (diagnostic.line level :: ·) (ih (level + 1))

/-- The state behind a call that left these diagnostics. -/
def State.push (state : State) (diagnostics : List Diagnostic) : State :=
  { state with stack := state.stack ++ diagnostics }

theorem State.push_push (state : State) (first second : List Diagnostic) :
    (state.push first).push second = state.push (first ++ second) := by
  rw [push, push, push, List.append_assoc]

/-! ## Steps -/

/-- Whatever is answered, `post` holds of the events and the end. -/
def Ensures {α : Type} (step : Shell α) (context : Context) (state : State)
    (post : List Event → Option (α × State) → Prop) : Prop :=
  (toProc step context state).Always post

section Steps

variable {α β : Type} {context : Context} {state : State}

theorem Ensures.mono {step : Shell α} {post weaker : List Event → Option (α × State) → Prop}
    (hPost : Ensures step context state post)
    (hWeaker : ∀ events last, post events last → weaker events last) :
    Ensures step context state weaker :=
  Proc.Always.mono hPost hWeaker

@[simp] theorem ensures_pure {value : α} {post : List Event → Option (α × State) → Prop} :
    Ensures (pure value) context state post ↔ post [] (some (value, state)) :=
  Proc.always_done

@[simp] theorem ensures_bind {step : Shell α} {rest : α → Shell β}
    {post : List Event → Option (β × State) → Prop} :
    Ensures (step >>= rest) context state post
      ↔ Ensures step context state fun events last =>
          match last with
          | some (value, after) =>
              Ensures (rest value) context after fun more end? => post (events ++ more) end?
          | none => post events none := by
  refine Proc.always_bind.trans ⟨fun hPost => ?_, fun hPost => ?_⟩
  · refine Proc.Always.mono hPost fun events last hLast => ?_
    rcases last with _ | ⟨value, after⟩ <;> exact hLast
  · refine Proc.Always.mono hPost fun events last hLast => ?_
    rcases last with _ | ⟨value, after⟩ <;> exact hLast

@[simp] theorem ensures_map {step : Shell α} {f : α → β}
    {post : List Event → Option (β × State) → Prop} :
    Ensures (f <$> step) context state post
      ↔ Ensures step context state fun events last =>
          post events (last.map fun ended => (f ended.1, ended.2)) := by
  rw [map_eq_pure_bind, ensures_bind]
  constructor
  · refine fun hPost => hPost.mono fun events last hLast => ?_
    rcases last with _ | ⟨value, after⟩ <;> simpa using hLast
  · refine fun hPost => hPost.mono fun events last hLast => ?_
    rcases last with _ | ⟨value, after⟩ <;> simpa using hLast

@[simp] theorem ensures_ite {c : Prop} [Decidable c] {first second : Shell α}
    {post : List Event → Option (α × State) → Prop} :
    Ensures (if c then first else second) context state post
      ↔ (c → Ensures first context state post) ∧ (¬c → Ensures second context state post) := by
  by_cases hc : c <;> simp [hc]

@[simp] theorem ensures_ask (query : Query)
    {post : List Event → Option (query.Answer × State) → Prop} :
    Ensures (ask query) context state post
      ↔ ∀ answer : query.Answer, post [⟨query, answer⟩] (some (answer, state)) :=
  Proc.always_ask.trans (forall_congr' fun _ => Proc.always_done)

@[simp] theorem ensures_read {post : List Event → Option (Context × State) → Prop} :
    Ensures read context state post ↔ post [] (some (context, state)) :=
  Proc.always_done

@[simp] theorem ensures_get {post : List Event → Option (State × State) → Prop} :
    Ensures get context state post ↔ post [] (some (state, state)) :=
  Proc.always_done

@[simp] theorem ensures_modify {change : State → State}
    {post : List Event → Option (PUnit × State) → Prop} :
    Ensures (modify change) context state post ↔ post [] (some (⟨⟩, change state)) :=
  Proc.always_done

@[simp] theorem ensures_outOfFuel {post : List Event → Option (α × State) → Prop} :
    Ensures outOfFuel context state post ↔ post [] none :=
  Proc.always_exhausted

@[simp] theorem ensures_print {line : Line} {post : List Event → Option (Unit × State) → Prop} :
    Ensures (print line) context state post ↔ post (shown [line]) (some ((), state)) :=
  (ensures_ask (.print line)).trans ⟨fun hPost => hPost (), fun hPost _ => hPost⟩

@[simp] theorem ensures_printLines {lines : List Line}
    {post : List Event → Option (Unit × State) → Prop} :
    Ensures (printLines lines) context state post ↔ post (shown lines) (some ((), state)) := by
  induction lines generalizing post with
  | nil => simp [printLines]
  | cons line rest ih => simp [printLines, ih, shown_cons]

@[simp] theorem ensures_printAll {texts : List String}
    {post : List Event → Option (Unit × State) → Prop} :
    Ensures (printAll texts) context state post
      ↔ post (shown (texts.map .out)) (some ((), state)) := by
  induction texts generalizing post with
  | nil => simp [printAll]
  | cons text rest ih => simp [printAll, ih, shown_cons]

theorem ensures_printDiagnostics {level : Nat} {stack : ErrorStack}
    {post : List Event → Option (Unit × State) → Prop} :
    Ensures (printDiagnostics level stack) context state post
      ↔ post (shown (stackLines level stack)) (some ((), state)) := by
  induction stack generalizing level post with
  | nil => simp [printDiagnostics, stackLines]
  | cons diagnostic rest ih => simp [printDiagnostics, stackLines, ih, shown_cons]

/-- Draining prints the error stack from level zero on and empties it. -/
@[simp] theorem ensures_drain {post : List Event → Option (Unit × State) → Prop} :
    Ensures drain context state post
      ↔ post (shown (stackLines 0 state.stack)) (some ((), { state with stack := [] })) := by
  simp [drain, ensures_printDiagnostics]

@[simp] theorem ensures_record {status : Status}
    {post : List Event → Option (Unit × State) → Prop} :
    Ensures (record status) context state post
      ↔ post [] (some ((), { state with lastStatus := status })) := by
  simp [record]

/-- A call leaves its diagnostics on the stack, however it ends. -/
@[simp] theorem ensures_call {c : Call}
    {post : List Event → Option (Except ClientError c.Reply × State) → Prop} :
    Ensures (call c) context state post
      ↔ ∀ exchange : Exchange c,
          post [⟨Query.call c, exchange⟩]
            (some (exchange.result, state.push exchange.pushed)) := by
  unfold call
  rw [ensures_bind]
  refine (ensures_ask (.call c)).trans ?_
  simp [State.push]

end Steps

/-! ## Administrative requests -/

/-- The status that a request ends with. -/
def sentStatus : Except ClientError Status → Status
  | .ok status => status
  | .error e => e.status

/-- The lines that are printed about a request, before the error stack. -/
def sentLines (route : AdminRoute) (request : AdminRequest) (options : SendOptions)
    (result : Except ClientError Status) : List Line :=
  match result with
  | .ok status => reportLines route request status options
  | .error e => .adminUnanswered route e :: reportLines route request e.status options

theorem all_reportLines {route : AdminRoute} {request : AdminRequest} {status : Status}
    {options : SendOptions} :
    (reportLines route request status options).all Line.isRequestReport = true := by
  unfold reportLines
  split
  · rfl
  · split
    · rfl
    · split
      · split <;> rfl
      · rfl

theorem all_sentLines {route : AdminRoute} {request : AdminRequest} {options : SendOptions}
    {result : Except ClientError Status} :
    (sentLines route request options result).all Line.isRequestReport = true := by
  cases result with
  | ok status => exact all_reportLines
  | error e => exact all_reportLines

/-- The calls that a request goes through, what they push, and how the last of them ends.
The request stands in both calls as it is, and there is a second call exactly if the first
one is refused outright and the options allow it. -/
inductive Attempts (request : AdminRequest) (options : SendOptions) :
    List Event → List Diagnostic → AdminRoute → Except ClientError Status → Prop where
  | once (exchange : Exchange (.generalAdmin request))
      (hOnce : ¬(options.fallback = true ∧ exchange.result = .ok .noApiPrivilege)) :
      Attempts request options [⟨Query.call (.generalAdmin request), exchange⟩]
        exchange.pushed .general exchange.result
  | again (pushed : List Diagnostic) (exchange : Exchange (.userAdmin request))
      (hFallback : options.fallback = true) :
      Attempts request options
        [⟨Query.call (.generalAdmin request), ⟨pushed, .ok .noApiPrivilege⟩⟩,
          ⟨Query.call (.userAdmin request), exchange⟩]
        (pushed ++ exchange.pushed) .generalThenUser exchange.result

/-- All ways in which a request is sent: the events, the status that it ends with,
and the state that is left behind.  The request stands in both calls as it is, and
the error stack is printed behind the report of the last of them. -/
inductive Sent (request : AdminRequest) (options : SendOptions) (state : State) :
    List Event → Status → State → Prop where
  | once (exchange : Exchange (.generalAdmin request))
      (hOnce : ¬(options.fallback = true ∧ exchange.result = .ok .noApiPrivilege)) :
      Sent request options state
        (⟨Query.call (.generalAdmin request), exchange⟩
          :: shown (sentLines .general request options exchange.result
            ++ stackLines 0 (state.push exchange.pushed).stack))
        (sentStatus exchange.result)
        { state with lastStatus := sentStatus exchange.result, stack := [] }
  | again (pushed : List Diagnostic) (exchange : Exchange (.userAdmin request))
      (hFallback : options.fallback = true) :
      Sent request options state
        (⟨Query.call (.generalAdmin request), ⟨pushed, .ok .noApiPrivilege⟩⟩
          :: ⟨Query.call (.userAdmin request), exchange⟩
          :: shown (sentLines .generalThenUser request options exchange.result
            ++ stackLines 0 ((state.push pushed).push exchange.pushed).stack))
        (sentStatus exchange.result)
        { state with lastStatus := sentStatus exchange.result, stack := [] }

section Requests

variable {context : Context} {state : State} {request : AdminRequest} {options : SendOptions}

theorem ensures_route
    {post : List Event → Option ((AdminRoute × Except ClientError Status) × State) → Prop} :
    Ensures (route request options) context state post
      ↔ ∀ calls pushed way result, Attempts request options calls pushed way result →
          post calls (some ((way, result), state.push pushed)) := by
  unfold route
  rw [ensures_bind, ensures_call]
  constructor
  · intro hPost calls pushed way result hAttempts
    cases hAttempts with
    | once exchange hOnce =>
        have hEnd := hPost exchange
        rcases exchange with ⟨pushed, e | status⟩
        · simpa using hEnd
        · have hRetry : ¬(options.fallback = true ∧ status = .noApiPrivilege) := by
            simpa using hOnce
          simpa [hRetry] using hEnd
    | again pushed exchange hFallback =>
        have hEnd := hPost ⟨pushed, .ok .noApiPrivilege⟩
        simp only [hFallback, and_self, if_true] at hEnd
        rw [ensures_bind, ensures_call] at hEnd
        simpa [State.push_push] using hEnd exchange
  · rintro hPost ⟨pushed, e | status⟩
    · simpa using hPost _ _ _ _ (.once ⟨pushed, .error e⟩ (by simp))
    · by_cases hRetry : options.fallback = true ∧ status = .noApiPrivilege
      · obtain ⟨hFallback, rfl⟩ := hRetry
        simp only [hFallback, and_self, if_true]
        rw [ensures_bind, ensures_call]
        intro exchange
        simpa [State.push_push] using hPost _ _ _ _ (.again pushed exchange hFallback)
      · simpa [hRetry] using hPost _ _ _ _ (.once ⟨pushed, .ok status⟩ (by simpa using hRetry))

/-- Behind its calls a request is reported on, and then the error stack is printed and emptied,
however the last call ended. -/
theorem ensures_send {post : List Event → Option (Status × State) → Prop} :
    Ensures (send request options) context state post
      ↔ ∀ calls pushed way result,
          Attempts (options.apply request) options calls pushed way result →
            post (calls ++ shown (sentLines way (options.apply request) options result
                ++ stackLines 0 (state.push pushed).stack))
              (some (sentStatus result, { state with stack := [] })) := by
  unfold send
  rw [ensures_bind, ensures_route]
  refine forall_congr' fun calls => forall_congr' fun pushed => forall_congr' fun way =>
    forall_congr' fun result => imp_congr_right fun hAttempts => ?_
  cases result with
  | ok status => simp [sentLines, sentStatus, shown_append, State.push]
  | error e => simp [sentLines, sentStatus, shown_cons, shown_append, State.push]

/-- A request is sent once, or a second time through the user call. -/
theorem ensures_invoke {post : List Event → Option (Status × State) → Prop}
    (hPost : ∀ events status after, Sent (options.apply request) options state events status after →
      post events (some (status, after))) :
    Ensures (invoke request options) context state post := by
  unfold invoke
  rw [ensures_bind, ensures_send]
  intro calls pushed way result hAttempts
  cases hAttempts with
  | once exchange hOnce =>
      simpa using hPost _ _ _ (.once exchange hOnce)
  | again pushed exchange hFallback =>
      simpa [State.push_push] using hPost _ _ _ (.again pushed exchange hFallback)

end Requests

end Shell

/-! ## Actions -/

namespace Action

open Shell (Event Context State)

/-- Whatever is answered, `post` holds of the events and the end. -/
def Ensures {α : Type} (action : Action α) (context : Context) (state : State)
    (post : List Event → Option (Except ShellError α × State) → Prop) : Prop :=
  Shell.Ensures action.run context state post

variable {α β : Type} {context : Context} {state : State}

theorem Ensures.mono {action : Action α}
    {post weaker : List Event → Option (Except ShellError α × State) → Prop}
    (hPost : action.Ensures context state post)
    (hWeaker : ∀ events last, post events last → weaker events last) :
    action.Ensures context state weaker :=
  Proc.Always.mono hPost hWeaker

@[simp] theorem ensures_pure {value : α}
    {post : List Event → Option (Except ShellError α × State) → Prop} :
    Ensures (pure value) context state post ↔ post [] (some (.ok value, state)) :=
  Proc.always_done

/-- An error ends the whole action; otherwise the rest starts from the state
that the first part left behind. -/
@[simp] theorem ensures_bind {action : Action α} {rest : α → Action β}
    {post : List Event → Option (Except ShellError β × State) → Prop} :
    Ensures (action >>= rest) context state post
      ↔ action.Ensures context state fun events last =>
          match last with
          | some (.ok value, after) =>
              (rest value).Ensures context after fun more end? => post (events ++ more) end?
          | some (.error e, after) => post events (some (.error e, after))
          | none => post events none := by
  refine (@Shell.ensures_bind _ _ context state action.run _ post).trans
    ⟨fun hPost => ?_, fun hPost => ?_⟩
  · refine Proc.Always.mono hPost fun events last hLast => ?_
    rcases last with _ | ⟨_ | _, after⟩
    · exact hLast
    · simpa using Proc.always_done.mp hLast
    · exact hLast
  · refine Proc.Always.mono hPost fun events last hLast => ?_
    rcases last with _ | ⟨_ | _, after⟩
    · exact hLast
    · exact Proc.always_done.mpr (by simpa using hLast)
    · exact hLast

@[simp] theorem ensures_map {action : Action α} {f : α → β}
    {post : List Event → Option (Except ShellError β × State) → Prop} :
    Ensures (f <$> action) context state post
      ↔ action.Ensures context state fun events last =>
          post events (last.map fun ended => (ended.1.map f, ended.2)) := by
  rw [map_eq_pure_bind, ensures_bind]
  constructor
  · refine fun hPost => hPost.mono fun events last hLast => ?_
    rcases last with _ | ⟨_ | _, after⟩ <;> simpa [Except.map] using hLast
  · refine fun hPost => hPost.mono fun events last hLast => ?_
    rcases last with _ | ⟨_ | _, after⟩ <;> simpa [Except.map] using hLast

@[simp] theorem ensures_ite {c : Prop} [Decidable c] {first second : Action α}
    {post : List Event → Option (Except ShellError α × State) → Prop} :
    Ensures (if c then first else second) context state post
      ↔ (c → first.Ensures context state post) ∧ (¬c → second.Ensures context state post) := by
  by_cases hc : c <;> simp [hc]

@[simp] theorem ensures_throw {e : ShellError}
    {post : List Event → Option (Except ShellError α × State) → Prop} :
    Ensures (throw e) context state post ↔ post [] (some (.error e, state)) :=
  Proc.always_done

@[simp] theorem ensures_refuse {fault : ArgumentFault}
    {post : List Event → Option (Except ShellError α × State) → Prop} :
    Ensures (refuse fault) context state post
      ↔ post [] (some (.error (.invalidArgument fault), state)) :=
  ensures_throw

/-- A result that was found without asking anything. -/
@[simp] theorem ensures_result {result : Except ShellError α}
    {post : List Event → Option (Except ShellError α × State) → Prop} :
    Ensures (ExceptT.mk (pure result)) context state post ↔ post [] (some (result, state)) :=
  Proc.always_done

/-- A step never ends in an error. -/
@[simp] theorem ensures_lift {step : Shell α}
    {post : List Event → Option (Except ShellError α × State) → Prop} :
    Ensures (liftM step) context state post
      ↔ Shell.Ensures step context state fun events last =>
          post events (last.map fun ended => (.ok ended.1, ended.2)) := by
  rw [show Ensures (liftM step) context state post
    = Shell.Ensures (step >>= fun value => pure (Except.ok value)) context state post from rfl,
    Shell.ensures_bind]
  constructor
  · refine fun hPost => hPost.mono fun events last hLast => ?_
    rcases last with _ | ⟨value, after⟩ <;> simpa using hLast
  · refine fun hPost => hPost.mono fun events last hLast => ?_
    rcases last with _ | ⟨value, after⟩ <;> simpa using hLast

/-- A captured error is a value. -/
theorem ensures_capture {action : Action α}
    {post : List Event → Option (Except ShellError (Except ShellError α) × State) → Prop} :
    Ensures (ExceptT.lift action.run) context state post
      ↔ action.Ensures context state fun events last =>
          post events (last.map fun ended => (.ok ended.1, ended.2)) :=
  ensures_lift

@[simp] theorem ensures_read
    {post : List Event → Option (Except ShellError Context × State) → Prop} :
    Ensures read context state post ↔ post [] (some (.ok context, state)) :=
  Proc.always_done

@[simp] theorem ensures_get
    {post : List Event → Option (Except ShellError State × State) → Prop} :
    Ensures get context state post ↔ post [] (some (.ok state, state)) :=
  Proc.always_done

@[simp] theorem ensures_modify {change : State → State}
    {post : List Event → Option (Except ShellError PUnit × State) → Prop} :
    Ensures (modify change) context state post ↔ post [] (some (.ok ⟨⟩, change state)) :=
  Proc.always_done

@[simp] theorem mapError_error {ε ε' α : Type} (f : ε → ε') (e : ε) :
    (Except.error e : Except ε α).mapError f = .error (f e) := rfl

@[simp] theorem mapError_ok {ε ε' α : Type} (f : ε → ε') (value : α) :
    (Except.ok value : Except ε α).mapError f = .ok value := rfl

/-- A call without a reply ends the command. -/
@[simp] theorem ensures_call {c : Call}
    {post : List Event → Option (Except ShellError c.Reply × State) → Prop} :
    (call c).Ensures context state post
      ↔ ∀ exchange : Exchange c,
          post [⟨Shell.Query.call c, exchange⟩]
            (some (exchange.result.mapError .client, state.push exchange.pushed)) := by
  unfold call
  rw [ensures_bind, ensures_lift, Shell.ensures_call]
  refine forall_congr' fun exchange => ?_
  obtain ⟨pushed, e | reply⟩ := exchange
  · simp
  · simp

end Action

end GridAdmin
