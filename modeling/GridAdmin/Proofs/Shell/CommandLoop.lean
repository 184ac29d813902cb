import GridAdmin.CommandLine.Program
import GridAdmin.Proofs.Shell.Dispatched
import GridAdmin.Rehearsal

/-!
# The commands of a session and its end

The program runs a command, prompts for the next one and runs that, until there is
none left; then it prints the error stack and closes the session.  The induction over
that loop is done here, once, for any relation between the state before, the events and
the state after that composes: the balance of the error stack is one such relation, and
"the session is not closed" is another.

## Main results

* `ensures_runCommands`: what holds of every dispatch and of the prompts between them
  holds of the commands of a session.
* `trace_session_iff`: how a session ends behind its commands.
-/

namespace GridAdmin

namespace Shell

variable {context : Context} {state : State} {command : Command} {events : List Event}

/-! ## The command loop -/

/-- What composes and holds of every dispatch that ended, and of reading the next command,
holds of the whole loop. -/
private theorem ensures_loop {holds : State → List Event → State → Prop}
    (hAppend : ∀ {state next after : State} {events rest : List Event},
      holds state events next → holds next rest after → holds state (events ++ rest) after)
    (hDispatch : ∀ {command : Command} {state after : State} {events : List Event}
      {outcome : Outcome}, DispatchTrace context state command events (some (outcome, after)) →
        holds state events after)
    (hPrompt : ∀ {state : State} (answer : Except String (Option String)),
      holds state [⟨Query.readLine commandPrompt, answer⟩] state)
    {fuel : Nat} {single : Bool} :
    Ensures (loop fuel single command) context state fun events last =>
      ∀ next, last = some ((), next) → holds state events next := by
  induction fuel generalizing single command state with
  | zero =>
      unfold loop
      rw [ensures_outOfFuel]
      exact nofun
  | succ fuel ih =>
      unfold loop
      rw [ensures_bind]
      intro events ended? hTrace
      rcases ended? with _ | ⟨outcome, middle⟩
      · exact nofun
      have hFirst := hDispatch (dispatchTrace_of_trace hTrace)
      have hEnd : ∀ next, some ((), middle) = some ((), next) →
          holds state (events ++ []) next := by
        rintro next ⟨⟩
        rw [List.append_nil]
        exact hFirst
      dsimp only
      rw [ensures_ite]
      refine ⟨fun _ => ensures_pure.mpr hEnd, fun _ => ?_⟩
      rw [ensures_ite]
      refine ⟨fun _ => ensures_pure.mpr hEnd, fun _ => ?_⟩
      unfold nextCommand
      rw [ensures_bind, ensures_bind, ensures_ask]
      intro answer
      dsimp only
      rw [ensures_pure]
      refine ih.mono fun more last hMore next hNext => ?_
      exact hAppend hFirst (hAppend (hPrompt answer) (hMore next hNext))

theorem ensures_runCommands {holds : State → List Event → State → Prop}
    (hAppend : ∀ {state next after : State} {events rest : List Event},
      holds state events next → holds next rest after → holds state (events ++ rest) after)
    (hDispatch : ∀ {command : Command} {state after : State} {events : List Event}
      {outcome : Outcome}, DispatchTrace context state command events (some (outcome, after)) →
        holds state events after)
    (hPrompt : ∀ {state : State} (answer : Except String (Option String)),
      holds state [⟨Query.readLine commandPrompt, answer⟩] state)
    {fuel : Nat} {interactive : Bool} :
    Ensures (runCommands fuel command interactive) context state fun events last =>
      ∀ status after, last = some (status, after) → holds state events after := by
  unfold runCommands
  rw [ensures_bind]
  refine (ensures_loop hAppend hDispatch hPrompt).mono fun events last hEvents => ?_
  rcases last with _ | ⟨⟨⟩, next⟩
  · exact nofun
  refine ensures_bind.mpr (ensures_get.mpr (ensures_pure.mpr ?_))
  rintro status after ⟨⟩
  rw [List.append_nil, List.append_nil]
  exact hEvents next rfl

/-! ## The end of a session -/

/-- A drain prints the error stack and empties it. -/
private theorem drained_of_trace :
    Ensures drain context state fun printed last? =>
      printed = shown (stackLines 0 state.stack) ∧
        last? = some ((), { state with stack := [] }) :=
  ensures_drain.mpr ⟨rfl, rfl⟩

/-- Behind the commands the error stack is printed, and the session is closed; what comes of
that changes nothing but the error stack. -/
theorem trace_session_iff {fuel : Nat} {status : Status} {after : State} :
    Proc.Trace (toProc (CommandLine.session fuel command) context state) events
        (some (status, after))
      ↔ ∃ commands middle exchange,
          Proc.Trace (toProc (runCommands fuel command (decide (command.verb = "")))
            context state) commands (some (status, middle)) ∧
          events = commands ++ shown (stackLines 0 middle.stack)
            ++ [⟨Query.call .disconnect, exchange⟩] ∧
          after = { middle with stack := exchange.pushed } := by
  constructor
  · intro hTrace
    obtain ⟨⟨_, middle⟩, commands, rest, hCommands, hRest, rfl⟩ :=
      Proc.trace_bind_some_iff.mp hTrace
    obtain ⟨⟨⟨⟩, drained⟩, printed, last, hDrain, hLast, rfl⟩ :=
      Proc.trace_bind_some_iff.mp hRest
    obtain ⟨rfl, hDrained⟩ := drained_of_trace _ _ hDrain
    cases hDrained
    obtain ⟨exchange, _, rfl, hDone⟩ := Proc.trace_ask_iff.mp hLast
    obtain ⟨rfl, hEnd⟩ := Proc.trace_done_iff.mp hDone
    cases hEnd
    exact ⟨commands, middle, exchange, hCommands, (List.append_assoc _ _ _).symm, rfl⟩
  · rintro ⟨commands, middle, exchange, hCommands, rfl, rfl⟩
    have hDrain : Proc.Trace (toProc drain context middle)
        (shown (stackLines 0 middle.stack)) (some ((), { middle with stack := [] })) :=
      Proc.trace_of_always drained_of_trace Rehearsal.handler { terminal := {}, service := {} }
    have hClose : Proc.Trace (toProc (do let _ ← call .disconnect; return status)
        context { middle with stack := [] }) [⟨Query.call .disconnect, exchange⟩]
        (some (status, { middle with stack := exchange.pushed })) :=
      Proc.trace_ask_iff.mpr ⟨exchange, [], rfl, .done _⟩
    refine Proc.trace_bind_some_iff.mpr ⟨(status, middle), commands, _, hCommands, ?_,
      List.append_assoc _ _ _⟩
    exact Proc.trace_bind_some_iff.mpr ⟨((), _), _, _, hDrain, hClose, rfl⟩

end Shell

end GridAdmin
