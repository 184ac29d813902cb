import GridAdmin.Proofs.Shell.CommandLoop

/-!
# Conservation of diagnostics

Diagnostics come with the answers of the service and leave through the terminal, and
between the two they wait on the error stack.  The balance is an equation between
lists: what was printed, followed by what waits now, is what waited before, followed by
what was pushed.  So no diagnostic is lost or printed twice, and none overtakes
another, however the commands and the calls in between ended.

What is printed comes in drains.  Each drain prints the whole stack, and the levels
that it prints start at zero.

## Main definitions

* `Shell.pushedIn`, `Shell.printedIn`: the diagnostics that came and that left.
* `Shell.Conserves`: the balance between two error stacks.

## Main results

* `Conserves.append`: balances add up.
* `conserves_dispatch`, `conserves_runCommands`: one command, and the commands of a session.
* `diagnostics_conserved`: the balance along sessions and over a whole run.
-/

namespace GridAdmin

namespace Shell

/-! ## Diagnostics in events -/

/-- The diagnostics that a call left behind. -/
def pushedBy : Event → List Diagnostic
  | ⟨Query.call _, exchange⟩ => Exchange.pushed exchange
  | ⟨Query.print _, _⟩ | ⟨Query.readLine _, _⟩ | ⟨Query.readSecret _, _⟩ | ⟨Query.clock, _⟩ => []

/-- The diagnostics that came with the answers, in order. -/
def pushedIn (events : List Event) : List Diagnostic :=
  events.flatMap pushedBy

/-- A printed diagnostic and the level in front of it. -/
def printedBy (event : Event) : Option (Nat × Diagnostic) :=
  match event.query with
  | .print (.diagnostic level message) => some (level, message)
  | _ => none

/-- The diagnostics that were printed, in order. -/
def printedIn (events : List Event) : List (Nat × Diagnostic) :=
  events.filterMap printedBy

/-- Diagnostics with the levels that one drain prints in front of them. -/
def numbered (stack : ErrorStack) : List (Nat × Diagnostic) :=
  stack.mapIdx fun level message => (level, message)

variable {events rest : List Event}

@[simp] theorem pushedIn_append : pushedIn (events ++ rest) = pushedIn events ++ pushedIn rest :=
  List.flatMap_append

@[simp] theorem printedIn_append :
    printedIn (events ++ rest) = printedIn events ++ printedIn rest :=
  List.filterMap_append

@[simp] theorem pushedIn_call {c : Call} {exchange : Exchange c} :
    pushedIn (⟨Query.call c, exchange⟩ :: rest) = exchange.pushed ++ pushedIn rest := rfl

@[simp] theorem printedIn_call {c : Call} {exchange : Exchange c} :
    printedIn (⟨Query.call c, exchange⟩ :: rest) = printedIn rest := rfl

@[simp] theorem pushedIn_nil : pushedIn [] = [] := rfl

@[simp] theorem pushedIn_shown {lines : List Line} : pushedIn (shown lines) = [] := by
  induction lines with
  | nil => rfl
  | cons line lines ih => exact ih

/-- Lines that are no diagnostics. -/
theorem printedIn_shown {lines : List Line}
    (hLines : ∀ line ∈ lines, ∀ level message, line ≠ .diagnostic level message) :
    printedIn (shown lines) = [] := by
  refine List.filterMap_eq_nil_iff.mpr fun event hEvent => ?_
  obtain ⟨line, hLine, rfl⟩ := List.mem_map.mp hEvent
  cases line with
  | diagnostic level message => exact absurd rfl (hLines _ hLine level message)
  | _ => rfl

private theorem printedIn_stackLines_from {level : Nat} {stack : ErrorStack} :
    printedIn (shown (stackLines level stack))
      = stack.mapIdx fun index message => (level + index, message) := by
  induction stack generalizing level with
  | nil => rfl
  | cons message stack ih =>
      have hFirst : printedIn (shown (stackLines level (message :: stack)))
          = (level, message) :: printedIn (shown (stackLines (level + 1) stack)) := rfl
      rw [hFirst, ih, List.mapIdx_cons]
      simp only [Nat.add_assoc, Nat.add_comm 1, Nat.add_zero]

/-- A drain prints the levels from zero on. -/
@[simp] theorem printedIn_stackLines {stack : ErrorStack} :
    printedIn (shown (stackLines 0 stack)) = numbered stack := by
  rw [printedIn_stackLines_from]
  simp only [Nat.zero_add]
  rfl

/-! ## The balance -/

/-- The diagnostics were printed in drains, and what these drains printed, followed by
what is left on the error stack, is what was on it before, followed by what came. -/
def Conserves (before : ErrorStack) (events : List Event) (after : ErrorStack) : Prop :=
  ∃ drains : List ErrorStack, printedIn events = drains.flatMap numbered ∧
    drains.flatten ++ after = before ++ pushedIn events

variable {before middle after : ErrorStack}

/-- Without a drain everything that came is left. -/
theorem conserves_of_undrained (hPrinted : printedIn events = [])
    (hAfter : after = before ++ pushedIn events) : Conserves before events after :=
  ⟨[], hPrinted, hAfter⟩

/-- One drain prints everything. -/
theorem conserves_of_drained (hPrinted : printedIn events = numbered (before ++ pushedIn events))
    (hAfter : after = []) : Conserves before events after := by
  subst hAfter
  exact ⟨[before ++ pushedIn events], by simp [hPrinted], by simp⟩

theorem Conserves.append (hFirst : Conserves before events middle)
    (hRest : Conserves middle rest after) : Conserves before (events ++ rest) after := by
  obtain ⟨first, hFirstPrinted, hFirstLeft⟩ := hFirst
  obtain ⟨second, hSecondPrinted, hSecondLeft⟩ := hRest
  refine ⟨first ++ second, ?_, ?_⟩
  · rw [printedIn_append, List.flatMap_append, hFirstPrinted, hSecondPrinted]
  · calc (first ++ second).flatten ++ after
        = first.flatten ++ (second.flatten ++ after) := by
          rw [List.flatten_append, List.append_assoc]
      _ = (first.flatten ++ middle) ++ pushedIn rest := by
          rw [hSecondLeft, List.append_assoc]
      _ = before ++ pushedIn (events ++ rest) := by
          rw [hFirstLeft, List.append_assoc, pushedIn_append]

theorem conserves_nil : Conserves before [] before :=
  conserves_of_undrained rfl (List.append_nil before).symm

/-- Lines that are no diagnostics change nothing. -/
theorem conserves_shown {lines : List Line}
    (hLines : ∀ line ∈ lines, ∀ level message, line ≠ .diagnostic level message) :
    Conserves before (shown lines) before :=
  conserves_of_undrained (printedIn_shown hLines) (by simp)

/-! ## Requests, effects and conclusions -/

private theorem ne_diagnostic_of_isPlain {lines : List Line}
    (hPlain : ∀ line ∈ lines, line.isPlain = true) :
    ∀ line ∈ lines, ∀ level message, line ≠ .diagnostic level message := by
  rintro _ hLine level message rfl
  cases hPlain _ hLine

theorem sentLines_ne_diagnostic {route : AdminRoute} {request : AdminRequest}
    {options : SendOptions} {result : Except ClientError Status} :
    ∀ line ∈ sentLines route request options result,
      ∀ level message, line ≠ .diagnostic level message := by
  rintro _ hLine level message rfl
  cases List.all_eq_true.mp all_sentLines _ hLine

/-- Sending a request ends in one drain, behind the last of its calls. -/
private theorem Sent.conserves {request : AdminRequest} {options : SendOptions} {state next : State}
    {status : Status} (hSent : Sent request options state events status next) :
    Conserves state.stack events next.stack := by
  cases hSent with
  | once exchange hOnce =>
      refine conserves_of_drained ?_ rfl
      simp [shown_append, printedIn_shown sentLines_ne_diagnostic, State.push]
  | again pushed exchange hFallback =>
      refine conserves_of_drained ?_ rfl
      simp [shown_append, printedIn_shown sentLines_ne_diagnostic, State.push]

theorem conserves_plain {lines : List Line} (hPlain : ∀ line ∈ lines, line.isPlain = true) :
    Conserves before (shown lines) before :=
  conserves_shown (ne_diagnostic_of_isPlain hPlain)

/-- An effect that shows plain lines only keeps the balance. -/
private theorem Effect.Step.conserves {effect : Effect} {state next : State} {ending : Ending}
    (hPlain : effect.PrintsPlain) (hStep : effect.Step state events ending) (hAfter : ending.after? = some next) :
    Conserves state.stack events next.stack := by
  cases hStep with
  | print line =>
      cases hAfter
      exact conserves_plain fun other hOther => by
        rw [List.mem_singleton.mp hOther]
        exact hPlain line rfl
  | lookUp c exchange =>
      cases hAfter
      exact conserves_of_undrained rfl (by simp [State.push])
  | reject c exchange =>
      cases hAfter
      exact conserves_of_drained (by simp [State.push]) rfl
  | learnZone pushed reply state hUnknown hReply =>
      cases hAfter
      exact conserves_of_undrained rfl (by simp [State.push])
  | fail e state hRead =>
      cases hAfter
      exact conserves_nil
  | starve => cases hAfter
  | _ =>
      cases hAfter
      exact conserves_of_undrained rfl (List.append_nil _).symm

private theorem Conclusion.conserves {acts : Act → Prop} {state next : State} {ending : Ending}
    (hConclusion : Conclusion acts state events ending) (hAfter : ending.after? = some next) :
    Conserves state.stack events next.stack := by
  cases hConclusion with
  | sent hAct hSent hPlain =>
      cases hAfter
      exact hSent.conserves.append (conserves_plain hPlain)
  | updated hAct pushed =>
      cases hAfter
      exact conserves_of_undrained rfl (by simp [State.push])
  | rejected hAct pushed hStatus =>
      cases hAfter
      exact conserves_of_drained (printedIn_stackLines.trans (by simp [State.push])) rfl
  | unanswered hAct pushed e =>
      cases hAfter
      exact conserves_of_undrained rfl (by simp [State.push])

private theorem composes_conserves : Composes fun state events ending =>
    ∀ next, ending.after? = some next → Conserves state.stack events next.stack where
  nil := by
    rintro state next ⟨⟩
    exact conserves_nil
  append := fun hFirst hRest next hAfter => (hFirst _ rfl).append (hRest next hAfter)

/-- Every execution of a command keeps the balance. -/
private theorem Phases.conserves {user : UserIdentity} {acts : List Event → Act → Prop}
    {state next : State} {ending : Ending} (hPhases : Phases user acts state events ending)
    (hAfter : ending.after? = some next) : Conserves state.stack events next.stack := by
  refine hPhases.holds_of_printsPlain composes_conserves ?_ ?_ next hAfter
  · intro effect state events ending hPlain hStep next hAfter
    exact hStep.conserves hPlain hAfter
  · intro acts state events ending hConclusion next hAfter
    exact hConclusion.conserves hAfter

/-! ## Commands -/

section Commands

variable {context : Context} {state : State} {command : Command}

private theorem conserves_echoed {settings : Settings} :
    Conserves before (echoed settings command) before := by
  unfold echoed
  split
  · exact conserves_plain (by simp [Line.isPlain])
  · exact conserves_nil

private theorem conserves_failureLine {e : ShellError} :
    Conserves before (shown [failureLine e]) before := by
  refine conserves_shown fun line hLine level message => ?_
  rw [List.mem_singleton.mp hLine]
  unfold failureLine
  split <;> exact nofun

/-- A command keeps the balance, however it ended. -/
theorem conserves_dispatch {outcome : Outcome} {next : State}
    (hTrace : DispatchTrace context state command events (some (outcome, next))) :
    Conserves state.stack events next.stack := by
  generalize hEnd : some (outcome, next) = ended? at hTrace
  cases hTrace with
  | empty hVerb =>
      cases hEnd
      exact conserves_nil
  | unknown hVerb hHandler =>
      cases hEnd
      exact conserves_echoed.append (conserves_plain (by simp [Line.isPlain]))
  | quit hVerb hHandler =>
      cases hEnd
      exact conserves_echoed
  | finished hVerb hHandler hQuit hBody =>
      cases hEnd
      have hPhases := Action.phased_handle _ _ _ hBody
      exact conserves_echoed.append (hPhases.conserves rfl)
  | failed hVerb hHandler hQuit hBody =>
      obtain ⟨-, rfl⟩ := Prod.mk.inj (Option.some.inj hEnd)
      have hPhases := Action.phased_handle _ _ _ hBody
      exact (conserves_echoed.append (hPhases.conserves rfl)).append conserves_failureLine
  | exhausted hVerb hHandler hQuit hBody => cases hEnd

/-- The balance along a session, in front of each command and behind it. -/
private theorem Session.conserves {first rest : List Dispatched} {d : Dispatched}
    (hSession : Session context state (first ++ d :: rest)) :
    Conserves state.stack (first.flatMap Dispatched.events) d.before.stack ∧
      ∀ outcome after, d.ended? = some (outcome, after) →
        Conserves state.stack ((first ++ [d]).flatMap Dispatched.events) after.stack := by
  have hBetween := hSession.between (fun _ => conserves_nil) Conserves.append conserves_dispatch
  obtain ⟨hBefore, hOn⟩ := hBetween
  refine ⟨hBefore, fun outcome after hEnded => ?_⟩
  have hTrace := hOn.forall_isTrace d List.mem_cons_self
  unfold Dispatched.IsTrace at hTrace
  rw [hEnded] at hTrace
  rw [List.flatMap_append, List.flatMap_singleton]
  exact hBefore.append (conserves_dispatch (dispatchTrace_of_trace hTrace))

/-- The commands of a session keep the balance. -/
theorem conserves_runCommands {fuel : Nat} {interactive : Bool} :
    Ensures (runCommands fuel command interactive) context state fun events last =>
      ∀ status after, last = some (status, after) → Conserves state.stack events after.stack := by
  refine ensures_runCommands Conserves.append conserves_dispatch ?_
  intro state answer
  exact conserves_of_undrained rfl (List.append_nil _).symm

/-! ## Whole runs -/

/-- A drain prints the whole stack, with levels from zero on, and leaves it empty. -/
private theorem ensures_drain_numbered :
    Ensures drain context state fun events last =>
      printedIn events = numbered state.stack ∧ last = some ((), { state with stack := [] }) :=
  ensures_drain.mpr ⟨printedIn_stackLines, rfl⟩

/-- In a whole run everything that came was printed before the session is closed. -/
theorem conserves_session {fuel : Nat} :
    Ensures (CommandLine.session fuel command) context state fun events last =>
      ∀ status after, last = some (status, after) → ∃ body exchange,
        events = body ++ [⟨Query.call .disconnect, exchange⟩] ∧
          Conserves state.stack body [] ∧ after.stack = exchange.pushed := by
  rintro events _ hTrace status after rfl
  obtain ⟨commands, middle, exchange, hCommands, rfl, rfl⟩ := trace_session_iff.mp hTrace
  have hDrained : Conserves middle.stack (shown (stackLines 0 middle.stack)) [] :=
    conserves_of_drained (by simp) rfl
  refine ⟨_, exchange, rfl, ?_, rfl⟩
  exact (conserves_runCommands _ _ hCommands status middle rfl).append hDrained

end Commands

/-- Diagnostics are conserved.  At every point between the commands of a session, and
at the end of a whole run, what the drains printed and what waits on the error stack is
what the calls pushed, in the same order; and each drain prints its levels from zero
on. -/
theorem diagnostics_conserved (context : Context) :
    (∀ state first d rest, Session context state (first ++ d :: rest) →
      Conserves state.stack (first.flatMap Dispatched.events) d.before.stack ∧
        ∀ outcome after, d.ended? = some (outcome, after) →
          Conserves state.stack ((first ++ [d]).flatMap Dispatched.events) after.stack) ∧
    (∀ state, Ensures drain context state fun events last =>
      printedIn events = numbered state.stack ∧ last = some ((), { state with stack := [] })) ∧
    ∀ fuel command state, Ensures (CommandLine.session fuel command) context state
      fun events last => ∀ status after, last = some (status, after) → ∃ body exchange,
        events = body ++ [⟨Query.call .disconnect, exchange⟩] ∧
          Conserves state.stack body [] ∧ after.stack = exchange.pushed :=
  ⟨fun _ _ _ _ => Session.conserves, fun _ => ensures_drain_numbered,
    fun _ _ _ => conserves_session⟩

/-! ## A diagnostic that is printed late -/

namespace LatePrint

/-- What the server says about a page that it cannot deliver. -/
def message : Diagnostic :=
  { status := .connectError, message := "catalog connection lost" }

/-- A service that has nothing on the first page of the zones and fails on the second. -/
def surroundings : Rehearsal where
  terminal := {}
  service :=
    { simpleQuery := Script.push
        (Script.push [] "R_ZONE_MAIN" { reply := some ⟨.success, "", 1⟩ })
        "R_ZONE_MAIN" { reply := some ⟨.connectError, "", 0⟩, errors := [message] } }

def context : Context :=
  { settings := { zone := "tempZone" }, user := ⟨"rods", "tempZone"⟩, fuel := 2 }

/-- The listing fails on its second page, and what the server said stays unread. -/
def listed : Dispatched where
  command := .ofWords ["lz"]
  before := State.initial
  events :=
    [⟨.call (.simpleQuery (Listing.zonesQuery "")), ⟨[], .ok ⟨.success, "", 1⟩⟩⟩,
      ⟨.call (.simpleQuery { Listing.zonesQuery "" with control := 1 }),
        ⟨[message], .ok ⟨.connectError, "", 0⟩⟩⟩,
      ⟨.print (.commandFailed (.remoteFailure .simpleQuery .connectError)), ()⟩]
  ended? := some (.handled,
    { lastStatus := .connectError, localZone := none, stack := [message] })

/-- The next request succeeds, and the diagnostic is printed behind it. -/
def made : Dispatched where
  command := .ofWords ["mkzone", "farZone", "remote"]
  before := { lastStatus := .connectError, localZone := none, stack := [message] }
  events :=
    [⟨.call (.generalAdmin (.ofValues ["add", "zone", "farZone", "remote"])),
        ⟨[], .ok .success⟩⟩,
      ⟨.print (.diagnostic 0 message), ()⟩]
  ended? := some (.handled, { lastStatus := .success, localZone := none, stack := [] })

theorem session : Session context State.initial ([listed] ++ made :: []) := by
  have hRun : dispatchAll Rehearsal.handler context [listed.command, made.command]
      State.initial surroundings = [listed] ++ made :: [] := by
    rfl
  rw [← hRun]
  exact session_dispatchAll context Rehearsal.handler _ State.initial surroundings

end LatePrint

open LatePrint in
/-- One diagnostic came with the listing and one was printed with the request. -/
theorem conserves_of_late_print :
    Conserves [] listed.events [message] ∧ Conserves [] (listed.events ++ made.events) [] := by
  have hConserved := (diagnostics_conserved LatePrint.context).1 State.initial [listed] made []
    LatePrint.session
  exact ⟨hConserved.1, hConserved.2 _ _ rfl⟩

end Shell

end GridAdmin
