import GridAdmin.Proofs.Shell.Conservation
import GridAdmin.Proofs.Shell.Pages
import GridAdmin.Proofs.Shell.Verbosity

/-!
# What diagnostics and shown commands say

The balance of diagnostics and the comparison of a very verbose session with a quiet one
speak of lines as data: a level and a message, the words of a command, the text of a query.
Whoever sits at the terminal sees texts.  So both results are carried over to texts here, and
the texts are spelled out.

Diagnostics are printed beside the output and added lines on it.  A stream holds nothing but
the texts of its own lines, which is why the two can be told apart on the terminal.

## Main definitions

* `Shell.diagnosticTexts`: the diagnostics on the terminal, as they read.
* `Shell.addedTexts`: what a very verbose session adds to the output of a command.

## Main results

* `Shell.printedOn_drain`: a drain prints the lines of the error stack, beside the output.
* `Shell.diagnosticTexts_session`: the diagnostics of a whole run, as they read.
* `Shell.printedOn_setVeryVerbose`: the output of a command with the switch on and off.
-/

namespace GridAdmin

namespace Shell

/-! ## Diagnostics -/

/-- The diagnostics among what was printed, as they read. -/
def diagnosticTexts (events : List Event) : List String :=
  events.filterMap fun event => match event.query with
    | .print (.diagnostic level message) => some (Line.diagnostic level message).text
    | _ => none

section Diagnostics

variable {events : List Event} {before after : ErrorStack}

theorem diagnosticTexts_eq :
    diagnosticTexts events = (printedIn events).map fun (level, message) => message.line level := by
  unfold diagnosticTexts printedIn
  rw [List.map_filterMap]
  refine List.filterMap_congr fun event hEvent => ?_
  obtain ⟨query, answer⟩ := event
  cases query with
  | print line => cases line <;> rfl
  | _ => rfl

/-- What one drain numbers reads like the printed form of the stack. -/
private theorem map_line_numbered (stack : ErrorStack) :
    ((numbered stack).map fun (level, message) => message.line level)
      = diagnosticLines 0 stack := by
  rw [diagnosticLines_eq_mapIdx, numbered, List.mapIdx_eq_zipIdx_map, List.mapIdx_eq_zipIdx_map,
    List.map_map]
  refine List.map_congr_left fun numbered hMem => ?_
  simp only [Function.comp_apply, Nat.zero_add]

/-- The balance of diagnostics, as it reads on the terminal: what stands there are the printed
forms of the drained stacks, one behind the other. -/
theorem Conserves.exists_diagnosticTexts_eq (hConserves : Conserves before events after) :
    ∃ drains : List ErrorStack,
      diagnosticTexts events = drains.flatMap (diagnosticLines 0) ∧
        drains.flatten ++ after = before ++ pushedIn events := by
  obtain ⟨drains, hPrinted, hLeft⟩ := hConserves
  refine ⟨drains, ?_, hLeft⟩
  rw [diagnosticTexts_eq, hPrinted, List.map_flatMap]
  exact congrArg drains.flatMap (funext map_line_numbered)

/-- What a whole run tells of diagnostics, down to the words.  In front of the end of the session
stand the printed forms of the drained stacks, and these stacks together are what was there at
first and all that came. -/
theorem diagnosticTexts_session {fuel : Nat} {command : Command} {context : Context}
    {state : State} :
    Ensures (CommandLine.session fuel command) context state fun events last =>
      ∀ status after, last = some (status, after) → ∃ (drains : List ErrorStack) (body : List Event)
          (exchange : Exchange .disconnect),
        events = body ++ [⟨Query.call .disconnect, exchange⟩] ∧
          diagnosticTexts events = drains.flatMap (diagnosticLines 0) ∧
          drains.flatten = state.stack ++ pushedIn body := by
  refine conserves_session.mono fun events last hSession status after hLast => ?_
  obtain ⟨body, exchange, hEvents, hConserves, -⟩ := hSession status after hLast
  obtain ⟨drains, hTexts, hLeft⟩ := hConserves.exists_diagnosticTexts_eq
  refine ⟨drains, body, exchange, hEvents, ?_, ?_⟩
  · rw [hEvents, diagnosticTexts, List.filterMap_append, ← diagnosticTexts, hTexts]
    exact List.append_nil _
  · rw [← hLeft, List.append_nil]

/-- A drain prints the lines of the error stack beside the output, and nothing on it. -/
theorem printedOn_drain {context : Context} {state : State} :
    Ensures drain context state fun events last =>
      printedOn .err events = diagnosticLines 0 state.stack ∧ printedOn .out events = [] ∧
        last = some ((), { state with stack := [] }) := by
  refine ensures_drain.mpr ⟨?_, printedOn_stackLines 0 state.stack, rfl⟩
  rw [← map_text_stackLines]
  refine printedOn_shown fun line hLine => ?_
  obtain ⟨level, message, rfl⟩ := eq_diagnostic_of_mem_stackLines hLine
  rfl

end Diagnostics

/-! ## Added lines -/

/-- What a very verbose session adds to the output of a command: the words of the command, and
for an `ls` that selects a replica its query. -/
def addedTexts (command : Command) : List String :=
  if command.verb = "" then []
  else ("executing command: " ++ " ".intercalate command.words) ::
    if command.verb = "ls" then
      match command.selection 5 with
      | .ok (object, replica) => ["query:[" ++ Replica.query object replica ++ "]"]
      | .error _ => []
    else []

private theorem map_text_verboseLines (command : Command) :
    (verboseLines command).map Line.text = addedTexts command := by
  unfold verboseLines addedTexts queryLines
  by_cases hVerb : command.verb = ""
  · rw [if_pos hVerb, if_pos hVerb]
    rfl
  by_cases hList : command.verb = "ls"
  · rw [if_neg hVerb, if_neg hVerb, if_pos hList, if_pos hList]
    cases command.selection 5 <;> rfl
  · rw [if_neg hVerb, if_neg hVerb, if_neg hList, if_neg hList]
    rfl

/-- The output of a command in a very verbose session is its output in a quiet one behind the
added texts, and beside the output the two sessions print the same. -/
theorem printedOn_setVeryVerbose {σ : Type} (peers : Peers σ) (context : Context) (state : State)
    (command : Command) (s : σ) :
    let quiet := (toProc (dispatch command) (context.setVeryVerbose false) state).run
      peers.handler s
    let verbose := (toProc (dispatch command) (context.setVeryVerbose true) state).run
      peers.handler s
    printedOn .out verbose.events = addedTexts command ++ printedOn .out quiet.events ∧
      printedOn .err verbose.events = printedOn .err quiet.events := by
  intro quiet verbose
  have hEvents : verbose.events = shown (verboseLines command) ++ quiet.events :=
    congrArg Proc.Run.events (run_dispatch_setVeryVerbose peers s)
  have hOut : ∀ line ∈ verboseLines command, line.stream = .out := fun line hLine =>
    of_decide_eq_true (List.all_eq_true.mp (stream_verboseLines command) line hLine)
  have hErr : ∀ line ∈ verboseLines command, line.stream ≠ .err := fun line hLine => by
    rw [hOut line hLine]
    decide
  rw [hEvents, printedOn_append, printedOn_append, printedOn_shown hOut,
    printedOn_shown_of_ne hErr, map_text_verboseLines]
  exact ⟨rfl, rfl⟩

end Shell

end GridAdmin
