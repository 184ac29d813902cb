import GridAdmin.Proofs.Shell.InputLines
import GridAdmin.Proofs.Shell.Refusal

/-!
# The command loop as a fold

A session that is started with no command reads its commands from the same terminal
from which the commands themselves read.  This module takes the two apart.  `Rounds` is
what the loop does: one command dispatched a round, and one line read between two rounds.

The loop has no bound of its own.  What bounds it is that every round but the last reads
a line, and that the end of input stands for a command that quits.

## Main definitions

* `transcript`: the events of commands with the prompts for commands between them.
* `Rounds`: the rounds of the loop.
* `IsFold`: a session is its commands dispatched one after the other.

## Main results

* `exists_rounds`: the loop takes at most two rounds more than there are lines.
* `Rounds.run_loop`: the loop runs through its rounds.
* `Rounds.fold`: what a round does depends on no line that a command left unread.
* `runCommands_isFold`: every session is a fold.
-/

namespace GridAdmin

/-- The command ends a session. -/
def Command.Quits (command : Command) : Prop :=
  command.verb = "quit" ∨ command.verb = "q"

instance (command : Command) : Decidable command.Quits :=
  inferInstanceAs (Decidable (_ ∨ _))

/-- The command is neither empty nor one that ends a session. -/
def Command.IsProper (command : Command) : Prop :=
  command.verb ≠ "" ∧ ¬command.Quits

instance (command : Command) : Decidable command.IsProper :=
  inferInstanceAs (Decidable (_ ∧ _))

namespace Shell

/-! ## Rounds -/

/-- The prompt for a command, with its answer. -/
def prompted (answer : LineAnswer) : Event :=
  ⟨.readLine commandPrompt, answer⟩

/-- The events of commands, with the prompts for commands between them. -/
def transcript : List Dispatched → List LineAnswer → List Event
  | d :: rest, answer :: answers => d.events ++ prompted answer :: transcript rest answers
  | dispatched, _ => dispatched.flatMap Dispatched.events

theorem transcript_nil {dispatched : List Dispatched} :
    transcript dispatched [] = dispatched.flatMap Dispatched.events := by
  cases dispatched <;> rfl

/-- The session ends after this outcome. -/
def EndsSession (single : Bool) (outcome : Outcome) : Prop :=
  outcome = .quit ∨ single = true ∧ endsBatch outcome = true

instance (single : Bool) (outcome : Outcome) : Decidable (EndsSession single outcome) :=
  inferInstanceAs (Decidable (_ ∨ _))

/-- The rounds of the loop from a first command on: what is dispatched, the answers to the
prompts between, and what is left of the surroundings.  The last command ends the session,
or it runs out of fuel. -/
inductive Rounds {σ : Type} (handler : Proc.Handler interface σ) (context : Context) :
    (single : Bool) → Command → State → σ → List Dispatched → List LineAnswer → σ → Prop where
  | last {single : Bool} {command : Command} {state : State} {s final : σ}
      {events : List Event} {ended? : Option (Outcome × State)}
      (hRun : (toProc (dispatch command) context state).run handler s = ⟨ended?, events, final⟩)
      (hLast : ∀ outcome after, ended? = some (outcome, after) → EndsSession single outcome) :
      Rounds handler context single command state s [⟨command, state, events, ended?⟩] [] final
  | next {single : Bool} {command : Command} {state after : State} {s between later final : σ}
      {events : List Event} {outcome : Outcome} {answer : LineAnswer}
      {rest : List Dispatched} {answers : List LineAnswer}
      (hRun : (toProc (dispatch command) context state).run handler s
        = ⟨some (outcome, after), events, between⟩)
      (hNext : ¬EndsSession single outcome)
      (hRead : handler.answer (.readLine commandPrompt) between = (answer, later))
      (hRest : Rounds handler context false (commandOfAnswer answer) after later rest answers
        final) :
      Rounds handler context single command state s
        (⟨command, state, events, some (outcome, after)⟩ :: rest) (answer :: answers) final

section Rounds

variable {σ : Type} {handler : Proc.Handler interface σ} {context : Context} {single : Bool}
  {command : Command} {state : State} {s final : σ} {dispatched : List Dispatched}
  {answers : List LineAnswer}

theorem toProc_bind {α β : Type} {step : Shell α} {rest : α → Shell β} :
    toProc (step >>= rest) context state
      = toProc step context state >>= fun ended => toProc (rest ended.1) context ended.2 := rfl

theorem toProc_ite {α : Type} {c : Prop} [Decidable c] {first second : Shell α} :
    toProc (if c then first else second) context state
      = if c then toProc first context state else toProc second context state := by
  split <;> rfl

/-- Reading the next command is one prompt. -/
private theorem run_nextCommand_bind {α : Type} {rest : Command → Shell α} {later : σ}
    {answer : LineAnswer} (hRead : handler.answer (.readLine commandPrompt) s = (answer, later)) :
    let run := (toProc (rest (commandOfAnswer answer)) context state).run handler later
    (toProc (nextCommand >>= rest) context state).run handler s
      = ⟨run.value?, prompted answer :: run.events, run.state⟩ := by
  intro run
  have hAsked : (toProc (nextCommand >>= rest) context state).run handler s
      = let answered := handler.answer (.readLine commandPrompt) s
        let run := (toProc (rest (commandOfAnswer answered.1)) context state).run handler answered.2
        ⟨run.value?, prompted answered.1 :: run.events, run.state⟩ := rfl
  rw [hAsked, hRead]

/-- A round of the loop is a dispatch, and unless that ends the session a line is read and
the next round follows. -/
private theorem toProc_loop (fuel : Nat) :
    toProc (loop (fuel + 1) single command) context state
      = (toProc (dispatch command) context state >>= fun ended =>
          if EndsSession single ended.1 then .done ((), ended.2)
          else toProc (nextCommand >>= loop fuel false) context ended.2) := by
  unfold loop
  rw [toProc_bind]
  congr 1
  funext ended
  rw [toProc_ite, toProc_ite]
  by_cases hQuit : ended.1 = .quit
  · have hEnds : EndsSession single ended.1 := Or.inl hQuit
    rw [if_pos hQuit, if_pos hEnds]
    rfl
  · by_cases hSingle : single = true ∧ endsBatch ended.1 = true
    · have hEnds : EndsSession single ended.1 := Or.inr hSingle
      rw [if_neg hQuit, if_pos hSingle, if_pos hEnds]
      rfl
    · have hNext : ¬EndsSession single ended.1 := not_or.mpr ⟨hQuit, hSingle⟩
      rw [if_neg hQuit, if_neg hSingle, if_neg hNext]

/-- How a session ends: as its last command does. -/
def endOfSession (dispatched : List Dispatched) : Option State :=
  (dispatched.getLast?.bind Dispatched.ended?).map Prod.snd

theorem endOfSession_cons {d : Dispatched} (hMore : dispatched ≠ []) :
    endOfSession (d :: dispatched) = endOfSession dispatched := by
  rw [endOfSession, List.getLast?_cons_of_ne_nil hMore]
  rfl

theorem Rounds.ne_nil
    (hRounds : Rounds handler context single command state s dispatched answers final) :
    dispatched ≠ [] := by
  cases hRounds <;> nofun

/-- The loop runs through its rounds. -/
theorem Rounds.run_loop
    (hRounds : Rounds handler context single command state s dispatched answers final)
    {fuel : Nat} (hFuel : dispatched.length ≤ fuel) :
    (toProc (loop fuel single command) context state).run handler s
      = ⟨(endOfSession dispatched).map ((), ·), transcript dispatched answers, final⟩ := by
  induction hRounds generalizing fuel with
  | @last single command state s final events ended? hRun hLast =>
      obtain ⟨fuel, rfl⟩ : ∃ less, fuel = less + 1 := ⟨fuel - 1, by simp at hFuel; omega⟩
      rw [toProc_loop, Proc.run_bind, hRun]
      cases ended? with
      | none => simp [Proc.Run.andThen, endOfSession, transcript]
      | some ended =>
          have hEnds : EndsSession single ended.1 := hLast _ _ rfl
          simp [Proc.Run.andThen, endOfSession, transcript, hEnds]
  | @next single command state after s between later final events outcome answer rest answers
      hRun hNext hRead hRest ih =>
      obtain ⟨fuel, rfl⟩ : ∃ less, fuel = less + 1 := ⟨fuel - 1, by simp at hFuel; omega⟩
      have hLess : rest.length ≤ fuel := by simpa using hFuel
      rw [toProc_loop, Proc.run_bind, hRun]
      simp only [Proc.Run.andThen, if_neg hNext]
      rw [run_nextCommand_bind hRead, ih hLess, endOfSession_cons hRest.ne_nil]
      rfl

/-- The commands are the first one, and what the answers to the prompts stand for. -/
theorem Rounds.commands
    (hRounds : Rounds handler context single command state s dispatched answers final) :
    dispatched.map Dispatched.command = command :: answers.map commandOfAnswer := by
  induction hRounds with
  | last hRun hLast => rfl
  | next hRun hNext hRead hRest ih => rw [List.map_cons, ih, List.map_cons]

end Rounds

/-! ## Rounds on a list of lines -/

section Lines

variable {σ : Type} {others : Proc.Handler interface σ} {context : Context} {single : Bool}
  {command : Command} {state : State} {s final : List LineAnswer × σ}
  {dispatched : List Dispatched} {answers : List LineAnswer}

/-- A command that quits ends the session. -/
private theorem exists_rounds_of_quits (others : Proc.Handler interface σ) (context : Context)
    (single : Bool) (state : State) (s : List LineAnswer × σ) (hQuits : command.Quits) :
    ∃ d final, Rounds (withLines others) context single command state s [d] [] final := by
  have hTrace := dispatchTrace_run (withLines others) s context state command
  obtain ⟨after, hEnded⟩ := hTrace.quit_iff.mpr (Verb.handler?_eq_quit_iff.mpr hQuits)
  refine ⟨_, _, .last rfl ?_⟩
  intro outcome last hLast
  rw [hEnded] at hLast
  cases hLast
  exact Or.inl rfl

/-- Every round but the last reads a line, and the end of input quits. -/
theorem exists_rounds (others : Proc.Handler interface σ) (context : Context) (single : Bool)
    (command : Command) (state : State) (s : List LineAnswer × σ) :
    ∃ dispatched answers final,
      Rounds (withLines others) context single command state s dispatched answers final ∧
        dispatched.length ≤ s.1.length + 2 := by
  generalize hCount : s.1.length = count
  induction count using Nat.strongRecOn generalizing single command state s with
  | ind count ih =>
      have hConsumes := consumes_run others (toProc (dispatch command) context state) s
      rcases hRun : (toProc (dispatch command) context state).run (withLines others) s
        with ⟨ended?, events, between⟩
      rw [hRun] at hConsumes
      by_cases hNext : ∃ outcome after, ended? = some (outcome, after) ∧ ¬EndsSession single outcome
      · obtain ⟨outcome, after, rfl, hNext⟩ := hNext
        have hLeft : between.1.length ≤ s.1.length := hConsumes.length_le
        obtain ⟨lines, surroundings⟩ := between
        cases lines with
        | nil =>
            -- Input has ended, and the next command quits.
            have hQuits : Command.quit.Quits := Or.inl Command.verb_quit
            obtain ⟨d, final, hLast⟩ :=
              exists_rounds_of_quits others context false after ([], surroundings) hQuits
            exact ⟨_, _, final, .next hRun hNext rfl hLast, by simp⟩
        | cons line rest =>
            have hFewer : rest.length < count := by
              rw [← hCount]
              exact hLeft
            obtain ⟨later, answers, final, hLater, hLength⟩ :=
              ih rest.length hFewer false (commandOfAnswer line) after (rest, surroundings) rfl
            refine ⟨_, _, final, .next hRun hNext rfl hLater, ?_⟩
            rw [List.length_cons]
            omega
      · refine ⟨_, [], between, .last hRun ?_, by simp⟩
        intro outcome after hEnded
        apply Decidable.byContradiction
        intro hOn
        exact hNext ⟨outcome, after, hEnded, hOn⟩

/-- A dispatch that ends is followed by the others. -/
theorem dispatchAll_cons {τ : Type} {handler : Proc.Handler interface τ} {commands : List Command}
    {after : State} {outcome : Outcome} {events : List Event} {surroundings left : τ}
    (hRun : (toProc (dispatch command) context state).run handler surroundings
      = ⟨some (outcome, after), events, left⟩) :
    dispatchAll handler context (command :: commands) state surroundings
      = ⟨command, state, events, some (outcome, after)⟩
        :: dispatchAll handler context commands after left := by
  simp only [dispatchAll, hRun]

/-- What the rounds do depends on no line that a command left unread: dispatched one after
the other, with the lines that they read themselves, the commands do the same. -/
theorem Rounds.fold
    (hRounds : Rounds (withLines others) context single command state s dispatched answers final) :
    dispatchAll (withLines others) context (command :: answers.map commandOfAnswer) state
      (dispatched.flatMap fun d => linesRead d.events, s.2) = dispatched := by
  induction hRounds with
  | @last single command state s final events ended? hRun hLast =>
      have hSame := run_of_linesRead others (toProc (dispatch command) context state) s []
      rw [hRun] at hSame
      simp only [List.flatMap_cons, List.flatMap_nil, List.map_nil, dispatchAll, hSame]
      cases ended? <;> rfl
  | @next single command state after s between later final events outcome answer rest answers
      hRun hNext hRead hRest ih =>
      have hSame := run_of_linesRead others (toProc (dispatch command) context state) s
        (rest.flatMap fun d => linesRead d.events)
      have hLater : between.2 = later.2 := congrArg (·.2.2) hRead
      rw [hRun] at hSame
      rw [List.flatMap_cons, List.map_cons, dispatchAll_cons hSame, hLater, ih]

/-- The rounds read the lines in order. -/
private theorem Rounds.consumes
    (hRounds : Rounds (withLines others) context single command state s dispatched answers final) :
    Consumes s.1 (transcript dispatched answers) final.1 := by
  induction hRounds with
  | @last single command state s final events ended? hRun hLast =>
      have hConsumes := consumes_run others (toProc (dispatch command) context state) s
      rw [hRun] at hConsumes
      simpa [transcript] using hConsumes
  | @next single command state after s between later final events outcome answer rest answers
      hRun hNext hRead hRest ih =>
      have hConsumes := consumes_run others (toProc (dispatch command) context state) s
      have hPrompt := consumes_answer others (.readLine commandPrompt) between
      rw [hRun] at hConsumes
      rw [hRead] at hPrompt
      exact hConsumes.append (hPrompt.append ih)

end Lines

/-! ## What commands leave to the loop -/

section Commands

variable {context : Context} {state after : State} {command : Command} {events : List Event}
  {ended? : Option (Outcome × State)} {outcome : Outcome} {acts : List Event → Act → Prop}
  {ending : Ending}

/-- A question that is not the prompt for commands. -/
def Query.IsUnprompted (query : Query) : Prop :=
  query ≠ .readLine commandPrompt

private theorem Query.IsRemote.isUnprompted {calls : Call → Prop} {query : Query}
    (hRemote : query.IsRemote calls) : query.IsUnprompted := by
  rintro rfl
  exact hRemote

private theorem Effect.Step.unprompted {effect : Effect} (hQuiet : effect.IsQuiet)
    (hStep : effect.Step state events ending) : Asks Query.IsUnprompted events := by
  have hPrompt : ∀ prompt, prompt ≠ commandPrompt → (Query.readLine prompt).IsUnprompted :=
    fun prompt hOther hSame => hOther (Query.readLine.inj hSame)
  cases hStep with
  | print line => exact asks_shown fun _ => nofun
  | readLine prompt line => exact asks_singleton (hPrompt prompt hQuiet)
  | readLineFailed prompt cause => exact asks_singleton (hPrompt prompt hQuiet)
  | readSecret prompt line => exact asks_singleton nofun
  | readSecretFailed prompt cause => exact asks_singleton nofun
  | readClock now => exact asks_singleton nofun
  | fail e => exact asks_nil
  | lookUp c exchange => exact hQuiet.elim
  | reject c exchange => exact hQuiet.elim
  | learnZone pushed reply => exact hQuiet.elim
  | starve => exact hQuiet.elim

/-- No handler prompts for a command. -/
private theorem Phases.unprompted {user : UserIdentity}
    (hPhases : Phases user acts state events ending) :
    Asks Query.IsUnprompted events := by
  have hComposes : Composes fun _ events _ => Asks Query.IsUnprompted events :=
    ⟨fun _ => asks_nil, fun hFirst hRest => asks_append_iff.mpr ⟨hFirst, hRest⟩⟩
  refine hPhases.holds hComposes ?_ ?_ ?_
  · intro effect state events ending hQuiet hStep
    exact hStep.unprompted hQuiet
  · intro lookUps effect state events ending hInquiry hStep
    exact (hStep.inquiry hInquiry).1.mono fun _ hRemote => hRemote.isUnprompted
  · intro acts state events ending hConclusion
    exact hConclusion.asks.1.mono fun _ hRemote => hRemote.isUnprompted

/-- No command prompts for a command. -/
private theorem DispatchTrace.unprompted
    (hTrace : DispatchTrace context state command events ended?) :
    Asks Query.IsUnprompted events := by
  have hEcho : Asks Query.IsUnprompted (echoed context.settings command) :=
    asks_echoed fun _ => nofun
  have hShown : ∀ lines, Asks Query.IsUnprompted (shown lines) := fun _ =>
    asks_shown fun _ => nofun
  cases hTrace with
  | empty hVerb => exact asks_nil
  | unknown hVerb hHandler => exact asks_append_iff.mpr ⟨hEcho, hShown _⟩
  | quit hVerb hHandler => exact hEcho
  | finished hVerb hHandler hQuit hBody =>
      exact asks_append_iff.mpr ⟨hEcho, (Action.phased_handle _ _ _ hBody).unprompted⟩
  | failed hVerb hHandler hQuit hBody =>
      have hPhases := (Action.phased_handle _ _ _ hBody).unprompted
      exact asks_append_iff.mpr ⟨asks_append_iff.mpr ⟨hEcho, hPhases⟩, hShown _⟩
  | exhausted hVerb hHandler hQuit hBody =>
      exact asks_append_iff.mpr ⟨hEcho, (Action.phased_handle _ _ _ hBody).unprompted⟩

/-- A command that quits is at most echoed. -/
theorem DispatchTrace.of_quits (hTrace : DispatchTrace context state command events ended?)
    (hQuits : command.Quits) :
    events = echoed context.settings command ∧ ended? = some (.quit, state) := by
  have hOwn : Verb.handler? command.verb = some .quit := Verb.handler?_eq_quit_iff.mpr hQuits
  cases hTrace with
  | empty hVerb => rw [hVerb, Verb.handler?_empty] at hOwn; cases hOwn
  | unknown hVerb hHandler => rw [hHandler] at hOwn; cases hOwn
  | quit hVerb hHandler => exact ⟨rfl, rfl⟩
  | finished hVerb hHandler hQuit hBody =>
      rw [hHandler] at hOwn
      exact absurd (Option.some.inj hOwn) hQuit
  | failed hVerb hHandler hQuit hBody =>
      rw [hHandler] at hOwn
      exact absurd (Option.some.inj hOwn) hQuit
  | exhausted hVerb hHandler hQuit hBody =>
      rw [hHandler] at hOwn
      exact absurd (Option.some.inj hOwn) hQuit

/-- A command that is not a proper one leaves the state as it was. -/
private theorem DispatchTrace.after_of_not_isProper
    (hTrace : DispatchTrace context state command events (some (outcome, after)))
    (hNot : ¬command.IsProper) : after = state := by
  by_cases hEmpty : command.verb = ""
  · obtain ⟨last, hLast⟩ := hTrace.empty_iff.mpr hEmpty
    cases hLast
    exact (hTrace.unchanged (Or.inl rfl)).2
  · have hQuits : command.Quits := Decidable.byContradiction fun hOther => hNot ⟨hEmpty, hOther⟩
    have hEnded := (hTrace.of_quits hQuits).2
    cases hEnded
    rfl

/-- What the step does, and what it leaves behind, does not depend on the status that is
recorded before it. -/
def StartsAfresh {α : Type} (context : Context) (step : Shell α) : Prop :=
  ∀ (state : State) (status : Status),
    toProc step context { state with lastStatus := status } = toProc step context state

/-- A step that records a status first starts afresh. -/
private theorem startsAfresh_record_bind {α : Type} {status : Status} {rest : Unit → Shell α} :
    StartsAfresh context (record status >>= rest) :=
  fun _ _ => rfl

theorem startsAfresh_print_bind {α : Type} {line : Line} {rest : Unit → Shell α}
    (hRest : StartsAfresh context (rest ())) : StartsAfresh context (print line >>= rest) := by
  intro state status
  show Proc.ask (I := interface) (Query.print line) _
    = Proc.ask (I := interface) (Query.print line) _
  congr 1
  funext answer
  exact hRest state status

/-- The echo in front of a command does not matter for this. -/
theorem startsAfresh_echo {α : Type} {line : Line} {rest : Shell α}
    (hRest : StartsAfresh context rest) :
    StartsAfresh context (do
      if (← read).settings.veryVerbose then print line
      rest) := by
  intro state status
  rw [toProc_bind, toProc_bind]
  show toProc (if context.settings.veryVerbose = true then print line >>= fun _ => rest else rest)
      context _ = toProc (if context.settings.veryVerbose = true then _ else _) context _
  by_cases hVerbose : context.settings.veryVerbose = true
  · rw [if_pos hVerbose]
    exact startsAfresh_print_bind hRest state status
  · rw [if_neg hVerbose]
    exact hRest state status

/-- A proper command starts afresh. -/
private theorem startsAfresh_dispatch (hProper : command.IsProper) :
    StartsAfresh context (dispatch command) := by
  obtain ⟨hVerb, hQuits⟩ := hProper
  have hOther : Verb.handler? command.verb ≠ some .quit :=
    fun hQuit => hQuits (Verb.handler?_eq_quit_iff.mp hQuit)
  unfold dispatch
  rw [if_neg hVerb]
  apply startsAfresh_echo
  cases hHandler : Verb.handler? command.verb with
  | none => exact startsAfresh_print_bind startsAfresh_record_bind
  | some handler =>
      rw [hHandler] at hOther
      have hRun : StartsAfresh context (runHandler handler command) := startsAfresh_record_bind
      cases handler with
      | quit => exact absurd rfl hOther
      | _ => exact hRun

end Commands

/-! ## The status that is left behind -/

section Status

variable {σ : Type} {handler : Proc.Handler interface σ} {context : Context} {single : Bool}
  {command : Command} {state after : State} {s final : σ} {dispatched : List Dispatched}
  {answers : List LineAnswer}

/-- The status that a proper command left behind. -/
def Dispatched.status? (d : Dispatched) : Option Status :=
  if d.command.IsProper then d.ended?.map (·.2.lastStatus) else none

/-- The status left behind by the last proper command, and `status` if there is none. -/
def leftStatus (status : Status) (dispatched : List Dispatched) : Status :=
  (dispatched.filterMap Dispatched.status?).getLast?.getD status

theorem leftStatus_cons {status : Status} {d : Dispatched} :
    leftStatus status (d :: dispatched) = leftStatus (d.status?.getD status) dispatched := by
  cases hStatus : d.status? with
  | none => simp [leftStatus, hStatus]
  | some left => simp [leftStatus, hStatus, List.getLast?_cons]

private theorem DispatchTrace.lastStatus {events : List Event} {outcome : Outcome}
    (hTrace : DispatchTrace context state command events (some (outcome, after))) :
    after.lastStatus
      = (Dispatched.status? ⟨command, state, events, some (outcome, after)⟩).getD
          state.lastStatus := by
  unfold Dispatched.status?
  by_cases hProper : command.IsProper
  · rw [if_pos hProper]
    rfl
  · rw [if_neg hProper, hTrace.after_of_not_isProper hProper]
    rfl

theorem dispatchTrace_of_run {events : List Event} {ended? : Option (Outcome × State)}
    (hRun : (toProc (dispatch command) context state).run handler s = ⟨ended?, events, final⟩) :
    DispatchTrace context state command events ended? := by
  have hTrace := dispatchTrace_run handler s context state command
  rw [hRun] at hTrace
  exact hTrace

/-- The status at the end is the one that the last proper command left behind. -/
private theorem Rounds.leftStatus
    (hRounds : Rounds handler context single command state s dispatched answers final)
    (hEnd : endOfSession dispatched = some after) :
    after.lastStatus = leftStatus state.lastStatus dispatched := by
  induction hRounds with
  | @last single command state s final events ended? hRun hLast =>
      obtain ⟨⟨outcome, last⟩, rfl, rfl⟩ := Option.map_eq_some_iff.mp hEnd
      rw [leftStatus_cons]
      exact (dispatchTrace_of_run hRun).lastStatus
  | next hRun hNext hRead hRest ih =>
      rw [leftStatus_cons, ← (dispatchTrace_of_run hRun).lastStatus]
      rw [endOfSession_cons hRest.ne_nil] at hEnd
      exact ih hEnd

/-! ## The end of a session -/

/-- The session comes to its end exactly if every dispatch ends. -/
private theorem Rounds.ends_iff
    (hRounds : Rounds handler context single command state s dispatched answers final) :
    (∃ after, endOfSession dispatched = some after) ↔
      ∀ d ∈ dispatched, ∃ ended, d.ended? = some ended := by
  induction hRounds with
  | @last single command state s final events ended? hRun hLast =>
      cases ended? with
      | none => simp [endOfSession]
      | some ended =>
          have hAll : ∀ d ∈ [Dispatched.mk command state events (some ended)],
              ∃ ended, d.ended? = some ended := by
            intro d hMem
            rw [List.mem_singleton.mp hMem]
            exact ⟨ended, rfl⟩
          exact ⟨fun _ => hAll, fun _ => ⟨ended.2, rfl⟩⟩
  | next hRun hNext hRead hRest ih =>
      rw [endOfSession_cons hRest.ne_nil, ih, List.forall_mem_cons]
      simp

/-- No command follows one that quits. -/
private theorem Rounds.last_of_quits {earlier later : List Dispatched} {d : Dispatched}
    (hRounds : Rounds handler context single command state s dispatched answers final)
    (hSplit : dispatched = earlier ++ d :: later) (hQuits : d.command.Quits) : later = [] := by
  induction hRounds generalizing earlier with
  | last hRun hLast =>
      cases earlier with
      | nil => exact (List.cons.inj hSplit).2.symm
      | cons first rest => simp at hSplit
  | next hRun hNext hRead hRest ih =>
      cases earlier with
      | nil =>
          obtain ⟨rfl, -⟩ := List.cons.inj hSplit
          have hEnded := ((dispatchTrace_of_run hRun).of_quits hQuits).2
          cases hEnded
          exact absurd (Or.inl rfl) hNext
      | cons first rest => exact ih (List.cons.inj hSplit).2

/-- An interactive session ends with a command that quits. -/
private theorem Rounds.quits_of_interactive
    (hRounds : Rounds handler context false command state s dispatched answers final)
    (hEnd : endOfSession dispatched = some after) :
    ∃ earlier d, dispatched = earlier ++ [d] ∧ d.command.Quits := by
  generalize hMode : false = single at hRounds
  induction hRounds with
  | @last single command state s final events ended? hRun hLast =>
      obtain ⟨⟨outcome, last⟩, rfl, rfl⟩ := Option.map_eq_some_iff.mp hEnd
      refine ⟨[], _, rfl, ?_⟩
      rcases hLast outcome last rfl with rfl | ⟨hSingle, -⟩
      · exact Verb.handler?_eq_quit_iff.mp ((dispatchTrace_of_run hRun).quit_iff.mp ⟨last, rfl⟩)
      · rw [← hMode] at hSingle
        cases hSingle
  | @next single command state next s between later final events outcome answer rest answers
      hRun hNext hRead hRest ih =>
      rw [endOfSession_cons hRest.ne_nil] at hEnd
      obtain ⟨earlier, d, hRestSplit, hQuits⟩ := ih hEnd rfl
      exact ⟨_ :: earlier, d, by rw [hRestSplit, List.cons_append], hQuits⟩

/-- A session that is not interactive ends after a command with a verb. -/
private theorem Rounds.answers_of_batch
    (hRounds : Rounds handler context true command state s dispatched answers final)
    (hVerb : command.verb ≠ "") : answers = [] := by
  cases hRounds with
  | last hRun hLast => rfl
  | @next _ _ _ after _ _ _ _ _ outcome _ _ _ hRun hNext hRead hRest =>
      cases outcome with
      | handled => exact absurd (Or.inr ⟨rfl, rfl⟩) hNext
      | invalid => exact absurd (Or.inr ⟨rfl, rfl⟩) hNext
      | quit => exact absurd (Or.inl rfl) hNext
      | empty => exact absurd ((dispatchTrace_of_run hRun).empty_iff.mp ⟨after, rfl⟩) hVerb

end Status

/-! ## Sessions are folds -/

section Folds

variable {σ : Type}

/-- The run of a session: its commands, dispatched one after the other. -/
structure IsFold (others : Proc.Handler interface σ) (context : Context) (first : Command)
    (state : State) (lines : List LineAnswer) (surroundings : σ)
    (run : Proc.Run interface (List LineAnswer × σ) (Status × State))
    (dispatched : List Dispatched) (answers : List LineAnswer) : Prop where
  /-- The commands are the first one, and what the answers to the prompts for commands
  stand for. -/
  commands : dispatched.map Dispatched.command = first :: answers.map commandOfAnswer
  /-- They do what they do when they are dispatched one after the other, with no other lines
  to read than those that they read themselves. -/
  fold : dispatchAll (withLines others) context (first :: answers.map commandOfAnswer) state
    (dispatched.flatMap fun d => linesRead d.events, surroundings) = dispatched
  /-- The events are theirs, with the prompts for commands between them. -/
  events : run.events = transcript dispatched answers
  /-- Only the loop prompts for commands. -/
  prompts : ∀ d ∈ dispatched, Asks Query.IsUnprompted d.events
  /-- All lines are read in order, by the commands and by the loop. -/
  lines : Consumes lines run.events run.state.1
  /-- The session ends exactly if every dispatch does, in the state that the last of them
  leaves behind. -/
  ends : (∃ value, run.value? = some value) ↔ ∀ d ∈ dispatched, ∃ ended, d.ended? = some ended
  value : run.value? = (endOfSession dispatched).map fun after => (after.lastStatus, after)
  /-- The status is the one that the last proper command left behind. -/
  status : ∀ status after, run.value? = some (status, after) →
    status = leftStatus state.lastStatus dispatched
  /-- A proper command does not depend on the status that is recorded before it. -/
  afresh : ∀ d ∈ dispatched, d.command.IsProper → StartsAfresh context (dispatch d.command)
  /-- A command that quits is the last one, and it is at most echoed. -/
  quits : ∀ earlier d later, dispatched = earlier ++ d :: later → d.command.Quits →
    later = [] ∧ d.events = echoed context.settings d.command
  /-- A session without a first command ends with one that quits. -/
  interactive : first.verb = "" → (∃ value, run.value? = some value) →
    ∃ earlier d, dispatched = earlier ++ [d] ∧ d.command.Quits
  /-- A session with a first command prompts for no other. -/
  batch : first.verb ≠ "" → answers = [] ∧ Asks Query.IsUnprompted run.events

/-- A run of the session: that of the loop, with the status read off at the end. -/
private theorem Rounds.run_runCommands {handler : Proc.Handler interface σ} {context : Context}
    {interactive : Bool} {first : Command} {state : State} {s final : σ}
    {dispatched : List Dispatched} {answers : List LineAnswer} {fuel : Nat}
    (hRounds : Rounds handler context (!interactive) first state s dispatched answers final)
    (hFuel : dispatched.length ≤ fuel) :
    (toProc (runCommands fuel first interactive) context state).run handler s
      = ⟨(endOfSession dispatched).map fun after => (after.lastStatus, after),
          transcript dispatched answers, final⟩ := by
  unfold runCommands
  rw [toProc_bind, Proc.run_bind, hRounds.run_loop hFuel]
  cases endOfSession dispatched with
  | none => rfl
  | some after =>
      show Proc.Run.mk _ (transcript dispatched answers ++ []) _ = _
      rw [List.append_nil]
      rfl

/-- A session comes to its end with the status that is recorded last. -/
private theorem report_eq_some_iff {dispatched : List Dispatched} {status : Status}
    {after : State} :
    (endOfSession dispatched).map (fun after => (after.lastStatus, after))
        = some (status, after) ↔
      endOfSession dispatched = some after ∧ status = after.lastStatus := by
  constructor
  · intro hReport
    obtain ⟨last, hLast, hPair⟩ := Option.map_eq_some_iff.mp hReport
    cases hPair
    exact ⟨hLast, rfl⟩
  · intro hEnd
    rw [hEnd.1, hEnd.2]
    rfl

section Facts

variable {others : Proc.Handler interface σ} {context : Context} {single : Bool}
  {first : Command} {state : State} {s final : List LineAnswer × σ}
  {dispatched : List Dispatched} {answers : List LineAnswer}

/-- What is dispatched in the rounds is dispatched in a session. -/
theorem Rounds.forall_isTrace
    (hRounds : Rounds (withLines others) context single first state s dispatched answers final) :
    ∀ d ∈ dispatched, d.IsTrace context := by
  have hSession := session_dispatchAll context (withLines others)
    (first :: answers.map commandOfAnswer) state
    (dispatched.flatMap fun d => linesRead d.events, s.2)
  rw [hRounds.fold] at hSession
  exact hSession.forall_isTrace

theorem Rounds.prompts
    (hRounds : Rounds (withLines others) context single first state s dispatched answers final) :
    ∀ d ∈ dispatched, Asks Query.IsUnprompted d.events := by
  intro d hMem
  exact (dispatchTrace_of_trace (hRounds.forall_isTrace d hMem)).unprompted

theorem Rounds.quits {earlier later : List Dispatched} {d : Dispatched}
    (hRounds : Rounds (withLines others) context single first state s dispatched answers final)
    (hSplit : dispatched = earlier ++ d :: later) (hQuits : d.command.Quits) :
    later = [] ∧ d.events = echoed context.settings d.command := by
  have hMem : d ∈ dispatched := by
    rw [hSplit]
    exact List.mem_append_right earlier List.mem_cons_self
  have hTrace := dispatchTrace_of_trace (hRounds.forall_isTrace d hMem)
  exact ⟨hRounds.last_of_quits hSplit hQuits, (hTrace.of_quits hQuits).1⟩

/-- In a session with a first command nothing prompts for a command. -/
private theorem Rounds.batch
    (hRounds : Rounds (withLines others) context true first state s dispatched answers final)
    (hVerb : first.verb ≠ "") :
    answers = [] ∧ Asks Query.IsUnprompted (transcript dispatched answers) := by
  have hNone := hRounds.answers_of_batch hVerb
  subst hNone
  refine ⟨rfl, ?_⟩
  rw [transcript_nil]
  intro event hEvent
  obtain ⟨d, hMem, hOwn⟩ := List.mem_flatMap.mp hEvent
  exact hRounds.prompts d hMem event hOwn

/-- The rounds are a fold of what is dispatched in them. -/
private theorem Rounds.isFold
    (hRounds : Rounds (withLines others) context (!decide (first.verb = "")) first state s
      dispatched answers final) :
    IsFold others context first state s.1 s.2
      ⟨(endOfSession dispatched).map fun after => (after.lastStatus, after),
        transcript dispatched answers, final⟩ dispatched answers where
  commands := hRounds.commands
  fold := hRounds.fold
  events := rfl
  prompts := hRounds.prompts
  lines := hRounds.consumes
  ends := by
    rw [← hRounds.ends_iff]
    constructor
    · intro ⟨⟨status, after⟩, hValue⟩
      exact ⟨after, (report_eq_some_iff.mp hValue).1⟩
    · intro ⟨after, hEnd⟩
      exact ⟨(after.lastStatus, after), report_eq_some_iff.mpr ⟨hEnd, rfl⟩⟩
  value := rfl
  status := by
    intro status after hValue
    obtain ⟨hEnd, hStatus⟩ := report_eq_some_iff.mp hValue
    rw [hStatus]
    exact hRounds.leftStatus hEnd
  afresh := fun _ _ hProper => startsAfresh_dispatch hProper
  quits := fun _ _ _ hSplit hQuits => hRounds.quits hSplit hQuits
  interactive := by
    intro hVerb ⟨⟨status, after⟩, hValue⟩
    rw [decide_eq_true hVerb] at hRounds
    exact hRounds.quits_of_interactive (report_eq_some_iff.mp hValue).1
  batch := by
    intro hVerb
    rw [decide_eq_false hVerb] at hRounds
    exact hRounds.batch hVerb

end Facts

/-- Every session is a fold.  It takes at most two rounds more than there are lines. -/
theorem runCommands_isFold (others : Proc.Handler interface σ) (context : Context)
    (first : Command) (state : State) (lines : List LineAnswer) (surroundings : σ) :
    ∃ dispatched answers, ∀ fuel, lines.length + 2 ≤ fuel →
      IsFold others context first state lines surroundings
        ((toProc (runCommands fuel first (decide (first.verb = ""))) context state).run
          (withLines others) (lines, surroundings))
        dispatched answers := by
  obtain ⟨dispatched, answers, final, hRounds, hLength⟩ :=
    exists_rounds others context (!decide (first.verb = "")) first state (lines, surroundings)
  refine ⟨dispatched, answers, ?_⟩
  intro fuel hFuel
  rw [hRounds.run_runCommands (Nat.le_trans hLength hFuel)]
  exact hRounds.isFold

end Folds

/-! ## A session at a terminal -/

namespace TypedSession

def context : Context :=
  { settings := { zone := "tempZone" }, user := ⟨"rods", "tempZone"⟩, fuel := 1 }

/-- A change that is agreed to, an empty line, a verb that is unknown, and a line behind the
one that quits. -/
def lines : List LineAnswer :=
  ["modzone tempZone name newZone", "y", "", "bogus", "q", "cu"].map (.ok ∘ some)

def surroundings : Rehearsal :=
  { terminal := {}, service := {} }

/-- The run of the session. -/
def run : Proc.Run interface (List LineAnswer × Rehearsal) (Status × State) :=
  (toProc (runCommands 8 (.ofWords []) true) context State.initial).run
    (withLines Rehearsal.handler) (lines, surroundings)

end TypedSession

open TypedSession in
/-- The answer to the question of a command is no command, and what stands behind the
line that quits is not read. -/
theorem isFold_of_typed_lines :
    ∃ dispatched answers, IsFold Rehearsal.handler context (.ofWords []) State.initial lines
        surroundings run dispatched answers ∧
      run.state.1 = [.ok (some "cu")] ∧ run.value?.map (·.1) = some .invalidInput := by
  obtain ⟨dispatched, answers, hFold⟩ := runCommands_isFold Rehearsal.handler context
    (.ofWords []) State.initial lines surroundings
  have hFuel : lines.length + 2 ≤ 8 := by decide
  exact ⟨dispatched, answers, hFold 8 hFuel, rfl, rfl⟩

end Shell

end GridAdmin
