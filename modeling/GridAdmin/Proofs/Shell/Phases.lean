import GridAdmin.Proofs.Shell.Uses

/-!
# The phases of a command

Every command first stays on the terminal, where it may be refused.  Then it turns to
the service and reads nothing more: it looks things up, and in the end it may send one
administrative request or one update of a replica, behind which lines are only
printed.  `Phases` is the shape of such an execution.

What the service is asked for may depend on what was typed before, so what a command
may do is a relation between the events of its quiet part and an `Act`.

The split is the reason why an error that is local by its kind also is local by its
time: a command that has turned to the service ends in no local error.

## Main definitions

* `Shell.Act`: what a command asks of the service.
* `Shell.Conclusion`: how a command that changes something ends.
* `Shell.Remote`, `Shell.Phases`: the shape of an execution.

## Main results

* `Phases.not_called_of_local`: a local error means that no call was made.
* `Phases.call_split`: in front of a call stand the events that allowed it.
* `Phases.holds`: what composes and holds of every effect and every conclusion holds of
  executions.
* `Action.phased_bind`: a quiet action in front of a phased one.
-/

namespace GridAdmin

/-! ## Faults in the words of a command -/

/-- The error lies in the words of the command. -/
def ShellError.IsWordFault : ShellError → Prop
  | .invalidArgument _ | .invalidAttribute _ => True
  | .permissionDenied _ | .notFound | .remoteFailure _ _ | .client _ | .console _ => False

theorem ShellError.IsWordFault.isLocal {e : ShellError} (hFault : e.IsWordFault) :
    e.isLocal = true := by
  cases e <;> first | rfl | cases hFault

theorem ShellError.IsWordFault.ne_console {e : ShellError} (hFault : e.IsWordFault)
    (cause : String) : e ≠ .console cause := by
  rintro rfl
  exact hFault

namespace Shell

/-! ## Acts -/

/-- What a command asks of the service. -/
inductive Act where
  | lookUp (c : Call)
  /-- An administrative request as it is sent, and the status that the command records
  for the status of the request. -/
  | send (request : AdminRequest) (options : SendOptions) (settle : Status → Status)
  | update (update : ReplicaUpdate)

/-- The calls of an act. -/
inductive Act.Makes : Act → Call → Prop where
  | lookUp (c : Call) : Makes (.lookUp c) c
  | general (request : AdminRequest) (options : SendOptions) (settle : Status → Status) :
      Makes (.send request options settle) (.generalAdmin request)
  | user (request : AdminRequest) (options : SendOptions) (settle : Status → Status)
      (hFallback : options.fallback = true) :
      Makes (.send request options settle) (.userAdmin request)
  | update (update : ReplicaUpdate) : Makes (.update update) (.modifyReplica update)

/-- Some of these acts makes the call. -/
def Allows (acts : Act → Prop) (c : Call) : Prop :=
  ∃ act, acts act ∧ act.Makes c

/-! ## Executions -/

/-- How a command that changes something ends: a request is sent, or a replica is
updated.  Only plain lines are printed behind the report. -/
inductive Conclusion (acts : Act → Prop) (state : State) : List Event → Ending → Prop where
  | sent {request : AdminRequest} {options : SendOptions} {settle : Status → Status}
      {events : List Event} {status : Status} {after : State} {lines : List Line}
      (hAct : acts (.send request options settle))
      (hSent : Sent request options state events status after)
      (hPlain : ∀ line ∈ lines, line.isPlain = true) :
      Conclusion acts state (events ++ shown lines)
        (.value { after with lastStatus := settle status })
  | updated {update : ReplicaUpdate} (hAct : acts (.update update)) (pushed : List Diagnostic) :
      Conclusion acts state [⟨Query.call (.modifyReplica update), ⟨pushed, .ok .success⟩⟩]
        (.value { state.push pushed with lastStatus := .success })
  | rejected {update : ReplicaUpdate} (hAct : acts (.update update)) (pushed : List Diagnostic)
      {status : Status} (hStatus : status ≠ .success) :
      Conclusion acts state
        (⟨Query.call (.modifyReplica update), ⟨pushed, .ok status⟩⟩
          :: shown (.updateFailed status :: stackLines 0 (state.push pushed).stack))
        (.value { state with lastStatus := status, stack := [] })
  | unanswered {update : ReplicaUpdate} (hAct : acts (.update update)) (pushed : List Diagnostic)
      (e : ClientError) :
      Conclusion acts state [⟨Query.call (.modifyReplica update), ⟨pushed, .error e⟩⟩]
        (.error (.client e) (state.push pushed))

/-- The part of a command that turns to the service. -/
inductive Remote (user : UserIdentity) (acts : Act → Prop) :
    State → List Event → Ending → Prop where
  | asked {state : State} {events : List Event} {ending : Ending}
      (hPath : Path (Effect.IsInquiry user fun c => acts (.lookUp c)) state events ending) :
      Remote user acts state events ending
  | concluded {state next : State} {first rest : List Event} {ending : Ending}
      (hFirst : Path (Effect.IsInquiry user fun c => acts (.lookUp c)) state first (.value next))
      (hRest : Conclusion acts next rest ending) : Remote user acts state (first ++ rest) ending

/-- A quiet part, and a remote part with the acts allowed behind it. -/
inductive Phases (user : UserIdentity) (acts : List Event → Act → Prop) :
    State → List Event → Ending → Prop where
  | quiet {state : State} {events : List Event} {ending : Ending}
      (hPath : Path Effect.IsQuiet state events ending) : Phases user acts state events ending
  | remote {state : State} {first rest : List Event} {ending : Ending}
      (hFirst : Path Effect.IsQuiet state first (.value state))
      (hRest : Remote user (acts first) state rest ending) :
      Phases user acts state (first ++ rest) ending

section Remote

variable {user : UserIdentity} {acts : Act → Prop} {state next : State} {first events : List Event}
  {ending : Ending}

theorem Remote.prepend
    (hFirst : Path (Effect.IsInquiry user fun c => acts (.lookUp c)) state first (.value next))
    (hRest : Remote user acts next events ending) :
    Remote user acts state (first ++ events) ending := by
  cases hRest with
  | asked hPath => exact .asked (hFirst.append hPath)
  | concluded hMore hConclusion =>
      rw [← List.append_assoc]
      exact .concluded (hFirst.append hMore) hConclusion

/-- A conclusion with nothing looked up before. -/
theorem Conclusion.remote (hConclusion : Conclusion acts state events ending) :
    Remote user acts state events ending := by
  have hRemote : Remote user acts state ([] ++ events) ending :=
    .concluded (.nil state) hConclusion
  exact hRemote

/-- The calls of a request are the general call, and the user call where it may fall
back; what is printed is the report and the error stack. -/
theorem Sent.asks {request : AdminRequest} {options : SendOptions} {status : Status}
    {after : State} {kind : Query → Prop} (hSent : Sent request options state events status after)
    (hGeneral : kind (.call (.generalAdmin request)))
    (hUser : options.fallback = true → kind (.call (.userAdmin request)))
    (hReport : ∀ line, line.isRequestReport = true → kind (.print line))
    (hDiagnostic : ∀ level message, kind (.print (.diagnostic level message))) :
    Asks kind events := by
  have hLines : ∀ route result stack, Asks kind
      (shown (sentLines route request options result ++ stackLines 0 stack)) := by
    refine fun route result stack => asks_shown_of_mem fun line hLine => ?_
    rcases List.mem_append.mp hLine with hSentLine | hStackLine
    · exact hReport line (List.all_eq_true.mp all_sentLines line hSentLine)
    · obtain ⟨level, message, rfl⟩ := eq_diagnostic_of_mem_stackLines hStackLine
      exact hDiagnostic level message
  cases hSent with
  | once exchange hOnce =>
      exact asks_append_iff.mpr ⟨asks_singleton hGeneral, hLines _ _ _⟩
  | again pushed exchange hFallback =>
      exact asks_append_iff.mpr ⟨asks_singleton hGeneral,
        asks_append_iff.mpr ⟨asks_singleton (hUser hFallback), hLines _ _ _⟩⟩

theorem Conclusion.asks (hConclusion : Conclusion acts state events ending) :
    Asks (Query.IsRemote (Allows acts)) events ∧ ending.IsRemote := by
  cases hConclusion with
  | sent hAct hSent hPlain =>
      refine ⟨asks_append_iff.mpr ⟨?_, asks_shown fun _ => trivial⟩, trivial⟩
      exact hSent.asks ⟨_, hAct, .general _ _ _⟩
        (fun hFallback => ⟨_, hAct, .user _ _ _ hFallback⟩) (fun _ _ => trivial)
        fun _ _ => trivial
  | updated hAct pushed => exact ⟨asks_singleton ⟨_, hAct, .update _⟩, trivial⟩
  | rejected hAct pushed hStatus =>
      exact ⟨asks_cons_shown ⟨_, hAct, .update _⟩ fun _ => trivial, trivial⟩
  | unanswered hAct pushed e =>
      exact ⟨asks_singleton ⟨_, hAct, .update _⟩, rfl, Or.inr e.status_isFailure⟩

/-- A remote part makes the calls of its acts only and reads nothing, and it ends in no
local error. -/
theorem Remote.asks (hRemote : Remote user acts state events ending) :
    Asks (Query.IsRemote (Allows acts)) events ∧ ending.IsRemote := by
  have hWider : ∀ query, Query.IsRemote (fun c => acts (.lookUp c) ∧ c.IsLookUp) query →
      Query.IsRemote (Allows acts) query := by
    intro query hQuery
    cases query with
    | call c => exact ⟨_, hQuery.1, .lookUp c⟩
    | _ => exact hQuery
  cases hRemote with
  | asked hPath => exact ⟨hPath.inquiry.1.mono hWider, hPath.inquiry.2⟩
  | concluded hFirst hRest =>
      exact ⟨asks_append_iff.mpr ⟨hFirst.inquiry.1.mono hWider, hRest.asks.1⟩, hRest.asks.2⟩

end Remote

variable {user : UserIdentity} {acts : List Event → Act → Prop} {state : State}
  {events : List Event} {ending : Ending}

/-- A local error was found before anything was asked of the service. -/
theorem Phases.not_called_of_local {e : ShellError} {after : State}
    (hPhases : Phases user acts state events (.error e after)) (hLocal : e.isLocal = true) :
    NoCall events ∧ after = state ∧ ∀ cause, e = .console cause → FailsToRead events cause := by
  cases hPhases with
  | quiet hPath =>
      obtain ⟨hNoCall, hAfter, -, hRead⟩ := hPath.quiet
      exact ⟨hNoCall, hAfter, hRead⟩
  | remote hFirst hRest =>
      have hRemote : e.isLocal = false := hRest.asks.2.1
      rw [hLocal] at hRemote
      cases hRemote

/-- Behind events that are not of a kind, an event of that kind lies in the rest. -/
theorem split_behind {kind : Query → Prop} {first rest before after : List Event} {event : Event}
    (hFirst : Asks (fun query => ¬kind query) first) (hKind : kind event.query)
    (hEvents : first ++ rest = before ++ event :: after) :
    ∃ middle, before = first ++ middle ∧ rest = middle ++ event :: after := by
  rcases List.append_eq_append_iff.mp hEvents with ⟨middle, hBefore, hRest⟩ |
    ⟨middle, hPrefix, hTail⟩
  · exact ⟨middle, hBefore, hRest⟩
  · cases middle with
    | nil =>
        refine ⟨[], ?_, ?_⟩
        · rw [List.append_nil] at hPrefix ⊢
          exact hPrefix.symm
        · exact hTail.symm
    | cons head tail =>
        obtain ⟨rfl, -⟩ := List.cons.inj hTail
        exact absurd hKind (hFirst event (by rw [hPrefix]; simp))

/-- In front of events that are not of a kind, an event of that kind lies in the
first part. -/
theorem split_before {kind : Query → Prop} {first rest before after : List Event} {event : Event}
    (hRest : Asks (fun query => ¬kind query) rest) (hKind : kind event.query)
    (hEvents : first ++ rest = before ++ event :: after) :
    ∃ middle, first = before ++ event :: middle ∧ after = middle ++ rest := by
  rcases List.append_eq_append_iff.mp hEvents with ⟨middle, hBefore, hTail⟩ |
    ⟨middle, hPrefix, hTail⟩
  · exact absurd hKind (hRest event (by rw [hTail]; simp))
  · cases middle with
    | nil =>
        rw [List.nil_append] at hTail
        exact absurd hKind (hRest event (by rw [← hTail]; simp))
    | cons head tail =>
        obtain ⟨rfl, rfl⟩ := List.cons.inj hTail
        exact ⟨tail, hPrefix, rfl⟩

/-- The question is a call. -/
def Query.IsCall (query : Query) : Prop :=
  ∃ c, query = .call c

/-- The question is an administrative request through the general call. -/
def Query.IsGeneralAdmin (query : Query) : Prop :=
  ∃ request, query = .call (.generalAdmin request)

/-- The question is an administrative request through the user call. -/
def Query.IsUserAdmin (query : Query) : Prop :=
  ∃ request, query = .call (.userAdmin request)

theorem NoCall.asks (hNoCall : NoCall events) : Asks (fun query => ¬query.IsCall) events := by
  rintro event hEvent ⟨c, hCall⟩
  exact hNoCall event hEvent c hCall

/-- In front of a call stand the events of the quiet part, which allow it. -/
theorem Phases.call_split (hPhases : Phases user acts state events ending) {c : Call}
    {exchange : Exchange c} {before after : List Event}
    (hEvents : events = before ++ ⟨Query.call c, exchange⟩ :: after) :
    ∃ first middle, before = first ++ middle ∧ Allows (acts first) c ∧
      Asks (Query.IsRemote (Allows (acts first))) (middle ++ after) := by
  cases hPhases with
  | quiet hPath =>
      have hEvent : (⟨Query.call c, exchange⟩ : Event) ∈ events := by
        rw [hEvents]
        simp
      exact absurd rfl (hPath.quiet.1 _ hEvent c)
  | remote hFirst hRest =>
      obtain ⟨middle, hBefore, rfl⟩ := split_behind hFirst.quiet.1.asks ⟨c, rfl⟩ hEvents
      have hAsks := asks_append_iff.mp hRest.asks.1
      have hCall : Allows (acts _) c := hAsks.2 ⟨Query.call c, exchange⟩ List.mem_cons_self
      refine ⟨_, middle, hBefore, hCall, asks_append_iff.mpr ⟨hAsks.1, ?_⟩⟩
      exact fun event hEvent => hAsks.2 event (List.mem_cons_of_mem _ hEvent)

/-- What composes and holds of every effect and every conclusion holds of executions. -/
theorem Phases.holds {holds : State → List Event → Ending → Prop} (hComposes : Composes holds)
    (hQuiet : ∀ effect state events ending, Effect.IsQuiet effect →
      effect.Step state events ending → holds state events ending)
    (hInquiry : ∀ lookUps effect state events ending, Effect.IsInquiry user lookUps effect →
      effect.Step state events ending → holds state events ending)
    (hConclusion : ∀ acts state events ending, Conclusion acts state events ending →
      holds state events ending)
    (hPhases : Phases user acts state events ending) : holds state events ending := by
  cases hPhases with
  | quiet hPath => exact hPath.holds hComposes hQuiet
  | remote hFirst hRest =>
      refine hComposes.append (hFirst.holds hComposes hQuiet) ?_
      cases hRest with
      | asked hPath => exact hPath.holds hComposes (hInquiry _)
      | concluded hLooked hEnd =>
          exact hComposes.append (hLooked.holds hComposes (hInquiry _))
            (hConclusion _ _ _ _ hEnd)

/-- The same for what holds of every effect that prints plain lines only. -/
theorem Phases.holds_of_printsPlain {holds : State → List Event → Ending → Prop}
    (hComposes : Composes holds)
    (hStep : ∀ effect state events ending, Effect.PrintsPlain effect →
      effect.Step state events ending → holds state events ending)
    (hConclusion : ∀ acts state events ending, Conclusion acts state events ending →
      holds state events ending)
    (hPhases : Phases user acts state events ending) : holds state events ending :=
  hPhases.holds hComposes (fun _ _ _ _ hQuiet => hStep _ _ _ _ hQuiet.printsPlain)
    (fun _ _ _ _ _ hInquiry => hStep _ _ _ _ hInquiry.printsPlain) hConclusion

theorem Sent.localZone_eq {request : AdminRequest} {options : SendOptions} {status : Status}
    {after : State} (hSent : Sent request options state events status after) :
    after.localZone = state.localZone := by
  cases hSent <;> rfl

/-- Sending leaves the remembered zone as it was. -/
theorem Conclusion.learnsZone {acts : Act → Prop} {after : State}
    (hConclusion : Conclusion acts state events ending) (hAfter : ending.after? = some after) :
    LearnsZone state events after := by
  cases hConclusion with
  | sent hAct hSent hPlain =>
      cases hAfter
      exact Or.inl hSent.localZone_eq
  | _ =>
      cases hAfter
      exact Or.inl rfl

/-- In all phases the remembered zone changes only from unknown to an answer. -/
theorem Phases.learnsZone {after : State} (hPhases : Phases user acts state events ending)
    (hAfter : ending.after? = some after) : LearnsZone state events after := by
  cases hPhases with
  | quiet hPath => exact hPath.learnsZone hAfter
  | remote hFirst hRest =>
      refine (hFirst.learnsZone rfl).append ?_
      cases hRest with
      | asked hPath => exact hPath.learnsZone hAfter
      | concluded hLooked hEnd => exact (hLooked.learnsZone rfl).append (hEnd.learnsZone hAfter)

end Shell

namespace Action

open Shell (Event Context State Effect Ending Path Act Allows Remote Phases)

/-! ## Actions that turn to the service -/

section Remote

variable {α β : Type} {acts : Act → Prop} {context : Context}

/-- All traces are remote parts with these acts. -/
def Concludes (acts : Act → Prop) (context : Context) (action : Action α) : Prop :=
  ∀ state, action.Ensures context state fun events last =>
    Remote context.user acts state events (endingOf last)

theorem concludes_of_inquires {action : Action α}
    (hAction : Inquires (fun c => acts (.lookUp c)) context action) :
    Concludes acts context action :=
  fun state => (hAction state).mono fun _ _ => .asked

/-- Look-ups in front of what concludes a command. -/
theorem concludes_bind {action : Action α} {rest : α → Action β}
    (hAction : Inquires (fun c => acts (.lookUp c)) context action)
    (hRest : ∀ value, Concludes acts context (rest value)) :
    Concludes acts context (action >>= rest) := by
  intro state
  rw [ensures_bind]
  refine (hAction state).mono fun events last hPath => ?_
  rcases last with _ | ⟨e | value, after⟩
  · exact .asked hPath
  · exact .asked hPath
  · exact (hRest value after).mono fun more end? hMore => hMore.prepend hPath

theorem concludes_ite {c : Prop} [Decidable c] {first second : Action α}
    (hFirst : c → Concludes acts context first) (hSecond : ¬c → Concludes acts context second) :
    Concludes acts context (if c then first else second) := by
  by_cases hc : c
  · rw [if_pos hc]
    exact hFirst hc
  · rw [if_neg hc]
    exact hSecond hc

/-- A request, and behind it plain lines and the status that it is settled with. -/
theorem concludes_invoke_bind {request : AdminRequest} {options : SendOptions}
    {settle : Status → Status} {rest : Status → Action β}
    (hAct : acts (.send (options.apply request) options settle))
    (hRest : ∀ status after, after.lastStatus = status →
      (rest status).Ensures context after fun events last => ∃ lines value,
        (∀ line ∈ lines, line.isPlain = true) ∧ events = Shell.shown lines ∧
          last = some (.ok value, { after with lastStatus := settle status })) :
    Concludes acts context (liftM (Shell.invoke request options) >>= rest) := by
  intro state
  rw [ensures_bind, ensures_lift]
  refine Shell.ensures_invoke fun events status after hSent => ?_
  have hStatus : after.lastStatus = status := by cases hSent <;> rfl
  refine (hRest status after hStatus).mono ?_
  rintro more end? ⟨lines, value, hPlain, rfl, rfl⟩
  exact Shell.Conclusion.remote (.sent hAct hSent hPlain)

/-- A request whose outcome is the end of the command. -/
theorem concludes_invoke {request : AdminRequest} {options : SendOptions}
    (hAct : acts (.send (options.apply request) options id)) :
    Concludes acts context (do let _ ← Shell.invoke request options) := by
  refine concludes_invoke_bind hAct fun status after hStatus => ?_
  subst hStatus
  exact ensures_pure.mpr ⟨[], (), nofun, rfl, rfl⟩

end Remote

/-! ## Actions in phases -/

/-- All traces have the phases of a command. -/
def Phased {α : Type} (acts : List Event → Act → Prop) (context : Context)
    (action : Action α) : Prop :=
  ∀ state, action.Ensures context state fun events last =>
    Phases context.user acts state events (endingOf last)

variable {α β : Type} {acts : List Event → Act → Prop} {context : Context}

/-- The effects of a part that stays on the terminal. -/
abbrev UsesQuiet (context : Context) (action : Action α) : Prop :=
  Uses Effect.IsQuiet context action

theorem phased_of_quiet {action : Action α} (hAction : UsesQuiet context action) :
    Phased acts context action :=
  fun state => (hAction state).mono fun _ _ => .quiet

theorem phased_of_concludes {action : Action α} (hAction : Concludes (acts []) context action) :
    Phased acts context action :=
  fun state => (hAction state).mono fun _ _ hRest => .remote (.nil state) hRest

theorem phased_of_inquires {action : Action α}
    (hAction : Inquires (fun c => acts [] (.lookUp c)) context action) :
    Phased acts context action :=
  phased_of_concludes (concludes_of_inquires hAction)

theorem phased_ite {c : Prop} [Decidable c] {first second : Action α}
    (hFirst : c → Phased acts context first) (hSecond : ¬c → Phased acts context second) :
    Phased acts context (if c then first else second) := by
  by_cases hc : c
  · rw [if_pos hc]
    exact hFirst hc
  · rw [if_neg hc]
    exact hSecond hc

theorem phased_read_bind {rest : Context → Action β}
    (hRest : Phased acts context (rest context)) : Phased acts context (read >>= rest) := by
  intro state
  rw [ensures_bind, ensures_read]
  exact hRest state

/-- A quiet action in front of a phased one. What follows may use the value of
the action together with the events that led to it. -/
theorem phased_bind {action : Action α} {rest : α → Action β}
    (hAction : UsesQuiet context action)
    (hRest : ∀ state, action.Ensures context state fun events last =>
      ∀ value after, last = some (.ok value, after) →
        Phased (fun more => acts (events ++ more)) context (rest value)) :
    Phased acts context (action >>= rest) := by
  intro state
  rw [ensures_bind]
  intro events last hTrace
  have hPath := hAction state events last hTrace
  rcases last with _ | ⟨e | value, after⟩
  · exact .quiet hPath
  · exact .quiet hPath
  · have hSame : after = state := hPath.quiet.2
    subst hSame
    refine (hRest after events _ hTrace value after rfl after).mono fun more end? hMore => ?_
    cases hMore with
    | quiet hMorePath => exact .quiet (hPath.append hMorePath)
    | remote hFirst hLast =>
        rw [← List.append_assoc]
        exact .remote (hPath.append hFirst) hLast

/-- Printing in front of a phased action. -/
theorem phased_print_bind {line : Line} {rest : Unit → Action β} (hPlain : line.isPlain = true)
    (hRest : Phased (fun more => acts (Shell.shown [line] ++ more)) context (rest ())) :
    Phased acts context (liftM (Shell.print line) >>= rest) := by
  refine phased_bind (uses_lift (Shell.uses_print hPlain)) fun state => ?_
  rw [ensures_lift, Shell.ensures_print]
  intro value after _
  exact hRest

/-- A result that was found without asking anything. -/
theorem phased_result_bind {result : Except ShellError α} {rest : α → Action β}
    (hError : ∀ e, result = .error e → e.IsWordFault)
    (hRest : ∀ value, result = .ok value → Phased acts context (rest value)) :
    Phased acts context (ExceptT.mk (pure result) >>= rest) := by
  cases result with
  | error e =>
      have hFail : Effect.IsQuiet (.fail e) := (hError e rfl).isLocal
      intro state
      rw [ensures_bind, ensures_result]
      exact .quiet (.stop hFail (.fail e state (hError e rfl).ne_console))
  | ok value => exact hRest value rfl

end Action

end GridAdmin
