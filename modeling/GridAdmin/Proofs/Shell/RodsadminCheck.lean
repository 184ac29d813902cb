import GridAdmin.Proofs.Shell.Pages

/-!
# Commands for a `rodsadmin` only

The listing of groups and the one of the delay server are for a `rodsadmin`.  The shell does
not leave it to the service to refuse them: it first asks for the type of its own user, and
goes on only if the answer says `rodsadmin` in the first column of its first row.

The answer can go wrong in many ways.  It may not come, it may be a failure, it may hold no
row or a row without columns, and it may say something else.  A failure that only says that
there are no rows is looked at like any other answer, so rows that come with it count.  Each
way to go wrong ends the command with a status of its own, and none of them leads on.

The two commands go on differently behind the check.  What they have in common is `Checked`,
which takes what may follow as a parameter.

## Main definitions

* `Admits`, `Denies`: the answers that lead on, and what is recorded for the others.
* `Shell.Checked`: the ways through a command behind the check.
* `Shell.AsksDelayServer`: the look-ups of the delay server and what is shown of them.
* `Shell.GoesOn`, `Shell.StopsShort`: what a command does behind the check.

## Main results

* `Denies.not_admits`: an answer leads on or it does not.
* `Action.ensures_checked`: what follows the check, for any command behind it.
* `rodsadmin_checked_first`: no connection makes the two commands do anything else.
-/

namespace GridAdmin

/-! ## Answers to the check -/

/-- The query for the type of the session's user, as a call. -/
abbrev userTypeCall (user : UserIdentity) : Call :=
  .generalQuery (Action.userTypeQuery user) none

/-- The reply is no failure, or it only says that there are no rows. -/
def GeneralReply.IsAnswer (reply : GeneralReply) : Prop :=
  reply.status.isFailure = false ∨ reply.status = .noRowsFound

/-- The first column of the first row says this. -/
def GeneralReply.Tells (reply : GeneralReply) (value : String) : Prop :=
  ∃ row, reply.rows[0]? = some row ∧ row[0]? = some value

/-- The answer makes the user a `rodsadmin`. -/
def Admits (result : Except ClientError GeneralReply) : Prop :=
  ∃ reply, result = .ok reply ∧ reply.IsAnswer ∧ reply.Tells "rodsadmin"

/-- The answer does not make the user a `rodsadmin`.  The command ends with this error, and
with this status recorded. -/
inductive Denies : Except ClientError GeneralReply → ShellError → Status → Prop where
  | unanswered (e : ClientError) : Denies (.error e) (.client e) e.status
  | rejected {reply : GeneralReply} (hReply : ¬reply.IsAnswer) :
      Denies (.ok reply) (.remoteFailure .userType reply.status) reply.status
  | untold {reply : GeneralReply} (hReply : reply.IsAnswer) (hNone : ∀ value, ¬reply.Tells value) :
      Denies (.ok reply) (.permissionDenied .unknownUserType) .invalidUserType
  | other {reply : GeneralReply} {value : String} (hReply : reply.IsAnswer)
      (hTells : reply.Tells value) (hOther : value ≠ "rodsadmin") :
      Denies (.ok reply) (.permissionDenied .needsRodsadmin) .insufficientPrivilege

section Answers

variable {reply : GeneralReply} {value other : String} {result : Except ClientError GeneralReply}
  {e : ShellError} {status : Status}

theorem GeneralReply.tells_iff :
    reply.Tells value ↔ reply.rows.head?.bind List.head? = some value := by
  unfold Tells
  rw [Option.bind_eq_some_iff, List.head?_eq_getElem?]
  simp only [List.head?_eq_getElem?]

private theorem GeneralReply.Tells.eq (hTells : reply.Tells value) (hOther : reply.Tells other) :
    value = other := by
  rw [tells_iff] at hTells hOther
  exact Option.some.inj (hTells.symm.trans hOther)

theorem GeneralReply.not_isAnswer_iff :
    ¬reply.IsAnswer ↔ reply.status.isFailure = true ∧ reply.status ≠ .noRowsFound := by
  unfold IsAnswer
  rw [not_or, Bool.not_eq_false]

/-- An answer that denies does not admit. -/
theorem Denies.not_admits (hDenies : Denies result e status) : ¬Admits result := by
  rintro ⟨reply, rfl, hAnswer, hAdmin⟩
  cases hDenies with
  | rejected hReply => exact hReply hAnswer
  | untold hReply hNone => exact hNone _ hAdmin
  | other hReply hTells hOther => exact hOther (hTells.eq hAdmin)

private theorem Denies.isFailure (hDenies : Denies result e status) : status.isFailure = true := by
  cases hDenies with
  | unanswered e => exact e.status_isFailure
  | rejected hReply => exact (GeneralReply.not_isAnswer_iff.mp hReply).1
  | untold hReply hNone => rfl
  | other hReply hTells hOther => rfl

end Answers

/-! ## The check -/

namespace Shell

/-- The ways through a command that checks the type of the user first. -/
inductive Checked (user : UserIdentity)
    (followUp : List Event → Option (Except ShellError Unit × State) → Prop) (state : State) :
    List Event → Option (Except ShellError Unit × State) → Prop where
  | denied (exchange : Exchange (userTypeCall user)) {e : ShellError} {status : Status}
      (hDenies : Denies exchange.result e status) :
      Checked user followUp state [⟨Query.call (userTypeCall user), exchange⟩]
        (some (.error e, state.push exchange.pushed))
  | admitted (exchange : Exchange (userTypeCall user)) (hAdmits : Admits exchange.result)
      {rest : List Event} {last : Option (Except ShellError Unit × State)}
      (hRest : followUp rest last) :
      Checked user followUp state (⟨Query.call (userTypeCall user), exchange⟩ :: rest) last

end Shell

namespace Action

open Shell (Event Context State Checked)

variable {context : Context} {state : State}

/-- The check asks one query, and the answer to it decides how it ends. -/
theorem ensures_requireRodsadmin :
    requireRodsadmin.Ensures context state fun events last =>
      ∃ exchange : Exchange (userTypeCall context.user),
        events = [⟨Shell.Query.call (userTypeCall context.user), exchange⟩] ∧
          (Admits exchange.result ∧ last = some (.ok (), state.push exchange.pushed) ∨
            ∃ e status, Denies exchange.result e status ∧
              last = some (.error e, state.push exchange.pushed)) := by
  unfold requireRodsadmin
  rw [ensures_bind, ensures_read]
  dsimp only
  rw [ensures_bind, ensures_call]
  rintro ⟨pushed, e | reply⟩
  · exact ⟨⟨pushed, .error e⟩, rfl, Or.inr ⟨_, _, .unanswered e, rfl⟩⟩
  refine ensures_ite.mpr ⟨fun hRejected => ?_, fun hKept => ?_⟩
  · refine ensures_bind.mpr (ensures_throw.mpr ?_)
    have hReply := GeneralReply.not_isAnswer_iff.mpr hRejected
    exact ⟨⟨pushed, .ok reply⟩, rfl, Or.inr ⟨_, _, .rejected hReply, rfl⟩⟩
  · have hReply : GeneralReply.IsAnswer reply :=
      Classical.byContradiction fun hRejected => hKept (GeneralReply.not_isAnswer_iff.mp hRejected)
    cases hValue : reply.rows.head?.bind List.head? with
    | none =>
        have hNone : ∀ value, ¬GeneralReply.Tells reply value := by
          intro value hTells
          rw [GeneralReply.tells_iff, hValue] at hTells
          cases hTells
        exact ensures_throw.mpr
          ⟨⟨pushed, .ok reply⟩, rfl, Or.inr ⟨_, _, .untold hReply hNone, rfl⟩⟩
    | some value =>
        have hTells : GeneralReply.Tells reply value := GeneralReply.tells_iff.mpr hValue
        refine ensures_ite.mpr ⟨?_, fun hOther => ?_⟩
        · rintro rfl
          exact ensures_pure.mpr
            ⟨⟨pushed, .ok reply⟩, rfl, Or.inl ⟨⟨reply, rfl, hReply, hTells⟩, rfl⟩⟩
        · exact ensures_throw.mpr
            ⟨⟨pushed, .ok reply⟩, rfl, Or.inr ⟨_, _, .other hReply hTells hOther, rfl⟩⟩

/-- Whatever stands behind the check follows only an answer that admits. -/
theorem ensures_checked {rest : Action Unit}
    {followUp : List Event → Option (Except ShellError Unit × State) → Prop}
    (hRest : ∀ next, rest.Ensures context next followUp) :
    (do requireRodsadmin; rest).Ensures context state
      (Checked context.user followUp state) := by
  rw [ensures_bind]
  refine ensures_requireRodsadmin.mono ?_
  rintro _ _ ⟨exchange, rfl, ⟨hAdmits, rfl⟩ | ⟨e, status, hDenies, rfl⟩⟩
  · exact (hRest _).mono fun more last hMore => .admitted exchange hAdmits hMore
  · exact .denied exchange hDenies

end Action

/-! ## Behind the check -/

/-- The look-up of one option of the delay server. -/
abbrev delayServerCall (option : String) : Call :=
  .gridConfiguration "delay_server" option

/-- The look-up of an option succeeded, with this value. -/
def Finds (result : Except ClientError GridValue) (value : String) : Prop :=
  ∃ answer, result = .ok answer ∧ answer.status.isFailure = false ∧ answer.value = value

/-- What is shown of the delay server. -/
def delayServerText (leader successor : String) : String :=
  (Json.record [("leader", .text leader), ("successor", .text successor)]).indentedText

namespace Shell

/-- The leader is looked up, then the successor if there is a leader, and both are shown if
there is a successor as well.  Otherwise nothing is shown on the plain output. -/
inductive AsksDelayServer : List Event → Prop where
  | leaderless (leader : Exchange (delayServerCall "leader"))
      (hLeader : ∀ value, ¬Finds leader.result value) {lines : List Line}
      (hLines : printedOn .out (shown lines) = []) :
      AsksDelayServer (⟨Query.call (delayServerCall "leader"), leader⟩ :: shown lines)
  | successorless (leader : Exchange (delayServerCall "leader"))
      (successor : Exchange (delayServerCall "successor")) {first : String}
      (hLeader : Finds leader.result first)
      (hSuccessor : ∀ value, ¬Finds successor.result value) {lines : List Line}
      (hLines : printedOn .out (shown lines) = []) :
      AsksDelayServer (⟨Query.call (delayServerCall "leader"), leader⟩
        :: ⟨Query.call (delayServerCall "successor"), successor⟩ :: shown lines)
  | told (leader : Exchange (delayServerCall "leader"))
      (successor : Exchange (delayServerCall "successor")) {first second : String}
      (hLeader : Finds leader.result first) (hSuccessor : Finds successor.result second) :
      AsksDelayServer (⟨Query.call (delayServerCall "leader"), leader⟩
        :: ⟨Query.call (delayServerCall "successor"), successor⟩
        :: shown [.out (delayServerText first second)])

end Shell

namespace Action

open Shell (Event Context State AsksDelayServer callsIn reportOf)

section FollowUps

variable {context : Context} {state : State}

/-- What follows a line that is printed under a condition. -/
theorem ensures_heading {c : Prop} [Decidable c] {line : Line} {rest : Action Unit}
    {post : List Event → Option (Except ShellError Unit × State) → Prop}
    (hRest : ∀ heading, rest.Ensures context state fun more last =>
      post (Shell.shown heading ++ more) last) :
    (if c then (do liftM (Shell.print line); rest) else rest).Ensures context state post := by
  refine ensures_ite.mpr ⟨fun _ => ?_, fun _ => hRest []⟩
  exact ensures_bind.mpr (ensures_lift.mpr (Shell.ensures_print.mpr (hRest [line])))

/-- Groups are asked for with one query, whatever becomes of it. -/
private theorem ensures_listGroups {group : String} :
    (listGroups group).Ensures context state
      (Shell.Checked context.user (fun more last =>
        callsIn (more ++ reportOf last) = [.generalQuery (Listing.groupQuery group) none] ∧
          last.isSome = true) state) := by
  refine ensures_checked fun next => ensures_heading fun heading => ?_
  -- Apart from the query, lines are printed in front of it and behind it.
  have hOnly : ∀ (exchange : Exchange (.generalQuery (Listing.groupQuery group) none))
        (lines : List Line) (last : Option (Except ShellError Unit × State)),
      callsIn (Shell.shown heading
          ++ ⟨Shell.Query.call (.generalQuery (Listing.groupQuery group) none), exchange⟩
            :: Shell.shown lines ++ reportOf last)
        = [.generalQuery (Listing.groupQuery group) none] := by
    intro exchange lines last
    rw [Shell.callsIn_append, Shell.callsIn_append, Shell.callsIn_cons_call, Shell.callsIn_shown,
      Shell.callsIn_shown, Shell.callsIn_of_noCall Shell.noCall_reportOf]
    rfl
  rw [ensures_bind, ensures_call]
  rintro ⟨pushed, e | reply⟩
  · exact ⟨hOnly ⟨pushed, .error e⟩ [] _, rfl⟩
  refine ensures_ite.mpr ⟨fun _ => ?_, fun _ => ensures_ite.mpr ⟨fun _ => ?_, fun _ => ?_⟩⟩
  · refine ensures_lift.mpr (Shell.ensures_print.mpr ?_)
    exact ⟨hOnly ⟨pushed, .ok reply⟩ [.note "No rows found"] _, rfl⟩
  · refine ensures_bind.mpr (ensures_lift.mpr (Shell.ensures_drain.mpr (ensures_throw.mpr ?_)))
    rw [List.append_nil]
    exact ⟨hOnly ⟨pushed, .ok reply⟩ _ _, rfl⟩
  · refine ensures_lift.mpr (Shell.ensures_printAll.mpr ?_)
    exact ⟨hOnly ⟨pushed, .ok reply⟩ _ _, rfl⟩

/-- A look-up of an option ends with its value, or with an error that is reported beside the
output. -/
private theorem ensures_delayServerOption {option : String} :
    (delayServerOption option).Ensures context state fun events last =>
      ∃ exchange : Exchange (delayServerCall option),
        (∃ value, Finds exchange.result value ∧
          events = [⟨Shell.Query.call (delayServerCall option), exchange⟩] ∧
            last = some (.ok value, state.push exchange.pushed)) ∨
        (∀ value, ¬Finds exchange.result value) ∧
          ∃ notes e, Shell.printedOn .out (Shell.shown (notes ++ [.commandFailed e])) = [] ∧
            Shell.failureLine e = .commandFailed e ∧
            events = ⟨Shell.Query.call (delayServerCall option), exchange⟩ :: Shell.shown notes ∧
              last = some (.error e, state.push exchange.pushed) := by
  unfold delayServerOption
  rw [ensures_bind, ensures_call]
  rintro ⟨pushed, e | answer⟩
  · refine ⟨⟨pushed, .error e⟩, Or.inr ⟨?_, [], _, rfl, rfl, rfl, rfl⟩⟩
    rintro value ⟨answer, ⟨⟩, -⟩
  refine ensures_ite.mpr ⟨fun hFailure => ?_, fun hSuccess => ?_⟩
  · refine ensures_bind.mpr (ensures_lift.mpr (Shell.ensures_print.mpr ?_))
    refine ensures_bind.mpr (ensures_throw.mpr ?_)
    refine ⟨⟨pushed, .ok answer⟩, Or.inr ⟨?_, [_], _, rfl, rfl, rfl, rfl⟩⟩
    rintro value ⟨_, ⟨⟩, hFound, -⟩
    rw [hFound] at hFailure
    cases hFailure
  · rw [Bool.not_eq_true] at hSuccess
    refine ensures_pure.mpr ⟨⟨pushed, .ok answer⟩, Or.inl ⟨answer.value, ?_, rfl, rfl⟩⟩
    exact ⟨answer, rfl, hSuccess, rfl⟩

/-- The delay server is looked up in two steps, the second only behind a first that succeeded. -/
private theorem ensures_showDelayServer :
    showDelayServer.Ensures context state
      (Shell.Checked context.user (fun more last =>
        AsksDelayServer (more ++ reportOf last) ∧ last.isSome = true) state) := by
  refine ensures_checked fun next => ?_
  rw [ensures_bind]
  refine ensures_delayServerOption.mono ?_
  rintro _ _ ⟨leader, ⟨first, hLeader, rfl, rfl⟩ | ⟨hLeader, notes, e, hNotes, hReport, rfl, rfl⟩⟩
  · dsimp only
    rw [ensures_bind]
    refine ensures_delayServerOption.mono ?_
    rintro _ _ ⟨successor, ⟨second, hSuccessor, rfl, rfl⟩ |
      ⟨hSuccessor, notes, e, hNotes, hReport, rfl, rfl⟩⟩
    · refine ensures_lift.mpr (Shell.ensures_print.mpr ?_)
      exact ⟨.told leader successor hLeader hSuccessor, rfl⟩
    · have hAsked := AsksDelayServer.successorless leader successor hLeader hSuccessor hNotes
      rw [Shell.shown_append] at hAsked
      exact ⟨by rw [reportOf, hReport]; exact hAsked, rfl⟩
  · have hAsked := AsksDelayServer.leaderless leader hLeader hNotes
    rw [Shell.shown_append] at hAsked
    exact ⟨by rw [reportOf, hReport]; exact hAsked, rfl⟩

end FollowUps

end Action

/-! ## Dispatched commands -/

namespace Shell

/-- What the command does once the user is admitted, behind the query for the type of the
user. -/
structure GoesOn (user : UserIdentity) (command : Command) (rest : List Event) : Prop where
  /-- The query for the type of the user is not made again. -/
  once : userTypeCall user ∉ callsIn rest
  /-- Groups, or the members of one, are asked for with a single query. -/
  groups : command.verb = "lg" →
    callsIn rest = [.generalQuery (Listing.groupQuery (command.arg 1)) none]
  /-- The delay server is looked up in two steps. -/
  delayServer : command.verb = "get_delay_server_info" → AsksDelayServer rest

/-- What the command does if the user is not admitted, behind the query for the type of the
user, and how it ends. -/
structure StopsShort (result : Except ClientError GeneralReply) (rest : List Event)
    (ended? : Option (Outcome × State)) : Prop where
  /-- Nothing more is asked. -/
  calls : callsIn rest = []
  /-- No line of a listing is shown. -/
  printed : printedOn .out rest = []
  /-- A failure is reported and recorded, and it is the one that the answer gives. -/
  recorded : ∃ e status after, Denies result e status ∧ rest = shown [.commandFailed e] ∧
    ended? = some (.handled, after) ∧ after.lastStatus = status ∧ status.isFailure = true

section Dispatches

variable {context : Context} {state : State} {command : Command} {events body : List Event}
  {ended? : Option (Outcome × State)} {user : UserIdentity}
  {last : Option (Except ShellError Unit × State)}
  {followUp : List Event → Option (Except ShellError Unit × State) → Prop}

private theorem Denies.stopsShort {result : Except ClientError GeneralReply} {e : ShellError}
    {status : Status} {after : State} (hDenies : Denies result e status) :
    StopsShort result (reportOf (some (.error e, after))) (endOf (some (.error e, after))) := by
  have hReport : reportOf (some (.error e, after)) = shown [.commandFailed e] ∧
      endOf (some (.error e, after)) = some (.handled, { after with lastStatus := status }) := by
    cases hDenies <;> exact ⟨rfl, rfl⟩
  rw [hReport.1, hReport.2]
  exact {
    calls := callsIn_shown
    printed := rfl
    recorded := ⟨e, status, _, hDenies, rfl, rfl, rfl, hDenies.isFailure⟩ }

/-- The look-ups of the delay server are no general queries. -/
private theorem AsksDelayServer.once (hAsks : AsksDelayServer events) :
    userTypeCall user ∉ callsIn events := by
  cases hAsks with
  | leaderless leader hLeader hLines =>
      rw [callsIn_cons_call, callsIn_shown]
      simp
  | successorless leader successor hLeader hSuccessor hLines =>
      rw [callsIn_cons_call, callsIn_cons_call, callsIn_shown]
      simp
  | told leader successor hLeader hSuccessor =>
      rw [callsIn_cons_call, callsIn_cons_call, callsIn_shown]
      simp

private theorem groupCall_ne_userTypeCall {group : String} :
    userTypeCall user ≠ .generalQuery (Listing.groupQuery group) none := by
  intro hSame
  have hListing := @Listing.groupQuery_isListing user group
  rw [← hSame] at hListing
  simp [Call.isListing] at hListing

/-- A listing that checks first, from its echo to its report. -/
private theorem DispatchTrace.checked {listing : Listing}
    (hTrace : DispatchTrace context state command events ended?)
    (hHandler : Verb.handler? command.verb = some (.listing listing))
    (hChecked : ∀ next, (Action.list listing command).Ensures context next
      (Checked context.user followUp next))
    (hFollow : ∀ more last, followUp more last →
      GoesOn context.user command (more ++ reportOf last) ∧ last.isSome = true) :
    ∃ (exchange : Exchange (userTypeCall context.user)) (rest : List Event),
      events = echoed context.settings command
        ++ ⟨Query.call (userTypeCall context.user), exchange⟩ :: rest ∧
      ended?.isSome = true ∧
      (Admits exchange.result → GoesOn context.user command rest) ∧
      (¬Admits exchange.result → StopsShort exchange.result rest ended?) := by
  obtain ⟨body, last, hBody, rfl, rfl⟩ := hTrace.of_handler hHandler nofun
  rw [List.append_assoc]
  cases hChecked _ body last hBody with
  | denied exchange hDenies =>
      refine ⟨exchange, _, rfl, rfl, fun hAdmits => ?_, fun _ => Denies.stopsShort hDenies⟩
      exact absurd hAdmits hDenies.not_admits
  | admitted exchange hAdmits hRest =>
      obtain ⟨hOn, hEnd⟩ := hFollow _ _ hRest
      refine ⟨exchange, _, rfl, ?_, fun _ => hOn, fun hOther => absurd hAdmits hOther⟩
      rcases last with _ | ⟨e | ⟨⟩, after⟩
      · cases hEnd
      · rfl
      · rfl

end Dispatches

/-- Whatever is configured and answered, the two commands for a `rodsadmin` begin with the one
query for the type of the session's own user.  More is asked only if that query was answered,
without a failure or with the one that says that there are no rows, and the first column of its
first row is `rodsadmin`: the groups with one query, or the leader and then the successor of
the delay server, which are shown if both look-ups succeed.  Otherwise nothing more is asked,
nothing is listed, and the failure that is recorded says which of the ways to go wrong it was. -/
theorem rodsadmin_checked_first {σ : Type} (handler : Proc.Handler interface σ) (surroundings : σ)
    (context : Context) (state : State) (command : Command)
    (hVerb : command.verb = "lg" ∨ command.verb = "get_delay_server_info") :
    let run := (toProc (dispatch command) context state).run handler surroundings
    ∃ (exchange : Exchange (userTypeCall context.user)) (rest : List Event),
      run.events = echoed context.settings command
        ++ ⟨Query.call (userTypeCall context.user), exchange⟩ :: rest ∧
      run.value?.isSome = true ∧
      (Admits exchange.result → GoesOn context.user command rest) ∧
      (¬Admits exchange.result → StopsShort exchange.result rest run.value?) := by
  intro run
  have hTrace := dispatchTrace_run handler surroundings context state command
  rcases hVerb with hVerb | hVerb
  · have hHandler : Verb.handler? command.verb = some (.listing .groups) := by
      rw [hVerb]
      decide +kernel
    refine hTrace.checked hHandler (fun next => Action.ensures_listGroups) ?_
    rintro more last ⟨hCalls, hEnd⟩
    refine ⟨⟨?_, fun _ => hCalls, fun hOther => ?_⟩, hEnd⟩
    · rw [hCalls, List.mem_singleton]
      exact groupCall_ne_userTypeCall
    · rw [hVerb] at hOther
      exact absurd hOther (by decide)
  · have hHandler : Verb.handler? command.verb = some (.listing .delayServer) := by
      rw [hVerb]
      decide +kernel
    refine hTrace.checked hHandler (fun next => Action.ensures_showDelayServer) ?_
    rintro more last ⟨hAsks, hEnd⟩
    refine ⟨⟨hAsks.once, fun hOther => ?_, fun _ => hAsks⟩, hEnd⟩
    rw [hVerb] at hOther
    exact absurd hOther (by decide)

/-! ## An answer without columns -/

namespace EmptyRow

def context : Context :=
  { settings := { zone := "tempZone" }, user := ⟨"ghost", "tempZone"⟩, fuel := 1 }

/-- A service whose first row is empty, and whose second row does not count. -/
def surroundings : Rehearsal where
  terminal := {}
  service :=
    { generalQuery := Script.push [] "USER_TYPE where"
        { reply := some ⟨.success, [[], ["rodsadmin"]]⟩ } }

def run : Proc.Run interface Rehearsal (Outcome × State) :=
  (toProc (dispatch (.ofWords ["lg", "staff"])) context State.initial).run Rehearsal.handler
    surroundings

end EmptyRow

open EmptyRow in
/-- The members of the group are not asked for, and it is recorded that the type is unknown. -/
theorem stopsShort_of_empty_row :
    callsIn run.events = [userTypeCall context.user] ∧
      run.value?.map (fun ended => ended.2.lastStatus) = some .invalidUserType := by
  obtain ⟨exchange, rest, hEvents, -, -, hStops⟩ := rodsadmin_checked_first Rehearsal.handler
    surroundings context State.initial (.ofWords ["lg", "staff"]) (Or.inl rfl)
  have hAsked : run.events.head? = some ⟨.call (userTypeCall context.user),
      ⟨[], .ok ⟨.success, [[], ["rodsadmin"]]⟩⟩⟩ := by
    rfl
  have hRun : run.events = ⟨.call (userTypeCall context.user), exchange⟩ :: rest := hEvents
  rw [hRun] at hAsked
  cases hAsked
  have hCell : ∀ value, ¬GeneralReply.Tells ⟨.success, [[], ["rodsadmin"]]⟩ value := by
    rintro value ⟨row, ⟨⟩, hCell⟩
    cases hCell
  have hStop := hStops fun ⟨_, hReply, _, hAdmin⟩ => by
    cases hReply
    exact hCell _ hAdmin
  obtain ⟨e, status, after, hDenies, -, hEnd, hStatus, -⟩ := hStop.recorded
  constructor
  · rw [hRun, callsIn_cons_call, hStop.calls]
  · have hValue : run.value? = some (.handled, after) := hEnd
    rw [hValue, Option.map_some, hStatus]
    cases hDenies with
    | rejected hReply => exact absurd (Or.inl rfl) hReply
    | untold hReply hNone => rfl
    | other hReply hTells hOther => exact absurd hTells (hCell _)

end Shell

end GridAdmin
