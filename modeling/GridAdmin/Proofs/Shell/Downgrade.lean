import GridAdmin.Proofs.Shell.Dispatched
import GridAdmin.Rehearsal

/-!
# The downgrade guard

A change of type takes the type `rodsadmin` away from nobody who has it.  Before
such a change is sent, the name is resolved to a name and a zone, the service is
asked for everybody who is a `rodsadmin`, and the verdict is read off its answer.

The guard fails closed: a malformed name, a local zone that cannot be looked up,
a query that fails in any way and a listed user all end the command before
anything is sent, and each of them records a failure.

`Resolves` and `Guarded` are the traces of the two steps of the guard, one case
for each way they can go.  The verdict is a function of the answer.

## Main results

* `Action.ensures_guarded`: the traces of the guard.
* `Guarded.cleared`: what is known where the guard lets a change pass.
* `downgrade_failsClosed`: a change of type is sent only when it is cleared, and
  otherwise a failure is recorded.
-/

namespace GridAdmin

open Shell (Event Context State NamesZone)

/-! ## What clears a change of type -/

/-- The zone that a split name means, where `known` is the remembered local zone:
its own zone, or the local zone, remembered or named by the service. -/
def EffectiveZone (known : Option String) (events : List Event) (zone effective : String) :
    Prop :=
  (zone ≠ "" ∧ effective = zone)
    ∨ (zone = "" ∧ (known = some effective ∨ known = none ∧ NamesZone events effective))

/-- A row lists this name and this zone in its first two columns. -/
def Lists (name zone : String) (row : List String) : Prop :=
  row[0]? = some name ∧ row[1]? = some zone

/-- The reply to the query for everybody of type `rodsadmin` clears this user. -/
def ClearingReply (name zone : String) (reply : GeneralReply) : Prop :=
  reply.status = .noRowsFound
    ∨ reply.status.isFailure = false ∧ ∀ row ∈ reply.rows, ¬Lists name zone row

/-- The query for everybody of type `rodsadmin`, as a call. -/
def rodsadminCall : Call :=
  .generalQuery Action.rodsadminQuery none

/-- In these events the user that the token names was cleared for a downgrade. -/
def Cleared (known : Option String) (events : List Event) (token : String) : Prop :=
  ∃ name zone effective, splitUserName? token = some (name, zone) ∧
    EffectiveZone known events zone effective ∧
    ∃ pushed reply, (⟨Shell.Query.call rodsadminCall, ⟨pushed, .ok reply⟩⟩ : Event) ∈ events ∧
      ClearingReply name effective reply

private theorem isRowOf_iff {name zone : String} {row : List String} :
    Action.isRowOf name zone row = true ↔ Lists name zone row := by
  unfold Action.isRowOf Lists
  match row with
  | [] => simp
  | [first] => simp
  | first :: second :: rest => simp

theorem EffectiveZone.surround {known : Option String} {events : List Event}
    {zone effective : String} (hZone : EffectiveZone known events zone effective)
    (first last : List Event) : EffectiveZone known (first ++ events ++ last) zone effective := by
  refine hZone.imp_right (And.imp_right (Or.imp_right (And.imp_right fun hNames => ?_)))
  exact hNames.append_right.append_left

theorem Cleared.surround {known : Option String} {events : List Event} {token : String}
    (hCleared : Cleared known events token) (first last : List Event) :
    Cleared known (first ++ events ++ last) token := by
  obtain ⟨name, zone, effective, hSplit, hZone, pushed, reply, hEvent, hReply⟩ := hCleared
  refine ⟨name, zone, effective, hSplit, hZone.surround first last, pushed, reply, ?_, hReply⟩
  exact List.mem_append_left _ (List.mem_append_right _ hEvent)

/-! ## Resolving the name -/

/-- The query for the local zone, as a call. -/
abbrev localZoneCall : Call :=
  .simpleQuery Action.localZoneQuery

/-- All ways in which a token is resolved to a name and a zone. -/
inductive Resolves (token : String) (state : State) :
    List Event → Except ShellError (String × String) → State → Prop where
  | malformed (hSplit : splitUserName? token = none) :
      Resolves token state [] (.error (.invalidArgument .userName)) state
  | qualified {name zone : String} (hSplit : splitUserName? token = some (name, zone))
      (hZone : zone ≠ "") : Resolves token state [] (.ok (name, zone)) state
  | remembered {name zone : String} (hSplit : splitUserName? token = some (name, ""))
      (hKnown : state.localZone = some zone) : Resolves token state [] (.ok (name, zone)) state
  | learned {name : String} {pushed : List Diagnostic} {reply : SimpleReply}
      (hSplit : splitUserName? token = some (name, "")) (hUnknown : state.localZone = none)
      (hReply : reply.status.isFailure = false) :
      Resolves token state [⟨Shell.Query.call localZoneCall, ⟨pushed, .ok reply⟩⟩]
        (.ok (name, Action.zoneOfPage reply.outBuf))
        { state.push pushed with localZone := some (Action.zoneOfPage reply.outBuf) }
  | unanswered {name : String} {pushed : List Diagnostic} {e : ClientError}
      (hSplit : splitUserName? token = some (name, "")) (hUnknown : state.localZone = none) :
      Resolves token state [⟨Shell.Query.call localZoneCall, ⟨pushed, .error e⟩⟩]
        (.error (.client e)) (state.push pushed)
  | failed {name : String} {pushed : List Diagnostic} {reply : SimpleReply}
      (hSplit : splitUserName? token = some (name, "")) (hUnknown : state.localZone = none)
      (hReply : reply.status.isFailure = true) :
      Resolves token state
        ([⟨Shell.Query.call localZoneCall, ⟨pushed, .ok reply⟩⟩]
          ++ Shell.shown [.note "Error getting local zone"])
        (.error (.remoteFailure .localZone reply.status)) (state.push pushed)

namespace Action

variable {context : Context} {state : State}

theorem ensures_resolves {token : String} :
    (resolveUser token).Ensures context state fun events last =>
      ∃ result after, last = some (result, after) ∧ Resolves token state events result after := by
  unfold resolveUser
  cases hSplit : splitUserName? token with
  | none => exact ensures_refuse.mpr ⟨_, _, rfl, .malformed hSplit⟩
  | some user =>
      obtain ⟨name, zone⟩ := user
      by_cases hZone : zone = ""
      · subst hZone
        simp only [if_true]
        rw [ensures_bind]
        cases hKnown : state.localZone with
        | some zone =>
            refine (ensures_localZone_of_known hKnown).mpr (ensures_pure.mpr ?_)
            exact ⟨_, _, rfl, .remembered hSplit hKnown⟩
        | none =>
            rw [ensures_localZone_of_unknown hKnown]
            rintro ⟨pushed, e | reply⟩
            · exact ⟨_, _, rfl, .unanswered hSplit hKnown⟩
            · cases hReply : reply.status.isFailure with
              | true =>
                  simp only [hReply, if_true]
                  exact ⟨_, _, rfl, .failed hSplit hKnown hReply⟩
              | false =>
                  simp only [hReply]
                  exact ensures_pure.mpr ⟨_, _, rfl, .learned hSplit hKnown hReply⟩
      · simp only [hZone, if_false]
        exact ensures_pure.mpr ⟨_, _, rfl, .qualified hSplit hZone⟩

end Action

/-! ## The verdict -/

/-- What the answer to the query for everybody of type `rodsadmin` says about a
user. -/
def downgradeVerdict (name zone : String) :
    Except ClientError GeneralReply → Except ShellError Unit
  | .error e => .error (.client e)
  | .ok reply =>
      if reply.status = .noRowsFound then .ok ()
      else if reply.status.isFailure then .error (.remoteFailure .rodsadmin reply.status)
      else if reply.rows.any (Action.isRowOf name zone) then
        .error (.permissionDenied .adminDowngrade)
      else .ok ()

/-- Exactly a clearing reply lets the change pass. -/
theorem downgradeVerdict_ok_iff {name zone : String}
    {result : Except ClientError GeneralReply} :
    downgradeVerdict name zone result = .ok ()
      ↔ ∃ reply, result = .ok reply ∧ ClearingReply name zone reply := by
  cases result with
  | error e => simp [downgradeVerdict]
  | ok reply =>
      have hAny : reply.rows.any (Action.isRowOf name zone) = true
          ↔ ∃ row ∈ reply.rows, Lists name zone row := by
        simp [List.any_eq_true, isRowOf_iff]
      by_cases hNone : reply.status = .noRowsFound
      · simp [downgradeVerdict, ClearingReply, hNone]
      · cases hFailure : reply.status.isFailure with
        | true => simp [downgradeVerdict, ClearingReply, hNone, hFailure]
        | false =>
            by_cases hListed : ∃ row ∈ reply.rows, Lists name zone row
            · simpa [downgradeVerdict, ClearingReply, hNone, hFailure, hAny.mpr hListed]
                using hListed
            · simpa [downgradeVerdict, ClearingReply, hNone, hFailure, mt hAny.mp hListed]
                using hListed

/-- All ways through the guard. -/
inductive Guarded (token : String) (state : State) :
    List Event → Except ShellError Unit → State → Prop where
  | unresolved {events : List Event} {e : ShellError} {after : State}
      (hResolves : Resolves token state events (.error e) after) :
      Guarded token state events (.error e) after
  | answered {name zone : String} {first : List Event} {middle : State}
      (hResolves : Resolves token state first (.ok (name, zone)) middle)
      (exchange : Exchange rodsadminCall) :
      Guarded token state (first ++ [⟨Shell.Query.call rodsadminCall, exchange⟩])
        (downgradeVerdict name zone exchange.result) (middle.push exchange.pushed)

namespace Action

variable {context : Context} {state : State}

private theorem ensures_verdict {name zone : String} {reply : GeneralReply}
    {post : List Event → Option (Except ShellError Unit × State) → Prop} :
    Ensures (do
        if reply.status = .noRowsFound then return ()
        if reply.status.isFailure then throw (.remoteFailure .rodsadmin reply.status)
        if reply.rows.any (isRowOf name zone) then throw (.permissionDenied .adminDowngrade))
      context state post ↔ post [] (some (downgradeVerdict name zone (.ok reply), state)) := by
  unfold downgradeVerdict
  by_cases hNone : reply.status = .noRowsFound
  · simp [hNone]
  · cases hFailure : reply.status.isFailure with
    | true => simp [hNone, hFailure]
    | false =>
        cases hListed : reply.rows.any (isRowOf name zone) with
        | true => simp [hNone, hFailure, hListed]
        | false => simp [hNone, hFailure, hListed]

theorem ensures_guarded {token : String} :
    (refuseAdminDowngrade token).Ensures context state fun events last =>
      ∃ result after, last = some (result, after) ∧ Guarded token state events result after := by
  unfold refuseAdminDowngrade
  rw [ensures_bind]
  refine ensures_resolves.mono ?_
  rintro first _ ⟨e | ⟨name, zone⟩, middle, rfl, hResolves⟩
  · exact ⟨_, _, rfl, .unresolved hResolves⟩
  · dsimp only
    rw [ensures_bind, ensures_call]
    rintro ⟨pushed, e | reply⟩
    · exact ⟨_, _, rfl, .answered hResolves ⟨pushed, .error e⟩⟩
    · refine ensures_verdict.mpr ⟨_, _, rfl, ?_⟩
      rw [List.append_nil]
      exact .answered hResolves ⟨pushed, .ok reply⟩

end Action

/-! ## What the guard knows -/

/-- No request went through the general call in these events. -/
def NoGeneralAdmin (events : List Event) : Prop :=
  Shell.Asks (fun query => ¬query.IsGeneralAdmin) events

theorem noGeneralAdmin_shown {lines : List Line} : NoGeneralAdmin (Shell.shown lines) :=
  Shell.asks_shown fun line => by
    rintro ⟨request, ⟨⟩⟩

section Guard

variable {token : String} {state after : State} {events : List Event} {e : ShellError}

/-- Resolving a name asks for the local zone and nothing else. -/
theorem Resolves.asks {result : Except ShellError (String × String)}
    (hResolves : Resolves token state events result after) :
    Shell.Asks (fun query => query = .call localZoneCall ∨ ∃ line, query = .print line)
      events := by
  cases hResolves with
  | malformed hSplit => exact Shell.asks_nil
  | qualified hSplit hZone => exact Shell.asks_nil
  | remembered hSplit hKnown => exact Shell.asks_nil
  | learned hSplit hUnknown hReply => exact Shell.asks_singleton (Or.inl rfl)
  | unanswered hSplit hUnknown => exact Shell.asks_singleton (Or.inl rfl)
  | failed hSplit hUnknown hReply =>
      refine Shell.asks_append_iff.mpr ⟨Shell.asks_singleton (Or.inl rfl), ?_⟩
      exact Shell.asks_shown fun line => Or.inr ⟨line, rfl⟩

private theorem Resolves.noGeneralAdmin {result : Except ShellError (String × String)}
    (hResolves : Resolves token state events result after) : NoGeneralAdmin events := by
  refine hResolves.asks.mono ?_
  rintro query (rfl | ⟨line, rfl⟩) ⟨request, ⟨⟩⟩

private theorem Resolves.not_asked {result : Except ShellError (String × String)}
    (hResolves : Resolves token state events result after) {exchange : Exchange rodsadminCall} :
    (⟨Shell.Query.call rodsadminCall, exchange⟩ : Event) ∉ events := by
  intro hEvent
  rcases hResolves.asks _ hEvent with hCall | ⟨line, hPrint⟩
  · cases hCall
  · cases hPrint

/-- The guard itself sends nothing. -/
theorem Guarded.noGeneralAdmin {result : Except ShellError Unit}
    (hGuarded : Guarded token state events result after) : NoGeneralAdmin events := by
  cases hGuarded with
  | unresolved hResolves => exact hResolves.noGeneralAdmin
  | answered hResolves exchange =>
      refine Shell.asks_append_iff.mpr ⟨hResolves.noGeneralAdmin, Shell.asks_singleton ?_⟩
      rintro ⟨request, ⟨⟩⟩

/-- Where the query for everybody of type `rodsadmin` was answered, the guard ended
in the verdict on the user that the token was resolved to. -/
theorem Guarded.verdict_of_mem {result : Except ShellError Unit} {pushed : List Diagnostic}
    {reply : GeneralReply} (hGuarded : Guarded token state events result after)
    (hReply : (⟨Shell.Query.call rodsadminCall, ⟨pushed, .ok reply⟩⟩ : Event) ∈ events) :
    ∃ name zone first rest middle, Resolves token state first (.ok (name, zone)) middle ∧
      events = first ++ rest ∧ result = downgradeVerdict name zone (.ok reply) := by
  cases hGuarded with
  | unresolved hResolves => exact absurd hReply hResolves.not_asked
  | answered hResolves exchange =>
      rcases List.mem_append.mp hReply with hFirst | hLast
      · exact absurd hFirst hResolves.not_asked
      · cases List.mem_singleton.mp hLast
        exact ⟨_, _, _, _, _, hResolves, rfl, rfl⟩

theorem Resolves.effectiveZone {name effective : String}
    (hResolves : Resolves token state events (.ok (name, effective)) after) :
    ∃ zone, splitUserName? token = some (name, zone) ∧
      EffectiveZone state.localZone events zone effective := by
  cases hResolves with
  | qualified hSplit hZone => exact ⟨_, hSplit, Or.inl ⟨hZone, rfl⟩⟩
  | remembered hSplit hKnown => exact ⟨_, hSplit, Or.inr ⟨rfl, Or.inl hKnown⟩⟩
  | learned hSplit hUnknown hReply =>
      refine ⟨_, hSplit, Or.inr ⟨rfl, Or.inr ⟨hUnknown, ?_⟩⟩⟩
      exact ⟨_, _, List.mem_singleton.mpr rfl, hReply, rfl⟩

/-- Where the guard lets a change pass, the user was cleared. -/
theorem Guarded.cleared (hGuarded : Guarded token state events (.ok ()) after) :
    Cleared state.localZone events token := by
  generalize hOk : (.ok () : Except ShellError Unit) = result at hGuarded
  cases hGuarded with
  | unresolved hResolves => cases hOk
  | answered hResolves exchange =>
      obtain ⟨zone, hSplit, hZone⟩ := hResolves.effectiveZone
      obtain ⟨pushed, result⟩ := exchange
      obtain ⟨reply, rfl, hReply⟩ := downgradeVerdict_ok_iff.mp hOk.symm
      refine ⟨_, zone, _, hSplit, hZone.surround [] _, pushed, reply, ?_, hReply⟩
      exact List.mem_append_right _ (List.mem_singleton.mpr rfl)

private theorem Resolves.isFailure (hResolves : Resolves token state events (.error e) after) :
    e.status.isFailure = true := by
  cases hResolves with
  | malformed hSplit => rfl
  | unanswered hSplit hUnknown => exact ClientError.status_isFailure _
  | failed hSplit hUnknown hReply => exact hReply

private theorem isFailure_of_verdict {name zone : String} {result : Except ClientError GeneralReply}
    (hVerdict : downgradeVerdict name zone result = .error e) : e.status.isFailure = true := by
  unfold downgradeVerdict at hVerdict
  cases result with
  | error cause =>
      cases hVerdict
      exact cause.status_isFailure
  | ok reply =>
      dsimp only at hVerdict
      split at hVerdict
      · cases hVerdict
      · split at hVerdict
        · cases hVerdict
          assumption
        · split at hVerdict
          · cases hVerdict
            rfl
          · cases hVerdict

/-- Whatever makes the guard end a command is recorded as a failure. -/
private theorem Guarded.isFailure (hGuarded : Guarded token state events (.error e) after) :
    e.status.isFailure = true := by
  generalize hError : (.error e : Except ShellError Unit) = result at hGuarded
  cases hGuarded with
  | unresolved hResolves =>
      cases hError
      exact hResolves.isFailure
  | answered hResolves exchange => exact isFailure_of_verdict hError.symm

end Guard

/-! ## Changes of type -/

/-- The command takes the type `rodsadmin` away, if the user has it. -/
structure Command.ChangesType (command : Command) : Prop where
  verb : command.verb = "moduser"
  option : command.arg 2 = "type"
  value : command.arg 3 ≠ "rodsadmin"

/-- The request of a change of type. -/
def typeRequest (command : Command) : AdminRequest :=
  .ofValues ["modify", "user", command.arg 1, command.arg 2, command.arg 3, command.arg 4,
    command.arg 5, command.arg 6]

/-- All ways in which a change of type can go. -/
inductive TypeChange (settings : Shell.Settings) (command : Command) (state : State) :
    List Event → Option (Outcome × State) → Prop where
  | refused {body : List Event} {e : ShellError} {middle : State}
      (hGuarded : Guarded (command.arg 1) { state with lastStatus := .success } body (.error e)
        middle) :
      TypeChange settings command state
        (Shell.echoed settings command ++ body ++ Shell.shown [Shell.failureLine e])
        (some (Shell.failureOutcome e, { middle with lastStatus := e.status }))
  | sent {body : List Event} {middle after : State}
      (hGuarded : Guarded (command.arg 1) { state with lastStatus := .success } body (.ok ())
        middle)
      (exchange : Exchange (.generalAdmin (typeRequest command))) (lines : List Line) :
      TypeChange settings command state
        (Shell.echoed settings command ++ body
          ++ ⟨Shell.Query.call (.generalAdmin (typeRequest command)), exchange⟩
            :: Shell.shown lines)
        (some (.handled, after))

namespace Action

variable {context : Context} {state : State} {command : Command}

/-- Sending values makes one call and prints the rest. -/
theorem ensures_sendValues {values : List String} :
    (sendValues values).Ensures context state fun events last =>
      ∃ exchange lines after,
        events = ⟨Shell.Query.call (.generalAdmin (.ofValues values)), exchange⟩
          :: Shell.shown lines ∧ last = some (.ok (), after) := by
  unfold sendValues
  rw [ensures_bind, ensures_lift]
  refine Shell.ensures_invoke fun events status after hSent => ensures_pure.mpr ?_
  rw [List.append_nil]
  cases hSent with
  | once exchange hOnce => exact ⟨exchange, _, _, rfl, rfl⟩
  | again pushed exchange hFallback => cases hFallback

/-- The change is sent behind the guard, or not at all. -/
private theorem ensures_modifyUser_type (hOption : command.arg 2 = "type")
    (hValue : command.arg 3 ≠ "rodsadmin") :
    (modifyUser command).Ensures context state fun events last =>
      (∃ e after, last = some (.error e, after) ∧
        Guarded (command.arg 1) state events (.error e) after) ∨
      ∃ body middle exchange lines after, last = some (.ok (), after) ∧
        Guarded (command.arg 1) state body (.ok ()) middle ∧
        events = body ++ ⟨Shell.Query.call (.generalAdmin (typeRequest command)), exchange⟩
          :: Shell.shown lines := by
  have hPassword : ¬command.arg 2 = "password" := by
    rw [hOption]
    decide
  have hType : command.arg 2 = "type" ∧ command.arg 3 ≠ "rodsadmin" := ⟨hOption, hValue⟩
  have hBody : modifyUser command = (refuseAdminDowngrade (command.arg 1) >>= fun _ =>
      sendValues ["modify", "user", command.arg 1, command.arg 2, command.arg 3,
        command.arg 4, command.arg 5, command.arg 6]) := by
    unfold modifyUser
    dsimp only
    rw [if_neg hPassword, if_pos hType]
    simp only [pure_bind]
  rw [hBody, ensures_bind]
  refine ensures_guarded.mono ?_
  rintro body _ ⟨e | ⟨⟩, middle, rfl, hGuarded⟩
  · exact Or.inl ⟨e, middle, rfl, hGuarded⟩
  · refine ensures_sendValues.mono ?_
    rintro more last ⟨exchange, lines, after, rfl, rfl⟩
    exact Or.inr ⟨body, middle, exchange, lines, after, rfl, hGuarded, rfl⟩

end Action

theorem handler?_moduser : Verb.handler? "moduser" = some (.change .modifyUser) := by
  decide +kernel

section Dispatch

variable {context : Context} {state : State} {command : Command} {events : List Event}
  {ended? : Option (Outcome × State)}

/-- A dispatched change of type goes one of these ways, and it always ends. -/
theorem Command.ChangesType.typeChange (hChange : command.ChangesType)
    (hTrace : Shell.DispatchTrace context state command events ended?) :
    TypeChange context.settings command state events ended? := by
  have hHandler : Verb.handler? command.verb = some (.change .modifyUser) := by
    rw [hChange.verb]
    exact handler?_moduser
  obtain ⟨body, last, hBody, rfl, rfl⟩ := hTrace.of_handler hHandler nofun
  rcases Action.ensures_modifyUser_type hChange.option hChange.value _ _ hBody with
    ⟨e, middle, rfl, hGuarded⟩ | ⟨guarded, middle, exchange, lines, after, rfl, hGuarded, rfl⟩
  · exact .refused hGuarded
  · rw [← List.append_assoc, Shell.reportOf, List.append_nil]
    exact .sent hGuarded exchange lines

theorem noGeneralAdmin_echoed {settings : Shell.Settings} :
    NoGeneralAdmin (Shell.echoed settings command) :=
  Shell.asks_echoed fun line => by
    rintro ⟨request, ⟨⟩⟩

/-- A refused change of type sends nothing. -/
theorem Guarded.noGeneralAdmin_refused {token : String} {settings : Shell.Settings}
    {body : List Event} {e : ShellError} {middle : State}
    (hGuarded : Guarded token state body (.error e) middle) :
    NoGeneralAdmin
      (Shell.echoed settings command ++ body ++ Shell.shown [Shell.failureLine e]) :=
  Shell.asks_append_iff.mpr
    ⟨Shell.asks_append_iff.mpr ⟨noGeneralAdmin_echoed, hGuarded.noGeneralAdmin⟩,
      noGeneralAdmin_shown⟩

/-- A change of type is sent only behind events that clear the user. -/
private theorem TypeChange.cleared_before {settings : Shell.Settings}
    (hChange : TypeChange settings command state events ended?) {before after : List Event}
    {request : AdminRequest} {exchange : Exchange (.generalAdmin request)}
    (hEvents : events = before ++ ⟨Shell.Query.call (.generalAdmin request), exchange⟩ :: after) :
    Cleared state.localZone before (command.arg 1) := by
  cases hChange with
  | refused hGuarded =>
      have hEvent := hGuarded.noGeneralAdmin_refused
        ⟨Shell.Query.call (.generalAdmin request), exchange⟩ (by rw [hEvents]; simp)
      exact absurd ⟨request, rfl⟩ hEvent
  | @sent body guarded last hGuarded answered lines =>
      have hFirst : NoGeneralAdmin (Shell.echoed settings command ++ body) :=
        Shell.asks_append_iff.mpr ⟨noGeneralAdmin_echoed, hGuarded.noGeneralAdmin⟩
      obtain ⟨middle, rfl, -⟩ := Shell.split_behind hFirst ⟨request, rfl⟩ hEvents
      exact hGuarded.cleared.surround _ middle

/-- The downgrade guard fails closed. Whatever the state and the surroundings are,
a change of type to anything but `rodsadmin` is sent only behind events that clear
the user; and where the user is not cleared, nothing is sent, the command ends, and
a failure is recorded. -/
theorem downgrade_failsClosed (hChange : command.ChangesType)
    (hTrace : Proc.Trace (Shell.toProc (Shell.dispatch command) context state) events ended?) :
    (∀ before after request exchange,
        events = before ++ ⟨Shell.Query.call (.generalAdmin request), exchange⟩ :: after →
          Cleared state.localZone before (command.arg 1))
      ∧ (¬Cleared state.localZone events (command.arg 1) →
          NoGeneralAdmin events ∧ ∃ outcome after, ended? = some (outcome, after) ∧
            after.lastStatus.isFailure = true) := by
  have hType := hChange.typeChange (Shell.dispatchTrace_of_trace hTrace)
  refine ⟨fun before after request exchange hEvents => hType.cleared_before hEvents, ?_⟩
  intro hNotCleared
  cases hType with
  | refused hGuarded => exact ⟨hGuarded.noGeneralAdmin_refused, _, _, rfl, hGuarded.isFailure⟩
  | sent hGuarded exchange lines => exact absurd (hGuarded.cleared.surround _ _) hNotCleared

/-- An unlisted user is cleared, and for a malformed name nothing is sent. -/
theorem cleared_of_unlisted :
    Cleared none
        [⟨Shell.Query.call localZoneCall, ⟨[], .ok ⟨.success, "tempZone\n", 0⟩⟩⟩,
          ⟨Shell.Query.call rodsadminCall, ⟨[], .ok ⟨.success, [["rods", "tempZone"]]⟩⟩⟩]
        "ops"
      ∧ NoGeneralAdmin
        [⟨Shell.Query.print (.commandFailed (.invalidArgument .userName)), ()⟩] := by
  have hOps : (Command.ofWords ["moduser", "ops", "type", "rodsuser"]).ChangesType :=
    ⟨rfl, rfl, by decide⟩
  have hMalformed : (Command.ofWords ["moduser", "a#b#c", "type", "rodsuser"]).ChangesType :=
    ⟨rfl, rfl, by decide⟩
  have hTrace := fun command => Proc.trace_run Rehearsal.handler
    (Shell.toProc (Shell.dispatch command)
      { settings := { zone := "tempZone" }, user := ⟨"rods", "tempZone"⟩, fuel := 1 }
      State.initial)
    { terminal := {}
      service :=
        { simpleQuery := Script.push [] "zone_type_name"
            { reply := some ⟨.success, "tempZone\n", 0⟩ }
          generalQuery := Script.push [] "USER_TYPE = 'rodsadmin'"
            { reply := some ⟨.success, [["rods", "tempZone"]]⟩ } } }
  constructor
  · exact (downgrade_failsClosed hOps (hTrace _)).1
      [⟨Shell.Query.call localZoneCall, ⟨[], .ok ⟨.success, "tempZone\n", 0⟩⟩⟩,
        ⟨Shell.Query.call rodsadminCall, ⟨[], .ok ⟨.success, [["rods", "tempZone"]]⟩⟩⟩]
      [] (typeRequest (.ofWords ["moduser", "ops", "type", "rodsuser"])) ⟨[], .ok .success⟩ rfl
  · refine ((downgrade_failsClosed hMalformed (hTrace _)).2 ?_).1
    rintro ⟨name, zone, effective, hSplit, -⟩
    cases hSplit

end Dispatch

end GridAdmin
