import GridAdmin.Proofs.Shell.Dispatched
import GridAdmin.Rehearsal

/-!
# At most one request a command

An administrative request changes the catalog, so a command that sent its request twice
would apply its change twice.  No command does: an execution makes no administrative
call at all, or one, or the general call and the user call for the same request with
nothing in between.  The second call is made exactly where the first was refused
outright and the verb falls back.

What the request is, slot by slot, is known for the verbs with a template.

## Main definitions

* `Shell.callsIn`: the calls among some events.
* `Shell.Traffic`: the administrative calls of an execution.

## Main results

* `DispatchTrace.traffic`: every command has such traffic.
* `ensures_sendTemplate`: a template sends its request and nothing else.
* `single_request`: all about the administrative calls of a command.
-/

namespace GridAdmin

/-! ## Calls -/

def Call.isGeneralAdmin : Call → Bool
  | .generalAdmin _ => true
  | .userAdmin _ | .simpleQuery _ | .generalQuery _ _ | .modifyReplica _ | .gridConfiguration _ _
  | .disconnect => false

def Call.isUserAdmin : Call → Bool
  | .userAdmin _ => true
  | .generalAdmin _ | .simpleQuery _ | .generalQuery _ _ | .modifyReplica _
  | .gridConfiguration _ _ | .disconnect => false

private theorem Call.IsLookUp.not_admin {c : Call} (hLookUp : c.IsLookUp) :
    c.isGeneralAdmin = false ∧ c.isUserAdmin = false := by
  cases c with
  | generalAdmin request => exact hLookUp.elim
  | userAdmin request => exact hLookUp.elim
  | _ => exact ⟨rfl, rfl⟩

/-- The handler sends its request a second time where the first was refused outright. -/
def Handler.fallsBack : Handler → Bool
  | .proxied template => template.fallback
  | .help | .quit | .listing _ | .offline _ | .replica _ | .change _ | .deprecated => false

/-- The two verbs that fall back, and no others. -/
private theorem Verb.fallsBack_iff {verb : String} :
    (∃ handler, Verb.handler? verb = some handler ∧ handler.fallsBack = true)
      ↔ verb = "atg" ∨ verb = "rfg" := by
  constructor
  · rintro ⟨handler, hHandler, hFallsBack⟩
    have hTable : ∀ entry ∈ Verb.table, entry.2.fallsBack = true →
        entry.1 = "atg" ∨ entry.1 = "rfg" := by
      decide +kernel
    exact hTable _ (Verb.mem_table_of_handler? hHandler) hFallsBack
  · rintro (rfl | rfl)
    · exact (Option.any_eq_true Handler.fallsBack _).mp (by decide +kernel)
    · exact (Option.any_eq_true Handler.fallsBack _).mp (by decide +kernel)

/-- How a request is sent is a matter of the handler. -/
private theorem Handler.Acts.fallback_eq {settings : Shell.Settings} {command : Command}
    {before : List Shell.Event} {handler : Handler} {request : AdminRequest}
    {options : SendOptions} {settle : Status → Status}
    (hActs : handler.Acts settings command before (.send request options settle)) :
    options.fallback = handler.fallsBack := by
  cases hActs with
  | template template => rfl
  | resourceTypes => rfl
  | @change kind request hRequest => cases kind <;> rfl

namespace Shell

/-- The call that an event is. -/
def callOf (event : Event) : Option Call :=
  match event.query with
  | .call c => some c
  | .print _ | .readLine _ | .readSecret _ | .clock => none

/-- The calls among these events, in order. -/
def callsIn (events : List Event) : List Call :=
  events.filterMap callOf

/-- The question is no administrative call. -/
def Query.IsNoAdmin (query : Query) : Prop :=
  ∀ c, query = .call c → c.isGeneralAdmin = false ∧ c.isUserAdmin = false

/-- No administrative call was made. -/
abbrev NoAdmin (events : List Event) : Prop :=
  Asks Query.IsNoAdmin events

section Calls

variable {events first rest : List Event}

theorem callsIn_append : callsIn (first ++ rest) = callsIn first ++ callsIn rest :=
  List.filterMap_append

theorem callsIn_cons_call {c : Call} {exchange : Exchange c} :
    callsIn (⟨Query.call c, exchange⟩ :: rest) = c :: callsIn rest := rfl

theorem callsIn_of_noCall (hNoCall : NoCall events) : callsIn events = [] := by
  refine List.filterMap_eq_nil_iff.mpr fun event hEvent => ?_
  have hQuery := hNoCall event hEvent
  obtain ⟨query, answer⟩ := event
  cases query with
  | call c => exact absurd rfl (hQuery c)
  | _ => rfl

theorem mem_callsIn_iff {c : Call} :
    c ∈ callsIn events ↔ ∃ exchange : Exchange c, (⟨Query.call c, exchange⟩ : Event) ∈ events := by
  unfold callsIn
  rw [List.mem_filterMap]
  constructor
  · rintro ⟨⟨query, answer⟩, hEvent, hCall⟩
    cases query with
    | call other =>
        cases hCall
        exact ⟨answer, hEvent⟩
    | _ => cases hCall
  · rintro ⟨exchange, hEvent⟩
    exact ⟨_, hEvent, rfl⟩

/-- Nothing is called in the echo and in the report of a dispatch. -/
theorem callsIn_dispatched {settings : Settings} {command : Command}
    {last : Option (Except ShellError Unit × State)} :
    callsIn (echoed settings command ++ events ++ reportOf last) = callsIn events := by
  rw [callsIn_append, callsIn_append, callsIn_of_noCall noCall_echoed,
    callsIn_of_noCall noCall_reportOf, List.nil_append, List.append_nil]

/-- What is called in a dispatch is called by its handler. -/
theorem mem_dispatched_call {settings : Settings} {command : Command}
    {last : Option (Except ShellError Unit × State)} {c : Call} {exchange : Exchange c} :
    (⟨Query.call c, exchange⟩ : Event) ∈ echoed settings command ++ events ++ reportOf last
      ↔ (⟨Query.call c, exchange⟩ : Event) ∈ events := by
  have hEcho : (⟨Query.call c, exchange⟩ : Event) ∉ echoed settings command :=
    fun hEvent => noCall_echoed _ hEvent c rfl
  have hReport : (⟨Query.call c, exchange⟩ : Event) ∉ reportOf last :=
    fun hEvent => noCall_reportOf _ hEvent c rfl
  rw [List.mem_append, List.mem_append, or_iff_left hReport, or_iff_right hEcho]

theorem NoCall.noAdmin (hNoCall : NoCall events) : NoAdmin events :=
  hNoCall.mono fun _ hQuery c hCall => absurd hCall (hQuery c)

private theorem countP_callsIn_of_noAdmin (hNoAdmin : NoAdmin events) :
    (callsIn events).countP Call.isGeneralAdmin = 0 ∧
      (callsIn events).countP Call.isUserAdmin = 0 := by
  have hCalls : ∀ c ∈ callsIn events, c.isGeneralAdmin = false ∧ c.isUserAdmin = false := by
    intro c hCall
    obtain ⟨⟨query, answer⟩, hEvent, hQuery⟩ := List.mem_filterMap.mp hCall
    cases query with
    | call other =>
        cases hQuery
        exact hNoAdmin _ hEvent c rfl
    | _ => cases hQuery
  simp only [List.countP_eq_zero, Bool.not_eq_true]
  exact ⟨fun c hCall => (hCalls c hCall).1, fun c hCall => (hCalls c hCall).2⟩

end Calls

/-! ## Traffic -/

/-- The administrative calls of an execution that may do these acts. -/
inductive Traffic (acts : Act → Prop) : List Event → Prop where
  | silent {events : List Event} (hNone : NoAdmin events) : Traffic acts events
  | once {request : AdminRequest} {options : SendOptions} {settle : Status → Status}
      {first rest : List Event} (exchange : Exchange (.generalAdmin request))
      (hAct : acts (.send request options settle)) (hFirst : NoAdmin first) (hRest : NoAdmin rest)
      (hOnce : ¬(options.fallback = true ∧ exchange.result = .ok .noApiPrivilege)) :
      Traffic acts (first ++ ⟨Query.call (.generalAdmin request), exchange⟩ :: rest)
  | again {request : AdminRequest} {options : SendOptions} {settle : Status → Status}
      {first rest : List Event} (pushed : List Diagnostic)
      (exchange : Exchange (.userAdmin request)) (hAct : acts (.send request options settle))
      (hFallback : options.fallback = true) (hFirst : NoAdmin first) (hRest : NoAdmin rest) :
      Traffic acts (first ++ ⟨Query.call (.generalAdmin request), ⟨pushed, .ok .noApiPrivilege⟩⟩
        :: ⟨Query.call (.userAdmin request), exchange⟩ :: rest)

section Traffic

variable {acts : Act → Prop} {events first rest : List Event} {state : State} {ending : Ending}

theorem Traffic.surround (hTraffic : Traffic acts events) (hFirst : NoAdmin first)
    (hRest : NoAdmin rest) : Traffic acts (first ++ events ++ rest) := by
  cases hTraffic with
  | silent hNone =>
      exact .silent (asks_append_iff.mpr ⟨asks_append_iff.mpr ⟨hFirst, hNone⟩, hRest⟩)
  | once exchange hAct hBefore hBehind hOnce =>
      rw [← List.append_assoc, List.append_assoc (first ++ _)]
      exact .once exchange hAct (asks_append_iff.mpr ⟨hFirst, hBefore⟩)
        (asks_append_iff.mpr ⟨hBehind, hRest⟩) hOnce
  | again pushed exchange hAct hFallback hBefore hBehind =>
      rw [← List.append_assoc, List.append_assoc (first ++ _)]
      exact .again pushed exchange hAct hFallback (asks_append_iff.mpr ⟨hFirst, hBefore⟩)
        (asks_append_iff.mpr ⟨hBehind, hRest⟩)

theorem Traffic.mono {wider : Act → Prop} (hTraffic : Traffic acts events)
    (hWider : ∀ act, acts act → wider act) : Traffic wider events := by
  cases hTraffic with
  | silent hNone => exact .silent hNone
  | once exchange hAct hFirst hRest hOnce =>
      exact .once exchange (hWider _ hAct) hFirst hRest hOnce
  | again pushed exchange hAct hFallback hFirst hRest =>
      exact .again pushed exchange (hWider _ hAct) hFallback hFirst hRest

theorem noAdmin_shown {lines : List Line} : NoAdmin (shown lines) :=
  noCall_shown.noAdmin

theorem Sent.traffic {request : AdminRequest} {options : SendOptions} {settle : Status → Status}
    {status : Status} {after : State} (hSent : Sent request options state events status after)
    (hAct : acts (.send request options settle)) : Traffic acts events := by
  cases hSent with
  | once exchange hOnce => exact .once exchange hAct asks_nil noAdmin_shown hOnce
  | again pushed exchange hFallback =>
      exact .again pushed exchange hAct hFallback asks_nil noAdmin_shown

theorem isNoAdmin_update {update : ReplicaUpdate} :
    Query.IsNoAdmin (.call (.modifyReplica update)) := by
  rintro c ⟨⟩
  exact ⟨rfl, rfl⟩

theorem Conclusion.traffic (hConclusion : Conclusion acts state events ending) :
    Traffic acts events := by
  cases hConclusion with
  | sent hAct hSent hPlain => exact (hSent.traffic hAct).surround asks_nil noAdmin_shown
  | updated hAct pushed => exact .silent (asks_singleton isNoAdmin_update)
  | rejected hAct pushed hStatus =>
      exact .silent (asks_append_iff.mpr ⟨asks_singleton isNoAdmin_update, noAdmin_shown⟩)
  | unanswered hAct pushed e => exact .silent (asks_singleton isNoAdmin_update)

/-- Inquiries are look-ups and nothing else. -/
theorem Path.noAdmin {user : UserIdentity} {lookUps : Call → Prop}
    (hPath : Path (Effect.IsInquiry user lookUps) state events ending) : NoAdmin events := by
  refine hPath.inquiry.1.mono ?_
  rintro _ hQuery c rfl
  exact hQuery.2.not_admin

theorem Remote.traffic {user : UserIdentity} (hRemote : Remote user acts state events ending) :
    Traffic acts events := by
  cases hRemote with
  | asked hPath => exact .silent hPath.noAdmin
  | concluded hFirst hRest =>
      have hAll := hRest.traffic.surround hFirst.noAdmin asks_nil
      rw [List.append_nil] at hAll
      exact hAll

end Traffic

/-- The administrative calls of a command are those of its handler's acts. -/
theorem Phases.traffic {user : UserIdentity} {acts : List Event → Act → Prop} {state : State}
    {events : List Event} {ending : Ending} (hPhases : Phases user acts state events ending) :
    Traffic (fun act => ∃ before, acts before act) events := by
  cases hPhases with
  | quiet hPath => exact .silent hPath.quiet.1.noAdmin
  | remote hFirst hRest =>
      have hAll := hRest.traffic.surround hFirst.quiet.1.noAdmin asks_nil
      rw [List.append_nil] at hAll
      exact hAll.mono fun act hAct => ⟨_, hAct⟩

variable {context : Context} {state : State} {command : Command} {events : List Event}
  {ended? : Option (Outcome × State)}

/-- What the handler of this verb may do. -/
def MayDo (settings : Settings) (command : Command) (act : Act) : Prop :=
  ∃ handler before, Verb.handler? command.verb = some handler ∧
    handler.Acts settings command before act

theorem DispatchTrace.traffic (hTrace : DispatchTrace context state command events ended?) :
    Traffic (MayDo context.settings command) events := by
  rcases hTrace.phases with hNoCall | ⟨handler, body, lines, ending, hHandler, hBody, hPhases⟩
  · exact .silent hNoCall.noAdmin
  · rw [hBody]
    refine (hPhases.traffic.mono ?_).surround noCall_echoed.noAdmin noAdmin_shown
    rintro act ⟨before, -, hAct⟩
    exact ⟨handler, before, hHandler, hAct⟩

/-- A request may be sent twice for the verbs that fall back only. -/
private theorem MayDo.fallback_iff {settings : Settings} {request : AdminRequest}
    {options : SendOptions}
    {settle : Status → Status} (hAct : MayDo settings command (.send request options settle)) :
    options.fallback = true ↔ command.verb = "atg" ∨ command.verb = "rfg" := by
  obtain ⟨handler, before, hHandler, hActs⟩ := hAct
  rw [hActs.fallback_eq, ← Verb.fallsBack_iff]
  constructor
  · exact fun hFallsBack => ⟨handler, hHandler, hFallsBack⟩
  · rintro ⟨other, hOther, hFallsBack⟩
    cases hHandler.symm.trans hOther
    exact hFallsBack

/-! ## Consequences of the traffic -/

section Consequences

variable {acts : Act → Prop}

private theorem Traffic.countP_le_one (hTraffic : Traffic acts events) :
    (callsIn events).countP Call.isGeneralAdmin ≤ 1 ∧
      (callsIn events).countP Call.isUserAdmin ≤ 1 := by
  cases hTraffic with
  | silent hNone =>
      obtain ⟨hGeneral, hUser⟩ := countP_callsIn_of_noAdmin hNone
      omega
  | once exchange hAct hFirst hRest hOnce =>
      simp [callsIn_append, callsIn_cons_call, List.countP_cons, countP_callsIn_of_noAdmin hFirst,
        countP_callsIn_of_noAdmin hRest, Call.isGeneralAdmin, Call.isUserAdmin]
  | again pushed exchange hAct hFallback hFirst hRest =>
      simp [callsIn_append, callsIn_cons_call, List.countP_cons, countP_callsIn_of_noAdmin hFirst,
        countP_callsIn_of_noAdmin hRest, Call.isGeneralAdmin, Call.isUserAdmin]

/-- An event of a kind that is in no other place. -/
theorem eq_of_only {kind : Query → Prop} {first rest before after : List Event}
    {event other : Event} (hFirst : Asks (fun query => ¬kind query) first)
    (hRest : Asks (fun query => ¬kind query) rest) (hKind : kind other.query)
    (hEvents : first ++ event :: rest = before ++ other :: after) :
    before = first ∧ other = event ∧ after = rest := by
  obtain ⟨middle, hBefore, hTail⟩ := split_behind hFirst hKind hEvents
  cases middle with
  | nil =>
      obtain ⟨rfl, rfl⟩ := List.cons.inj hTail
      exact ⟨hBefore.trans (List.append_nil _), rfl, rfl⟩
  | cons head tail =>
      obtain ⟨-, rfl⟩ := List.cons.inj hTail
      exact absurd hKind (hRest other (by simp))

private theorem NoAdmin.not_isGeneralAdmin (hNoAdmin : NoAdmin events) :
    Asks (fun query => ¬query.IsGeneralAdmin) events := by
  rintro event hEvent ⟨request, hCall⟩
  cases (hNoAdmin event hEvent _ hCall).1

private theorem NoAdmin.not_isUserAdmin (hNoAdmin : NoAdmin events) :
    Asks (fun query => ¬query.IsUserAdmin) events := by
  rintro event hEvent ⟨request, hCall⟩
  cases (hNoAdmin event hEvent _ hCall).2

/-- In front of a user call the same request was refused, and it is one that falls
back. -/
private theorem Traffic.before_userAdmin (hTraffic : Traffic acts events) {request : AdminRequest}
    {exchange : Exchange (.userAdmin request)} {before after : List Event}
    (hEvents : events = before ++ ⟨Query.call (.userAdmin request), exchange⟩ :: after) :
    (∃ options settle, acts (.send request options settle) ∧ options.fallback = true) ∧
      ∃ earlier pushed, before = earlier ++
        [⟨Query.call (.generalAdmin request), ⟨pushed, .ok .noApiPrivilege⟩⟩] := by
  have hUser : Query.IsUserAdmin (.call (.userAdmin request)) := ⟨request, rfl⟩
  have hGeneral : ∀ other, ¬Query.IsUserAdmin (.call (.generalAdmin other)) := by
    rintro other ⟨again, hCall⟩
    cases hCall
  have hMem : (⟨Query.call (.userAdmin request), exchange⟩ : Event) ∈ events := by
    rw [hEvents]
    simp
  cases hTraffic with
  | silent hNone => exact absurd hUser (hNone.not_isUserAdmin _ hMem)
  | @once own options settle first rest answered hAct hFirst hRest hOnce =>
      have hNone : Asks (fun query => ¬query.IsUserAdmin)
          (first ++ ⟨Query.call (.generalAdmin own), answered⟩ :: rest) :=
        asks_append_iff.mpr ⟨hFirst.not_isUserAdmin,
          asks_cons_iff.mpr ⟨hGeneral own, hRest.not_isUserAdmin⟩⟩
      exact absurd hUser (hNone _ hMem)
  | @again own options settle first rest pushed answered hAct hFallback hFirst hRest =>
      have hFront : Asks (fun query => ¬query.IsUserAdmin)
          (first ++ [⟨Query.call (.generalAdmin own), ⟨pushed, .ok .noApiPrivilege⟩⟩]) :=
        asks_append_iff.mpr ⟨hFirst.not_isUserAdmin, asks_singleton (hGeneral own)⟩
      rw [List.append_cons] at hEvents
      obtain ⟨rfl, hSame, -⟩ := eq_of_only hFront hRest.not_isUserAdmin hUser hEvents
      cases hSame
      exact ⟨⟨options, settle, hAct, hFallback⟩, first, pushed, rfl⟩

/-- Behind a refused general call that falls back stands the user call. -/
private theorem Traffic.after_refusal (hTraffic : Traffic acts events) {request : AdminRequest}
    {pushed : List Diagnostic} {before after : List Event}
    (hFallback : ∀ options settle, acts (.send request options settle) → options.fallback = true)
    (hEvents : events = before
      ++ ⟨Query.call (.generalAdmin request), ⟨pushed, .ok .noApiPrivilege⟩⟩ :: after) :
    ∃ exchange rest, after = ⟨Query.call (.userAdmin request), exchange⟩ :: rest := by
  have hGeneral : Query.IsGeneralAdmin (.call (.generalAdmin request)) := ⟨request, rfl⟩
  cases hTraffic with
  | silent hNone =>
      rw [hEvents] at hNone
      exact absurd hGeneral (asks_cons_iff.mp
        (asks_append_iff.mp hNone.not_isGeneralAdmin).2).1
  | once answered hAct hFirst hRest hOnce =>
      obtain ⟨-, hSame, -⟩ :=
        eq_of_only hFirst.not_isGeneralAdmin hRest.not_isGeneralAdmin hGeneral hEvents
      cases hSame
      exact absurd ⟨hFallback _ _ hAct, rfl⟩ hOnce
  | @again own options settle first rest refused answered hAct hAgain hFirst hRest =>
      have hUser : ¬Query.IsGeneralAdmin (.call (.userAdmin own)) := by
        rintro ⟨other, hCall⟩
        cases hCall
      have hBehind : Asks (fun query => ¬query.IsGeneralAdmin)
          (⟨Query.call (.userAdmin own), answered⟩ :: rest) :=
        asks_cons_iff.mpr ⟨hUser, hRest.not_isGeneralAdmin⟩
      obtain ⟨-, hSame, rfl⟩ := eq_of_only hFirst.not_isGeneralAdmin hBehind hGeneral hEvents
      cases hSame
      exact ⟨answered, rest, rfl⟩

end Consequences

/-! ## Templates -/

private theorem Sent.callsIn_eq {request : AdminRequest} {options : SendOptions} {status : Status}
    {after : State} (hSent : Sent request options state events status after) :
    callsIn events = [.generalAdmin request] ∨
      options.fallback = true ∧ callsIn events = [.generalAdmin request, .userAdmin request] := by
  cases hSent with
  | once exchange hOnce =>
      left
      rw [callsIn_cons_call, callsIn_of_noCall noCall_shown]
  | again pushed exchange hFallback =>
      right
      refine ⟨hFallback, ?_⟩
      rw [callsIn_cons_call, callsIn_cons_call, callsIn_of_noCall noCall_shown]

end Shell

/-- The request depends on those tokens only that the template mentions. -/
private theorem Template.render_congr {template : Template} {command other : Command}
    {zone : String}
    (hTokens : ∀ token, Source.token token ∈ template.leading →
      other.arg token = command.arg token) :
    template.render other zone = template.render command zone := by
  unfold render
  refine congrArg AdminRequest.ofValues (List.map_congr_left fun source hSource => ?_)
  cases source with
  | token index => exact hTokens index hSource
  | _ => rfl

/-- A template sends its request, and that is all it does. -/
theorem Action.ensures_sendTemplate {context : Shell.Context} {state : Shell.State}
    {template : Template} {command : Command} :
    (sendTemplate template command).Ensures context state fun events last => ∃ status after,
      Shell.Sent (template.render command context.settings.zone)
        { fallback := template.fallback } state events status after ∧
      last = some (.ok (), after) := by
  unfold sendTemplate
  rw [ensures_bind, ensures_read]
  dsimp only
  rw [ensures_bind, ensures_lift]
  refine Shell.ensures_invoke fun events status after hSent => ensures_pure.mpr ?_
  rw [List.nil_append, List.append_nil]
  exact ⟨status, after, hSent, rfl⟩

namespace Shell

/-- A command whose verb has a template makes the calls of its request, and is handled. -/
private theorem DispatchTrace.template_calls {context : Context} {state : State} {command : Command}
    {events : List Event} {ended? : Option (Outcome × State)} {template : Template}
    (hTrace : DispatchTrace context state command events ended?)
    (hHandler : Verb.handler? command.verb = some (.proxied template)) :
    (callsIn events = [.generalAdmin (template.render command context.settings.zone)] ∨
      template.fallback = true ∧ callsIn events =
        [.generalAdmin (template.render command context.settings.zone),
          .userAdmin (template.render command context.settings.zone)]) ∧
    ∃ after, ended? = some (.handled, after) := by
  obtain ⟨body, last, hBody, rfl, rfl⟩ := hTrace.of_handler hHandler nofun
  obtain ⟨status, after, hSent, rfl⟩ := Action.ensures_sendTemplate body last hBody
  rw [callsIn_dispatched]
  exact ⟨hSent.callsIn_eq, after, rfl⟩

/-! ## All about administrative calls -/

/-- Whatever the command and the surroundings are: there is at most one general call and
at most one user call.  A user call is made for `atg` and `rfg` only, directly behind a
general call with the same slots that was refused outright, and for these verbs every
such refusal is followed by one.  A verb with a template makes its general call, and no
call but that and the one behind a refusal; each slot of the request is what the
template says, and tokens that the template does not mention leave no trace in it. -/
theorem single_request {context : Context} {state : State} {command : Command}
    {events : List Event} {ended? : Option (Outcome × State)}
    (hTrace : Proc.Trace (toProc (dispatch command) context state) events ended?) :
    ((callsIn events).countP Call.isGeneralAdmin ≤ 1 ∧
      (callsIn events).countP Call.isUserAdmin ≤ 1) ∧
    (∀ before request exchange after,
      events = before ++ ⟨Query.call (.userAdmin request), exchange⟩ :: after →
        (command.verb = "atg" ∨ command.verb = "rfg") ∧ ∃ earlier pushed, before = earlier ++
          [⟨Query.call (.generalAdmin request), ⟨pushed, .ok .noApiPrivilege⟩⟩]) ∧
    (command.verb = "atg" ∨ command.verb = "rfg" → ∀ before request pushed after,
      events = before
          ++ ⟨Query.call (.generalAdmin request), ⟨pushed, .ok .noApiPrivilege⟩⟩ :: after →
        ∃ exchange rest, after = ⟨Query.call (.userAdmin request), exchange⟩ :: rest) ∧
    ∀ template, Verb.handler? command.verb = some (.proxied template) → ∃ request,
      (callsIn events = [.generalAdmin request] ∨ template.fallback = true ∧
        callsIn events = [.generalAdmin request, .userAdmin request]) ∧
      (∃ after, ended? = some (.handled, after)) ∧
      (∀ index < AdminRequest.width, Slots.get request index
        = (template.source index).text command context.settings.zone) ∧
      ∀ other : Command, (∀ token, Source.token token ∈ template.leading →
        other.arg token = command.arg token) →
          template.render other context.settings.zone = request := by
  have hDispatch := dispatchTrace_of_trace hTrace
  have hTraffic := hDispatch.traffic
  refine ⟨hTraffic.countP_le_one, ?_, ?_, ?_⟩
  · intro before request exchange after hEvents
    obtain ⟨⟨options, settle, hAct, hFallback⟩, hBefore⟩ := hTraffic.before_userAdmin hEvents
    exact ⟨hAct.fallback_iff.mp hFallback, hBefore⟩
  · intro hVerb before request pushed after hEvents
    exact hTraffic.after_refusal (fun _ _ hAct => hAct.fallback_iff.mpr hVerb) hEvents
  · intro template hHandler
    obtain ⟨hCalls, hHandled⟩ := hDispatch.template_calls hHandler
    refine ⟨_, hCalls, hHandled, ?_, ?_⟩
    · exact fun index hSlot => template.get_render command _ hSlot
    · exact fun other hTokens => Template.render_congr hTokens

/-- A membership that the general call may not add. -/
theorem single_request_of_refusal :
    ∃ request, Slots.get request 2 = "staff" ∧ Slots.get request 4 = "alice" ∧
      (Proc.run Rehearsal.handler
        (toProc (dispatch (.ofWords ["atg", "staff", "alice"]))
          { settings := { zone := "tempZone" }, user := ⟨"rods", "tempZone"⟩, fuel := 1 }
          State.initial)
        { terminal := {}
          service :=
            { generalAdmin := Script.push [] "staff" { reply := some .noApiPrivilege } } }).events
        = [⟨Query.call (.generalAdmin request), ⟨[], .ok .noApiPrivilege⟩⟩,
          ⟨Query.call (.userAdmin request), ⟨[], .ok .success⟩⟩] := by
  have hTrace := Proc.trace_run Rehearsal.handler
    (toProc (dispatch (.ofWords ["atg", "staff", "alice"]))
      { settings := { zone := "tempZone" }, user := ⟨"rods", "tempZone"⟩, fuel := 1 }
      State.initial)
    { terminal := {}
      service := { generalAdmin := Script.push [] "staff" { reply := some .noApiPrivilege } } }
  have hHandler : Verb.handler? (Command.ofWords ["atg", "staff", "alice"]).verb
      = some (.proxied
        { leading := [.literal "modify", .literal "group", .token 1, .literal "add", .token 2,
            .token 3],
          fallback := true }) := by
    decide +kernel
  obtain ⟨request, hCalls, -, hSlots, -⟩ := (single_request hTrace).2.2.2 _ hHandler
  have hRequest : request = .ofValues ["modify", "group", "staff", "add", "alice"] := by
    rcases hCalls with hOnce | ⟨-, hTwice⟩
    · cases hOnce
    · exact (Call.generalAdmin.inj (List.cons.inj hTwice).1).symm
  refine ⟨request, hSlots 2 (by decide), hSlots 4 (by decide), ?_⟩
  rw [hRequest]
  rfl

end Shell

end GridAdmin
