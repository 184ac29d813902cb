import GridAdmin.Proofs.Shell.Effect
import GridAdmin.Shell.Listing

/-!
# The effects that steps and actions use

`Uses allowed` says that all traces of a step or of an action are paths of
allowed effects, from every state.  The rules follow the ways in which actions
are put together, so the effects of a handler are found by going through its
text once.

## Main results

* `Action.uses_bind`: effects of a composed action.
* `Action.ensures_both`: of two actions the second runs whatever becomes of the first.
* `Action.inquires_listing`: a look-up that may be rejected.
* `Action.inquires_runQuery`, `Action.inquires_localZone`: the effects of the look-ups
  that several commands share.
-/

namespace GridAdmin

namespace Shell

/-! ## Steps -/

/-- The ending of a step. -/
def Ending.ofStep {α : Type} : Option (α × State) → Ending
  | some (_, after) => .value after
  | none => .exhausted

/-- All traces are paths of allowed effects. -/
def Uses {α : Type} (allowed : Effect → Prop) (context : Context) (step : Shell α) : Prop :=
  ∀ state, Ensures step context state fun events last =>
    Path allowed state events (.ofStep last)

section Steps

variable {α β : Type} {allowed : Effect → Prop} {context : Context}

theorem uses_pure (value : α) : Uses allowed context (pure value) := by
  intro state
  rw [ensures_pure]
  exact .nil state

theorem uses_bind {step : Shell α} {rest : α → Shell β} (hStep : Uses allowed context step)
    (hRest : ∀ value, Uses allowed context (rest value)) :
    Uses allowed context (step >>= rest) := by
  intro state
  rw [ensures_bind]
  refine (hStep state).mono fun events last hPath => ?_
  rcases last with _ | ⟨value, after⟩
  · exact hPath
  · exact (hRest value after).mono fun more end? hMore => hPath.append hMore

theorem uses_print {line : Line} (hPrint : allowed (.print line)) :
    Uses allowed context (print line) := by
  intro state
  rw [ensures_print]
  exact .stop hPrint (.print line state)

theorem uses_printAll {texts : List String} (hPrint : ∀ text, allowed (.print (.out text))) :
    Uses allowed context (printAll texts) := by
  induction texts with
  | nil => exact uses_pure ()
  | cons text rest ih => exact uses_bind (uses_print (hPrint text)) fun _ => ih

theorem uses_readClock (hRead : allowed .readClock) :
    Uses allowed context (ask .clock) := by
  intro state
  refine (ensures_ask .clock).mpr fun now => ?_
  exact .stop hRead (.readClock now state)

theorem uses_outOfFuel (hStarve : allowed .starve) :
    Uses allowed context (outOfFuel : Shell α) := by
  intro state
  rw [ensures_outOfFuel]
  exact .stop hStarve (.starve state)

end Steps

end Shell

namespace Action

open Shell (Event Context State Effect Ending Path)

/-! ## Actions -/

/-- The ending of an action. -/
def endingOf {α : Type} : Option (Except ShellError α × State) → Ending
  | some (.ok _, after) => .value after
  | some (.error e, after) => .error e after
  | none => .exhausted

/-- All traces are paths of allowed effects. -/
def Uses {α : Type} (allowed : Effect → Prop) (context : Context) (action : Action α) : Prop :=
  ∀ state, action.Ensures context state fun events last =>
    Path allowed state events (endingOf last)

section Actions

variable {α β : Type} {allowed : Effect → Prop} {context : Context}

theorem uses_pure (value : α) : Uses allowed context (pure value) := by
  intro state
  rw [ensures_pure]
  exact .nil state

theorem uses_bind {action : Action α} {rest : α → Action β}
    (hAction : Uses allowed context action) (hRest : ∀ value, Uses allowed context (rest value)) :
    Uses allowed context (action >>= rest) := by
  intro state
  rw [ensures_bind]
  refine (hAction state).mono fun events last hPath => ?_
  rcases last with _ | ⟨e | value, after⟩
  · exact hPath
  · exact hPath
  · exact (hRest value after).mono fun more end? hMore => hPath.append hMore

/-- Reading the context has no effect, so what follows may use what it holds. -/
theorem uses_read_bind {rest : Context → Action β} (hRest : Uses allowed context (rest context)) :
    Uses allowed context (read >>= rest) := by
  intro state
  rw [ensures_bind, ensures_read]
  exact hRest state

theorem uses_map {action : Action α} {f : α → β} (hAction : Uses allowed context action) :
    Uses allowed context (f <$> action) := by
  rw [map_eq_pure_bind]
  exact uses_bind hAction fun value => uses_pure (f value)

theorem uses_lift {step : Shell α} (hStep : Shell.Uses allowed context step) :
    Uses allowed context (liftM step) := by
  intro state
  rw [ensures_lift]
  refine (hStep state).mono fun events last hPath => ?_
  rcases last with _ | ⟨value, after⟩ <;> exact hPath

theorem uses_throw {e : ShellError} (hFail : allowed (.fail e))
    (hRead : ∀ cause, e ≠ .console cause) : Uses allowed context (throw e : Action α) := by
  intro state
  rw [ensures_throw]
  exact .stop hFail (.fail e state hRead)

theorem uses_refuse {fault : ArgumentFault} (hFail : allowed (.fail (.invalidArgument fault))) :
    Uses allowed context (refuse fault : Action α) :=
  uses_throw hFail nofun

theorem uses_readLine {prompt : String} (hRead : allowed (.readLine prompt)) :
    Uses allowed context (readLine prompt) := by
  intro state
  unfold readLine
  rw [ensures_bind, ensures_lift]
  refine (Shell.ensures_ask (.readLine prompt)).mpr fun answer => ?_
  rcases answer with cause | line
  · exact ensures_throw.mpr (.stop hRead (.readLineFailed prompt cause state))
  · exact ensures_pure.mpr (.stop hRead (.readLine prompt line state))

theorem uses_readSecret {prompt : String} (hRead : allowed (.readSecret prompt)) :
    Uses allowed context (readSecret prompt) := by
  intro state
  unfold readSecret
  rw [ensures_bind, ensures_lift]
  refine (Shell.ensures_ask (.readSecret prompt)).mpr fun answer => ?_
  rcases answer with cause | line
  · exact ensures_throw.mpr (.stop hRead (.readSecretFailed prompt cause state))
  · exact ensures_pure.mpr (.stop hRead (.readSecret prompt line state))

theorem uses_ite {c : Prop} [Decidable c] {first second : Action α}
    (hFirst : c → Uses allowed context first) (hSecond : ¬c → Uses allowed context second) :
    Uses allowed context (if c then first else second) := by
  by_cases hc : c
  · rw [if_pos hc]
    exact hFirst hc
  · rw [if_neg hc]
    exact hSecond hc

/-- What follows an `if` without an alternative follows both of its ways. -/
theorem uses_when {c : Prop} [Decidable c] {body : Action α} {rest : Action β}
    (hBody : c → Uses allowed context body) (hRest : Uses allowed context rest) :
    Uses allowed context (if c then (body >>= fun _ => rest) else rest) :=
  uses_ite (fun hc => uses_bind (hBody hc) fun _ => hRest) fun _ => hRest

private theorem path_of_result {state after : State} {events : List Event}
    {result : Except ShellError α}
    (hTerminal : ∀ prompt, ¬allowed (.readLine prompt) ∧ ¬allowed (.readSecret prompt))
    (hPath : Path allowed state events (endingOf (some (result, after)))) :
    Path allowed state events (.value after) ∧
      ∀ e, result = .error e → allowed (.fail e) ∧ ∀ cause, e ≠ .console cause := by
  cases result with
  | ok value => exact ⟨hPath, nofun⟩
  | error e =>
      obtain ⟨hCaught, hFail⟩ := hPath.caught hTerminal
      refine ⟨hCaught, ?_⟩
      rintro _ ⟨⟩
      exact hFail

/-- The error that counts of two actions that both run: the first one. -/
def firstError : Except ShellError Unit → Except ShellError Unit → Except ShellError Unit
  | .error e, _ => .error e
  | .ok (), second => second

private theorem ensures_second {second : Action Unit} {result : Except ShellError Unit}
    {events : List Event} {state : State}
    {post : List Event → Option (Except ShellError Unit × State) → Prop} :
    (do
      let secondResult : Except ShellError Unit ← ExceptT.lift second.run
      match result with
      | .error e => throw e
      | .ok () => ExceptT.mk (pure secondResult) : Action Unit).Ensures context state
        (fun more end? => post (events ++ more) end?)
      ↔ second.Ensures context state fun more end? =>
          post (events ++ more) (end?.map fun ended => (firstError result ended.1, ended.2)) := by
  have hEnd : ∀ secondResult : Except ShellError Unit,
      (match result with
        | .error e => throw e
        | .ok () => ExceptT.mk (pure secondResult) : Action Unit)
      = ExceptT.mk (pure (firstError result secondResult)) := by
    intro secondResult
    cases result <;> rfl
  simp only [hEnd]
  rw [ensures_bind, ensures_capture]
  constructor
  · refine fun hPost => hPost.mono fun more end? hMore => ?_
    rcases end? with _ | ⟨secondResult, after⟩
    · exact hMore
    · simpa using hMore
  · refine fun hPost => hPost.mono fun more end? hMore => ?_
    rcases end? with _ | ⟨secondResult, after⟩
    · exact hMore
    · simpa using hMore

/-- Of two actions, the second runs unless the first is cut off. -/
theorem ensures_both {first second : Action Unit} {state : State}
    {post : List Event → Option (Except ShellError Unit × State) → Prop} :
    (both first second).Ensures context state post
      ↔ first.Ensures context state fun events last =>
          match last with
          | some (result, middle) => second.Ensures context middle fun more end? =>
              post (events ++ more) (end?.map fun ended => (firstError result ended.1, ended.2))
          | none => post events none := by
  unfold both
  rw [ensures_bind, ensures_capture]
  constructor
  · refine fun hPost => hPost.mono fun events last hLast => ?_
    rcases last with _ | ⟨result, middle⟩
    · exact hLast
    · exact ensures_second.mp hLast
  · refine fun hPost => hPost.mono fun events last hLast => ?_
    rcases last with _ | ⟨result, middle⟩
    · exact hLast
    · exact ensures_second.mpr hLast

/-- Both actions run, and an error of the first is only passed on at the end. -/
theorem uses_both {first second : Action Unit}
    (hTerminal : ∀ prompt, ¬allowed (.readLine prompt) ∧ ¬allowed (.readSecret prompt))
    (hFirst : Uses allowed context first) (hSecond : Uses allowed context second) :
    Uses allowed context (both first second) := by
  intro state
  refine ensures_both.mpr ((hFirst state).mono fun events last hFirstPath => ?_)
  rcases last with _ | ⟨firstResult, middle⟩
  · exact hFirstPath
  obtain ⟨hFirstCaught, hFirstError⟩ := path_of_result hTerminal hFirstPath
  refine (hSecond middle).mono fun more end? hSecondPath => ?_
  rcases end? with _ | ⟨secondResult, after⟩
  · exact hFirstCaught.append hSecondPath
  cases firstResult with
  | ok value => exact hFirstCaught.append hSecondPath
  | error e =>
      obtain ⟨hFail, hRead⟩ := hFirstError e rfl
      have hSecondCaught := (path_of_result hTerminal hSecondPath).1
      have hFailed := hSecondCaught.append (.stop hFail (.fail e after hRead))
      rw [List.append_nil] at hFailed
      exact hFirstCaught.append hFailed

end Actions

/-! ## Look-ups -/

section LookUps

variable {α β : Type} {lookUps : Call → Prop} {context : Context}

/-- The effects of a part that looks things up. -/
abbrev Inquires (lookUps : Call → Prop) (context : Context) (action : Action α) : Prop :=
  Uses (Effect.IsInquiry context.user lookUps) context action

theorem inquires_print {line : Line} (hPlain : line.isPlain = true) :
    Inquires lookUps context (liftM (Shell.print line)) :=
  uses_lift (Shell.uses_print hPlain)

theorem inquires_printAll {texts : List String} :
    Inquires lookUps context (liftM (Shell.printAll texts)) :=
  uses_lift (Shell.uses_printAll fun _ => rfl)

/-- An error of the service, or one that the shell raises over an answer. -/
theorem inquires_throw {e : ShellError} (hLocal : e.isLocal = false)
    (hStatus : e = .notFound ∨ e.status.isFailure = true) :
    Inquires lookUps context (throw e : Action α) := by
  refine uses_throw ⟨hLocal, hStatus⟩ ?_
  rintro cause rfl
  cases hLocal

theorem inquires_remoteFailure {lookup : Lookup} {status : Status}
    (hFailure : status.isFailure = true) :
    Inquires lookUps context (throw (.remoteFailure lookup status) : Action α) :=
  inquires_throw rfl (Or.inr hFailure)

/-- Nothing follows an error. -/
theorem inquires_throw_bind {e : ShellError} {rest : α → Action β} (hLocal : e.isLocal = false)
    (hStatus : e = .notFound ∨ e.status.isFailure = true) :
    Inquires lookUps context ((throw e : Action α) >>= rest) := by
  have hThrow : ((throw e : Action α) >>= rest) = throw e := rfl
  rw [hThrow]
  exact inquires_throw hLocal hStatus

/-- A call without a reply is a look-up and an error. -/
theorem path_of_unanswered {c : Call} (hCall : lookUps c) (hLookUp : c.IsLookUp)
    {pushed : List Diagnostic} {e : ClientError} {state : State} :
    Path (Effect.IsInquiry context.user lookUps) state
      [⟨Shell.Query.call c, ⟨pushed, .error e⟩⟩] (.error (.client e) (state.push pushed)) := by
  have hAsked : Effect.IsInquiry context.user lookUps (.lookUp c ⟨pushed, .error e⟩) :=
    ⟨hCall, hLookUp, Call.rejectsListing_error⟩
  have hFail : Effect.IsInquiry context.user lookUps (.fail (.client e)) :=
    ⟨rfl, Or.inr e.status_isFailure⟩
  exact .step hAsked (.lookUp c ⟨pushed, .error e⟩ state) (.stop hFail (.fail _ _ fun _ => nofun))

/-- A look-up that is no listing. -/
theorem inquires_call {c : Call} (hCall : lookUps c) (hLookUp : c.IsLookUp)
    (hKept : ∀ reply, c.rejectsListing context.user (.ok reply) = false) :
    Inquires lookUps context (call c) := by
  intro state
  rw [ensures_call]
  rintro ⟨pushed, e | reply⟩
  · exact path_of_unanswered hCall hLookUp
  · have hAsked : Effect.IsInquiry context.user lookUps (.lookUp c ⟨pushed, .ok reply⟩) :=
      ⟨hCall, hLookUp, hKept reply⟩
    exact .stop hAsked (.lookUp c ⟨pushed, .ok reply⟩ state)

/-- A listing: where it is rejected, the error stack is printed and the command ends. -/
theorem inquires_listing {c : Call} {rest : c.Reply → Action β} (hCall : lookUps c)
    (hLookUp : c.IsLookUp)
    (hRejected : ∀ reply, c.rejectsListing context.user (.ok reply) = true →
      ∃ lookup status, status.isFailure = true ∧
        rest reply = (do liftM Shell.drain; throw (.remoteFailure lookup status)))
    (hRest : ∀ reply, c.rejectsListing context.user (.ok reply) = false →
      Inquires lookUps context (rest reply)) :
    Inquires lookUps context (call c >>= rest) := by
  intro state
  rw [ensures_bind, ensures_call]
  rintro ⟨pushed, e | reply⟩
  · exact path_of_unanswered hCall hLookUp
  cases hReply : c.rejectsListing context.user (.ok reply) with
  | false =>
      have hAsked : Effect.IsInquiry context.user lookUps (.lookUp c ⟨pushed, .ok reply⟩) :=
        ⟨hCall, hLookUp, hReply⟩
      exact (hRest reply hReply (state.push pushed)).mono fun more end? hMore =>
        .step hAsked (.lookUp c ⟨pushed, .ok reply⟩ state) hMore
  | true =>
      obtain ⟨lookup, status, hFailure, hThrow⟩ := hRejected reply hReply
      have hAsked : Effect.IsInquiry context.user lookUps (.reject c ⟨pushed, .ok reply⟩) :=
        ⟨hCall, hLookUp, hReply⟩
      have hFail : Effect.IsInquiry context.user lookUps (.fail (.remoteFailure lookup status)) :=
        ⟨rfl, Or.inr hFailure⟩
      have hPath := Path.step hAsked (.reject c ⟨pushed, .ok reply⟩ state)
        (.stop hFail (.fail _ _ fun _ => nofun))
      dsimp only [mapError_ok]
      rw [hThrow]
      simpa [endingOf] using hPath

theorem inquires_followPages (query : SimpleQuery)
    (hCalls : ∀ control, lookUps (.simpleQuery { query with control })) (fuel : Nat)
    (control : Int32) : Inquires lookUps context (followPages fuel query control) := by
  induction fuel generalizing query control with
  | zero =>
      exact uses_ite (fun _ => uses_lift (Shell.uses_outOfFuel trivial)) fun _ => uses_pure ()
  | succ fuel ih =>
      refine uses_ite (fun hMore => ?_) fun _ => uses_pure ()
      have hFurther : control ≠ 0 := by
        rintro rfl
        exact absurd hMore (by decide)
      refine uses_bind (inquires_call (hCalls control) trivial fun reply => ?_) fun page => ?_
      · simp [Call.rejectsListing, Call.isListing, hFurther]
      refine uses_ite (fun _ => uses_pure ()) fun _ => ?_
      refine uses_when (fun hFailure => inquires_remoteFailure hFailure) ?_
      exact uses_bind inquires_printAll fun _ => ih { query with control } hCalls page.control

/-- A paged query sends the same query over and over, with cursors only changed. -/
theorem inquires_runQuery {query : SimpleQuery}
    (hListing : (Call.simpleQuery query).isListing context.user = true)
    (hCalls : ∀ control, lookUps (.simpleQuery { query with control })) :
    Inquires lookUps context (runQuery query) := by
  have hReply : ∀ reply, (Call.simpleQuery query).rejectsListing context.user (.ok reply)
      = reply.status.isRejection := by
    intro reply
    simp [Call.rejectsListing, hListing]
  refine inquires_listing (hCalls query.control) trivial (fun reply hRejected => ?_)
    fun reply hKept => ?_
  · rw [hReply, Status.isRejection_iff] at hRejected
    exact ⟨.simpleQuery, reply.status, hRejected.1, by simp [hRejected.1, hRejected.2]⟩
  · rw [hReply] at hKept
    refine uses_ite (fun _ => inquires_print rfl) fun hRows => ?_
    refine uses_ite (fun hFailure => ?_) fun _ => ?_
    · rw [Status.isRejection_iff.mpr ⟨hFailure, hRows⟩] at hKept
      cases hKept
    · exact uses_bind inquires_printAll fun _ =>
        uses_read_bind (inquires_followPages query hCalls context.fuel reply.control)

/-- A remembered zone is not asked for again. -/
theorem ensures_localZone_of_known {state : State} {zone : String}
    (hKnown : state.localZone = some zone)
    {post : List Event → Option (Except ShellError String × State) → Prop} :
    localZone.Ensures context state post ↔ post [] (some (.ok zone, state)) := by
  unfold localZone
  rw [ensures_bind, ensures_get]
  simp only [hKnown, ensures_pure, List.nil_append]

/-- A look-up of the local zone that was not remembered: a zone that the service
names is remembered, and everything else ends the command. -/
theorem ensures_localZone_of_unknown {state : State} (hUnknown : state.localZone = none)
    {post : List Event → Option (Except ShellError String × State) → Prop} :
    localZone.Ensures context state post
      ↔ ∀ exchange : Exchange (.simpleQuery localZoneQuery),
          match exchange.result with
          | .error e =>
              post [⟨Shell.Query.call (.simpleQuery localZoneQuery), exchange⟩]
                (some (.error (.client e), state.push exchange.pushed))
          | .ok reply =>
              if reply.status.isFailure then
                post ([⟨Shell.Query.call (.simpleQuery localZoneQuery), exchange⟩]
                    ++ Shell.shown [.note "Error getting local zone"])
                  (some (.error (.remoteFailure .localZone reply.status),
                    state.push exchange.pushed))
              else
                post [⟨Shell.Query.call (.simpleQuery localZoneQuery), exchange⟩]
                  (some (.ok (zoneOfPage reply.outBuf),
                    { state.push exchange.pushed with
                      localZone := some (zoneOfPage reply.outBuf) })) := by
  unfold localZone
  rw [ensures_bind, ensures_get]
  simp only [hUnknown]
  rw [ensures_bind, ensures_call]
  refine forall_congr' fun exchange => ?_
  obtain ⟨pushed, e | reply⟩ := exchange
  · simp
  · cases hReply : reply.status.isFailure <;> simp [hReply, Except.map]

/-- The local zone is asked for once and then remembered. -/
theorem inquires_localZone (hCall : lookUps (.simpleQuery localZoneQuery)) :
    Inquires lookUps context localZone := by
  intro state
  cases hKnown : state.localZone with
  | some zone => exact (ensures_localZone_of_known hKnown).mpr (.nil state)
  | none =>
      rw [ensures_localZone_of_unknown hKnown]
      rintro ⟨pushed, e | reply⟩
      · exact path_of_unanswered hCall trivial
      · cases hReply : reply.status.isFailure with
        | true =>
            have hAsked : Effect.IsInquiry context.user lookUps
                (.lookUp (.simpleQuery localZoneQuery) ⟨pushed, .ok reply⟩) :=
              ⟨hCall, trivial, by simp [Call.rejectsListing, Call.isListing]⟩
            have hPrint : Effect.IsInquiry context.user lookUps
                (.print (.note "Error getting local zone")) := rfl
            have hFail : Effect.IsInquiry context.user lookUps
                (.fail (.remoteFailure .localZone reply.status)) := ⟨rfl, Or.inr hReply⟩
            have hEnd := Path.stop hFail (.fail _ (state.push pushed) fun _ => nofun)
            simp only [hReply, if_true]
            exact .step hAsked (.lookUp _ ⟨pushed, .ok reply⟩ state)
              (.step hPrint (.print _ _) hEnd)
        | false =>
            have hLearned : Effect.IsInquiry context.user lookUps .learnZone := hCall
            simp only [hReply]
            exact .stop hLearned (.learnZone pushed reply state hKnown hReply)

/-- A name that can be split is resolved by the zone behind it, or by the local
zone. -/
theorem inquires_resolveUser {token name zone : String}
    (hSplit : splitUserName? token = some (name, zone))
    (hCall : lookUps (.simpleQuery localZoneQuery)) :
    Inquires lookUps context (resolveUser token) := by
  unfold resolveUser
  rw [hSplit]
  exact uses_ite (fun _ => uses_bind (inquires_localZone hCall) fun _ => uses_pure _)
    fun _ => uses_pure _

theorem inquires_requireRodsadmin
    (hCall : lookUps (.generalQuery (userTypeQuery context.user) none)) :
    Inquires lookUps context requireRodsadmin := by
  refine uses_read_bind (uses_bind (inquires_call hCall trivial fun reply => ?_) fun reply => ?_)
  · simp [Call.rejectsListing, Call.isListing]
  refine uses_when (fun hFailure => inquires_remoteFailure hFailure.1) ?_
  cases reply.rows.head?.bind List.head? with
  | none => exact inquires_throw rfl (Or.inr rfl)
  | some userType =>
      exact uses_ite (fun _ => uses_pure ()) fun _ => inquires_throw rfl (Or.inr rfl)

end LookUps

end Action

end GridAdmin
