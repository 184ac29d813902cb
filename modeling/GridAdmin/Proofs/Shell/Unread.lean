import GridAdmin.Proofs.Shell.Conservation

/-!
# Diagnostics that a failed look-up leaves unread

A command that ends because a look-up failed prints the error stack in some cases only:
where the first page of a listing, a group or the entry of a replica was rejected.
After a further page, and after what a command checks before it goes on, the stack
stays as the service left it.

`unread` computes what is left from the calls and their answers alone.  The calls add
their diagnostics one after the other, and a rejected listing takes all of them away.

## Main definitions

* `Shell.unread`: what waits behind some events.

## Main results

* `Path.unread`: the error stack behind inquiries.
* `DispatchTrace.error_of_report`: the line that reports an error is printed behind the
  handler only.
* `stack_after_remoteFailure`: the error stack behind a command that a look-up ended.
-/

namespace GridAdmin

namespace Shell

/-! ## What waits behind a call -/

/-- The diagnostics that wait behind one event. -/
def unreadBehind (user : UserIdentity) (waiting : ErrorStack) : Event → ErrorStack
  | ⟨Query.call c, exchange⟩ =>
      if c.rejectsListing user (Exchange.result exchange) then []
      else waiting ++ Exchange.pushed exchange
  | ⟨Query.print _, _⟩ | ⟨Query.readLine _, _⟩ | ⟨Query.readSecret _, _⟩ | ⟨Query.clock, _⟩ =>
      waiting

/-- The diagnostics that wait behind these events. -/
def unread (user : UserIdentity) (waiting : ErrorStack) (events : List Event) : ErrorStack :=
  events.foldl (unreadBehind user) waiting

section Unread

variable {user : UserIdentity} {waiting : ErrorStack} {events rest : List Event}

theorem unread_append :
    unread user waiting (events ++ rest) = unread user (unread user waiting events) rest :=
  List.foldl_append

/-- What waits stays as it is while no call is made. -/
theorem unread_of_noCall (hNoCall : NoCall events) : unread user waiting events = waiting := by
  induction events with
  | nil => rfl
  | cons event events ih =>
      have hRest : NoCall events :=
        fun other hOther => hNoCall other (List.mem_cons_of_mem _ hOther)
      have hEvent := hNoCall event List.mem_cons_self
      obtain ⟨query, answer⟩ := event
      cases query with
      | call c => exact absurd rfl (hEvent c)
      | _ => exact ih hRest

theorem unread_cons_shown {c : Call} {exchange : Exchange c} {lines : List Line} :
    unread user waiting (⟨Query.call c, exchange⟩ :: shown lines)
      = unreadBehind user waiting ⟨Query.call c, exchange⟩ :=
  unread_of_noCall noCall_shown

end Unread

/-! ## Inquiries -/

variable {user : UserIdentity} {state next : State} {events : List Event} {ending : Ending}

theorem Effect.Step.unread {lookUps : Call → Prop} {effect : Effect}
    (hInquiry : effect.IsInquiry user lookUps) (hStep : effect.Step state events ending)
    (hAfter : ending.after? = some next) : next.stack = unread user state.stack events := by
  cases hStep with
  | lookUp c exchange =>
      cases hAfter
      obtain ⟨-, -, hKept⟩ := hInquiry
      simp [Shell.unread, unreadBehind, hKept, State.push]
  | reject c exchange =>
      cases hAfter
      obtain ⟨-, -, hRejected⟩ := hInquiry
      rw [unread_cons_shown]
      simp [unreadBehind, hRejected]
  | learnZone pushed reply state hUnknown hReply =>
      cases hAfter
      simp [Shell.unread, unreadBehind, Call.rejectsListing, Call.isListing, State.push]
  | starve => cases hAfter
  | _ =>
      cases hAfter
      rfl

private theorem composes_unread : Composes fun state events ending =>
    ∀ next, ending.after? = some next → next.stack = unread user state.stack events where
  nil := by
    rintro state next ⟨⟩
    rfl
  append := by
    intro state next events rest ending hFirst hRest after hAfter
    rw [hRest after hAfter, hFirst next rfl, unread_append]

/-- Behind inquiries the error stack holds what the last rejected listing left. -/
theorem Path.unread {lookUps : Call → Prop}
    (hPath : Path (Effect.IsInquiry user lookUps) state events ending)
    (hAfter : ending.after? = some next) : next.stack = unread user state.stack events :=
  hPath.holds composes_unread
    (fun _ _ _ _ hInquiry hStep _ hNext => hStep.unread hInquiry hNext) next hAfter

variable {acts : List Event → Act → Prop}

/-- A failed look-up is found among the inquiries. -/
private theorem Phases.unread_of_remoteFailure {lookup : Lookup} {status : Status}
    (hPhases : Phases user acts state events (.error (.remoteFailure lookup status) next)) :
    next.stack = unread user state.stack events := by
  cases hPhases with
  | quiet hPath => cases hPath.quiet.2.2.1
  | remote hFirst hRest =>
      rw [unread_append, unread_of_noCall hFirst.quiet.1]
      cases hRest with
      | asked hPath => exact hPath.unread rfl
      | concluded hLooked hEnd => cases hEnd

/-! ## The report of an error -/

/-- The question does not report the error that ended a command. -/
def Query.IsNoVerdict (query : Query) : Prop :=
  ∀ e, query ≠ .print (.commandFailed e)

theorem isNoVerdict_of_isPlain {line : Line} (hPlain : line.isPlain = true) :
    Query.IsNoVerdict (.print line) := by
  rintro e ⟨⟩
  cases hPlain

private theorem isNoVerdict_of_isRequestReport {line : Line}
    (hReport : line.isRequestReport = true) :
    Query.IsNoVerdict (.print line) := by
  rintro e ⟨⟩
  cases hReport

theorem noVerdict_stackLines {stack : ErrorStack} :
    Asks Query.IsNoVerdict (shown (stackLines 0 stack)) := by
  refine asks_shown_of_mem fun line hLine => ?_
  obtain ⟨level, message, rfl⟩ := eq_diagnostic_of_mem_stackLines hLine
  exact fun _ => nofun

private theorem Effect.Step.noVerdict {effect : Effect}
    (hPlain : effect.PrintsPlain) (hStep : effect.Step state events ending) :
    Asks Query.IsNoVerdict events := by
  cases hStep with
  | print line => exact asks_singleton (isNoVerdict_of_isPlain (hPlain line rfl))
  | reject c exchange =>
      exact asks_append_iff.mpr ⟨asks_singleton fun _ => nofun, noVerdict_stackLines⟩
  | fail e => exact asks_nil
  | starve => exact asks_nil
  | _ => exact asks_singleton fun _ => nofun

private theorem Conclusion.noVerdict {acts : Act → Prop}
    (hConclusion : Conclusion acts state events ending) : Asks Query.IsNoVerdict events := by
  cases hConclusion with
  | sent hAct hSent hPlain =>
      refine asks_append_iff.mpr ⟨?_, asks_shown_of_mem fun line hLine =>
        isNoVerdict_of_isPlain (hPlain line hLine)⟩
      exact hSent.asks (fun _ => nofun) (fun _ _ => nofun)
        (fun _ => isNoVerdict_of_isRequestReport) fun _ _ _ => nofun
  | rejected hAct pushed hStatus =>
      exact asks_append_iff.mpr ⟨asks_singleton fun _ => nofun,
        asks_append_iff.mpr ⟨asks_singleton fun _ => nofun, noVerdict_stackLines⟩⟩
  | updated hAct pushed => exact asks_singleton fun _ => nofun
  | unanswered hAct pushed e => exact asks_singleton fun _ => nofun

/-- A handler itself does not report the error that it ends in. -/
private theorem Phases.noVerdict (hPhases : Phases user acts state events ending) :
    Asks Query.IsNoVerdict events := by
  have hComposes : Composes fun _ events _ => Asks Query.IsNoVerdict events :=
    ⟨fun _ => asks_nil, fun hFirst hRest => asks_append_iff.mpr ⟨hFirst, hRest⟩⟩
  exact hPhases.holds_of_printsPlain hComposes (fun _ _ _ _ hPlain hStep => hStep.noVerdict hPlain)
    fun _ _ _ _ hConclusion => hConclusion.noVerdict

/-! ## Commands -/

variable {context : Context} {command : Command}

/-- Where a command reports an error, its handler ended in that error. -/
theorem DispatchTrace.error_of_report {ended? : Option (Outcome × State)} {e : ShellError}
    (hTrace : DispatchTrace context state command events ended?)
    (hReport : (⟨Query.print (.commandFailed e), ()⟩ : Event) ∈ events) :
    ∃ handler body after, Verb.handler? command.verb = some handler ∧
      Phases context.user (handler.MayAct context.settings command)
        { state with lastStatus := .success } body (.error e after) ∧
      events = echoed context.settings command ++ body ++ shown [failureLine e] ∧
      ended? = some (failureOutcome e, { after with lastStatus := e.status }) := by
  have hEcho : Asks Query.IsNoVerdict (echoed context.settings command) := by
    unfold echoed
    split
    · exact asks_singleton fun _ => nofun
    · exact asks_nil
  have hNone : ∀ others : List Event, Asks Query.IsNoVerdict others →
      (⟨Query.print (.commandFailed e), ()⟩ : Event) ∉ others :=
    fun others hAsks hMem => hAsks _ hMem e rfl
  cases hTrace with
  | empty hVerb => cases hReport
  | unknown hVerb hHandler =>
      refine absurd hReport (hNone _ (asks_append_iff.mpr ⟨hEcho, ?_⟩))
      exact asks_singleton fun _ => nofun
  | quit hVerb hHandler => exact absurd hReport (hNone _ hEcho)
  | finished hVerb hHandler hQuit hBody =>
      have hPhases := Action.phased_handle _ _ _ hBody
      exact absurd hReport (hNone _ (asks_append_iff.mpr ⟨hEcho, hPhases.noVerdict⟩))
  | @failed handler body other after hVerb hHandler hQuit hBody =>
      have hPhases := Action.phased_handle _ _ _ hBody
      have hOther : other = e := by
        rcases List.mem_append.mp hReport with hBefore | hLine
        · exact absurd hBefore (hNone _ (asks_append_iff.mpr ⟨hEcho, hPhases.noVerdict⟩))
        · unfold failureLine at hLine
          split at hLine
          · cases List.mem_singleton.mp hLine
          · cases List.mem_singleton.mp hLine
            rfl
      subst hOther
      exact ⟨handler, body, after, hHandler, hPhases, rfl, rfl⟩
  | exhausted hVerb hHandler hQuit hBody =>
      have hPhases := Action.phased_handle _ _ _ hBody
      exact absurd hReport (hNone _ (asks_append_iff.mpr ⟨hEcho, hPhases.noVerdict⟩))

/-- Between the echo and the report stands what the handler did. -/
private theorem unread_dispatch {body : List Event} {line : Line} :
    unread user next.stack (echoed context.settings command ++ body ++ shown [line])
      = unread user next.stack body := by
  rw [unread_append, unread_append, unread_of_noCall noCall_shown, unread_of_noCall noCall_echoed]

/-- A command that a failed look-up ends leaves unread what its calls left behind the
last rejected listing.  It has printed everything, and left the error stack empty, only
if its last call was a rejected listing itself, or if that call left nothing and
nothing waited before it. -/
theorem stack_after_remoteFailure {outcome : Outcome} {after : State} {lookup : Lookup}
    {status : Status}
    (hTrace : Proc.Trace (toProc (dispatch command) context state) events
      (some (outcome, after)))
    (hFailed : (⟨Query.print (.commandFailed (.remoteFailure lookup status)), ()⟩ : Event)
      ∈ events) :
    after.stack = unread context.user state.stack events ∧
      ∀ before c exchange rest, events = before ++ ⟨Query.call c, exchange⟩ :: rest →
        NoCall rest →
          (Conserves state.stack events [] ∧ after.stack = [] ↔
            c.rejectsListing context.user exchange.result = true ∨
              unread context.user state.stack before = [] ∧ exchange.pushed = []) := by
  have hDispatch := dispatchTrace_of_trace hTrace
  obtain ⟨handler, body, middle, -, hPhases, hEvents, hEnd⟩ := hDispatch.error_of_report hFailed
  have hStack : after.stack = unread context.user state.stack events := by
    cases hEnd
    rw [hEvents, unread_dispatch]
    exact hPhases.unread_of_remoteFailure
  refine ⟨hStack, fun before c exchange rest hSplit hLast => ?_⟩
  have hLeft : after.stack = unreadBehind context.user (unread context.user state.stack before)
      ⟨Query.call c, exchange⟩ := by
    rw [hStack, hSplit, unread_append]
    exact unread_of_noCall hLast
  have hConserved := conserves_dispatch hDispatch
  have hEmpty : Conserves state.stack events [] ∧ after.stack = [] ↔ after.stack = [] := by
    refine and_iff_right_of_imp fun hNone => ?_
    rw [hNone] at hConserved
    exact hConserved
  rw [hEmpty, hLeft]
  cases hListing : c.rejectsListing context.user exchange.result with
  | true => simp [unreadBehind, hListing]
  | false => simp [unreadBehind, hListing]

open LatePrint in
/-- The diagnostic of a second page is not printed by the command that failed on it. -/
theorem unread_of_second_page : ¬(Conserves [] listed.events [] ∧ [message] = []) := by
  have hTrace := LatePrint.session.forall_isTrace listed (by simp)
  have hFailed : (⟨Query.print (.commandFailed (.remoteFailure .simpleQuery .connectError)), ()⟩
      : Event) ∈ listed.events := by
    simp [listed]
  have hReport : NoCall (shown [.commandFailed (.remoteFailure .simpleQuery .connectError)]) :=
    noCall_shown
  have hLast := (stack_after_remoteFailure hTrace hFailed).2
    [⟨.call (.simpleQuery (Listing.zonesQuery "")), ⟨[], .ok ⟨.success, "", 1⟩⟩⟩]
    (.simpleQuery { Listing.zonesQuery "" with control := 1 })
    ⟨[message], .ok ⟨.connectError, "", 0⟩⟩ _ rfl hReport
  intro hPrinted
  rcases hLast.mp hPrinted with hRejected | ⟨-, hNothing⟩
  · cases hRejected
  · cases hNothing

end Shell

end GridAdmin
