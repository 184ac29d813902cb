import GridAdmin.Proofs.Shell.BoundNames
import GridAdmin.Proofs.Shell.ExitCode

/-!
# Both reports on quotas

The listing of quotas is two listings: the quotas on single resources, and those on total
usage.  Whoever asks for them should get the second report also if the first one broke off, and
should still be told at the end that something went wrong.  So the error of the first report is
held back while the second one runs, and it may neither be lost nor hide the second report.

In front of both stands the question whose quotas are meant.  A bare name means the user in the
local zone, which is asked for only then, and only if it is not remembered.  Where this question
has no answer, no report is begun.

Each report is a conversation of pages, which `FollowsCursors` tells and which is not taken up
again here.  What is added is how two of them stand one behind the other.  The fuel may run out
inside of either one, and in the first one this is the only way in which the second is not
reached.

## Main definitions

* `Shell.LooksUp`, `Shell.QuotasOf`: what is asked for first, and whose quotas are meant then.
* `Shell.QuotaReports`: both reports with their headings.
* `Shell.ListsQuotas`: all ways through the command.

## Main results

* `Action.ensures_quotaReports`: the second report follows the first one.
* `Action.ensures_listQuotas`: the traces of the command.
* `quotas_reported_twice`: what is sent, printed and recorded.
-/

namespace GridAdmin

open Shell (Event Context State Query callsIn)

/-! ## The look-up of the local zone -/

/-- What ends a command that looked up the local zone and got this. -/
def zoneError? : Except ClientError SimpleReply → Option ShellError
  | .error e => some (.client e)
  | .ok reply =>
      if reply.status.isFailure then some (.remoteFailure .localZone reply.status) else none

/-- The word is a bare name, and the zone that it is in is not remembered. -/
structure NeedsLocalZone (known : Option String) (token : String) : Prop where
  unknown : known = none
  word : token ≠ ""
  bare : ∃ name, splitUserName? token = some (name, "")

section LookUps

variable {token : String} {state after : State} {events : List Event} {e : ShellError}

private theorem zoneError?_of_success {reply : SimpleReply}
    (hReply : reply.status.isFailure = false) :
    zoneError? (.ok reply) = none := by
  apply if_neg
  rw [hReply]
  exact Bool.false_ne_true

/-- A failed look-up counts as an answer of the service. -/
private theorem isLocal_of_zoneError? {result : Except ClientError SimpleReply}
    (hError : zoneError? result = some e) : e.isLocal = false := by
  cases result with
  | error cause =>
      cases hError
      rfl
  | ok reply =>
      simp only [zoneError?] at hError
      split at hError
      · cases hError
        rfl
      · cases hError

namespace Shell

/-- The look-ups in front of the reports: none, or the one for the local zone, which was
needed and has an answer. -/
inductive LooksUp (known : Option String) (token : String) : List Event → Prop
  | nothing (hSpared : ¬NeedsLocalZone known token) : LooksUp known token []
  | localZone {exchange : Exchange localZoneCall} (hNeeds : NeedsLocalZone known token)
      (hAnswer : zoneError? exchange.result = none) :
      LooksUp known token [⟨Query.call localZoneCall, exchange⟩]

end Shell

open Shell (LooksUp)

private theorem Resolves.looksUp {user : String × String} (hToken : token ≠ "")
    (hResolves : Resolves token state events (.ok user) after) :
    LooksUp state.localZone token events := by
  cases hResolves with
  | qualified hSplit hZone =>
      refine .nothing fun hNeeds => ?_
      obtain ⟨name, hBare⟩ := hNeeds.bare
      cases hBare.symm.trans hSplit
      exact hZone rfl
  | remembered hSplit hKnown =>
      exact .nothing fun hNeeds => absurd (hKnown.symm.trans hNeeds.unknown) nofun
  | learned hSplit hUnknown hReply =>
      exact .localZone ⟨hUnknown, hToken, _, hSplit⟩ (zoneError?_of_success hReply)

/-- A word that cannot be resolved is malformed, or the look-up for it has failed. -/
private theorem Resolves.unresolved (hToken : token ≠ "")
    (hResolves : Resolves token state events (.error e) after) :
    (splitUserName? token = none ∧ events = [] ∧ e = .invalidArgument .userName) ∨
      ∃ exchange lines, events = ⟨Query.call localZoneCall, exchange⟩ :: Shell.shown lines ∧
        zoneError? exchange.result = some e ∧ NeedsLocalZone state.localZone token := by
  cases hResolves with
  | malformed hSplit => exact Or.inl ⟨hSplit, rfl, rfl⟩
  | unanswered hSplit hUnknown => exact Or.inr ⟨_, [], rfl, rfl, hUnknown, hToken, _, hSplit⟩
  | failed hSplit hUnknown hReply =>
      exact Or.inr ⟨_, [_], rfl, if_pos hReply, hUnknown, hToken, _, hSplit⟩

end LookUps

namespace Shell

/-! ## Reports -/

/-- Whose quotas are listed behind these look-ups: those of everybody, or those of the user that
the word means. -/
inductive QuotasOf (known : Option String) (token : String) (lookUps : List Event) :
    Option (String × String) → Prop
  | everybody (hToken : token = "") : QuotasOf known token lookUps none
  | user {name zone effective : String} (hToken : token ≠ "")
      (hSplit : splitUserName? token = some (name, zone))
      (hZone : EffectiveZone known lookUps zone effective) :
      QuotasOf known token lookUps (some (name, effective))

/-- The values that tell the service whose quotas are meant. -/
def boundValues : Option (String × String) → List String
  | none => []
  | some (name, zone) => [name, zone]

/-- The reports on quotas: on single resources, and then on total usage, each with its heading in
front of its pages.  The second one is there whatever became of the first, unless the fuel was
used up by its pages.  The error that counts is the first one. -/
inductive QuotaReports (fuel : Nat) (token : String) (target : Option (String × String)) :
    List Event → Option (Except ShellError Unit) → Prop
  | cutOff {pages : List Event}
      (hPages : FollowsCursors (Listing.quotaQuery Listing.resourceQuotaSql target) fuel pages
        none) :
      QuotaReports fuel token target
        (shown [.out (Action.quotaHeading "Per resource" token)] ++ pages) none
  | both {first second : List Event} {result : Except ShellError Unit}
      {outcome? : Option (Except ShellError Unit)}
      (hFirst : FollowsCursors (Listing.quotaQuery Listing.resourceQuotaSql target) fuel first
        (some result))
      (hSecond : FollowsCursors (Listing.quotaQuery Listing.globalQuotaSql target) fuel second
        outcome?) :
      QuotaReports fuel token target
        (shown [.out (Action.quotaHeading "Per resource" token)] ++ (first
          ++ (shown [.out (Action.quotaHeading "\nGlobal (total usage)" token)] ++ second)))
        (outcome?.map (Action.firstError result))

/-- All ways through the listing of quotas. -/
inductive ListsQuotas (fuel : Nat) (token : String) (known : Option String) :
    List Event → Option (Except ShellError Unit) → Prop
  | malformed (hSplit : splitUserName? token = none) :
      ListsQuotas fuel token known [] (some (.error (.invalidArgument .userName)))
  | unanswered {exchange : Exchange localZoneCall} {lines : List Line} {e : ShellError}
      (hNeeds : NeedsLocalZone known token) (hError : zoneError? exchange.result = some e) :
      ListsQuotas fuel token known (⟨Query.call localZoneCall, exchange⟩ :: shown lines)
        (some (.error e))
  | reported {lookUps reports : List Event} {target : Option (String × String)}
      {outcome? : Option (Except ShellError Unit)} (hLookUps : LooksUp known token lookUps)
      (hTarget : QuotasOf known token lookUps target)
      (hReports : QuotaReports fuel token target reports outcome?)
      (hPages : SendsPages [Listing.quotaQuery Listing.resourceQuotaSql target,
        Listing.quotaQuery Listing.globalQuotaSql target] (callsIn reports)) :
      ListsQuotas fuel token known (lookUps ++ reports) outcome?

section Pages

variable {target : Option (String × String)} {calls : List Call} {sql : String}

private theorem args_quotaQuery : (Listing.quotaQuery sql target).args = boundValues target := by
  cases target <;> rfl

/-- Rows of quotas are asked for in another form than the local zone. -/
private theorem quotaQuery_ne_localZone {control : Int32} :
    { Listing.quotaQuery sql target with control } ≠ Action.localZoneQuery := by
  intro hSame
  have hForm : (Listing.quotaQuery sql target).form = 1 := congrArg SimpleQuery.form hSame
  have hRows : (Listing.quotaQuery sql target).form = 2 := by
    cases target <;> rfl
  exact absurd (hRows.symm.trans hForm) (by decide)

variable (hPages : SendsPages [Listing.quotaQuery Listing.resourceQuotaSql target,
  Listing.quotaQuery Listing.globalQuotaSql target] calls)

include hPages

/-- All pages of both reports are about the same user. -/
theorem SendsPages.eq_quotaQuery : ∀ c ∈ calls, ∃ sql control,
    c = .simpleQuery { Listing.quotaQuery sql target with control } := by
  intro c hCall
  obtain ⟨query, hQuery, control, rfl⟩ := hPages.only c hCall
  rcases List.mem_cons.mp hQuery with rfl | hGlobal
  · exact ⟨_, control, rfl⟩
  · cases List.mem_singleton.mp hGlobal
    exact ⟨_, control, rfl⟩

private theorem SendsPages.args_eq {query : SimpleQuery} (hCall : Call.simpleQuery query ∈ calls) :
    query.args = boundValues target := by
  obtain ⟨sql, control, hSame⟩ := hPages.eq_quotaQuery _ hCall
  cases hSame
  exact args_quotaQuery

theorem SendsPages.not_localZone : localZoneCall ∉ calls := by
  intro hCall
  obtain ⟨sql, control, hSame⟩ := hPages.eq_quotaQuery _ hCall
  exact quotaQuery_ne_localZone (Call.simpleQuery.inj hSame).symm

end Pages

end Shell

namespace Action

open Shell (QuotasOf QuotaReports ListsQuotas LooksUp)

variable {context : Context} {state : State} {token : String} {target : Option (String × String)}

/-! ## The program -/

/-- What is done once it is known whose quotas are meant. -/
def quotaReports (token : String) (target : Option (String × String)) : Action Unit := do
  Shell.print (.out (quotaHeading "Per resource" token))
  both (runQuery (Listing.quotaQuery Listing.resourceQuotaSql target)) do
    Shell.print (.out (quotaHeading "\nGlobal (total usage)" token))
    runQuery (Listing.quotaQuery Listing.globalQuotaSql target)

theorem listQuotas_eq (token : String) :
    listQuotas token
      = if token = "" then quotaReports token none
        else (some <$> resolveUser token) >>= quotaReports token :=
  rfl

/-- The second report follows the first one, whatever becomes of it. -/
theorem ensures_quotaReports :
    (quotaReports token target).Ensures context state fun reports last? =>
      QuotaReports context.fuel token target reports (last?.map (·.1)) := by
  unfold quotaReports
  rw [ensures_bind, ensures_lift, Shell.ensures_print]
  refine ensures_both.mpr ((ensures_runQuery _ context state).mono fun first last? hFirst => ?_)
  rcases last? with _ | ⟨result, middle⟩
  · exact .cutOff hFirst
  · refine ensures_bind.mpr (ensures_lift.mpr (Shell.ensures_print.mpr ?_))
    refine (ensures_runQuery _ context middle).mono fun second end? hSecond => ?_
    have hBoth : QuotaReports context.fuel token target _ _ := .both hFirst hSecond
    rwa [Option.map_map] at hBoth ⊢

/-- The reports behind the look-ups that were needed. -/
private theorem ensures_reported {lookUps : List Event} {known : Option String}
    (hLookUps : LooksUp known token lookUps) (hTarget : QuotasOf known token lookUps target) :
    (quotaReports token target).Ensures context state fun reports last? =>
      ListsQuotas context.fuel token known (lookUps ++ reports) (last?.map (·.1)) := by
  intro reports last? hTrace
  have hPages := ensures_reports Listing.resourceQuota_isListing Listing.globalQuota_isListing
    reports last? hTrace
  exact .reported hLookUps hTarget (ensures_quotaReports reports last? hTrace) hPages

theorem ensures_listQuotas :
    (listQuotas token).Ensures context state fun events last? =>
      ListsQuotas context.fuel token state.localZone events (last?.map (·.1)) := by
  rw [listQuotas_eq]
  refine ensures_ite.mpr ⟨fun hToken => ?_, fun hToken => ?_⟩
  · exact ensures_reported (.nothing fun hNeeds => hNeeds.word hToken) (.everybody hToken)
  · rw [ensures_bind, ensures_map]
    refine ensures_resolves.mono ?_
    rintro lookUps _ ⟨e | user, after, rfl, hResolves⟩
    · rcases hResolves.unresolved hToken with
        ⟨hSplit, rfl, rfl⟩ | ⟨exchange, lines, rfl, hError, hNeeds⟩
      · exact .malformed hSplit
      · exact .unanswered hNeeds hError
    · obtain ⟨zone, hSplit, hZone⟩ := hResolves.effectiveZone
      exact ensures_reported (hResolves.looksUp hToken) (.user hToken hSplit hZone)

/-- A word that can be split is not refused: from then on everything turns to the service. -/
private theorem inquires_listQuotas {user : String × String}
    (hSplit : splitUserName? token = some user) :
    Inquires Call.IsLookUp context (listQuotas token) := by
  have hReports : ∀ target, Inquires Call.IsLookUp context (quotaReports token target) :=
    fun target => inquires_quotaReports fun _ hLookUp => hLookUp
  rw [listQuotas_eq]
  refine uses_ite (fun _ => hReports none) fun _ => ?_
  exact uses_bind (uses_map (inquires_resolveUser hSplit trivial)) hReports

end Action

namespace Shell

/-! ## What is recorded -/

/-- The status of a listing that has ended so. -/
def recordedStatus : Except ShellError Unit → Status
  | .ok () => .success
  | .error e => e.status

section Recorded

variable {user : UserIdentity} {lookUps : Call → Prop} {state : State} {events : List Event}
  {last? : Option (Except ShellError Unit × State)} {e : ShellError}

/-- Inquiries leave the status alone, and their errors are none of the words of a command. -/
private theorem recorded_of_inquiry (hStatus : state.lastStatus = .success)
    (hPath : Path (Effect.IsInquiry user lookUps) state events (Action.endingOf last?)) :
    recorded (endOf last?)
      = (last?.map (·.1)).map fun result => (.handled, recordedStatus result) := by
  rcases last? with _ | ⟨e | ⟨⟩, after⟩
  · rfl
  · have hOutcome := failureOutcome_eq_handled_iff.mpr hPath.inquiry.2.1
    rw [recorded_endOf_error, hOutcome]
    rfl
  · have hKept := hPath.inquiry_silent.2 after rfl
    rw [hStatus] at hKept
    exact congrArg (fun status => some (Outcome.handled, status)) hKept

end Recorded

/-! ## Calls -/

namespace ListsQuotas

variable {fuel : Nat} {token : String} {known : Option String} {events : List Event}
  {outcome? : Option (Except ShellError Unit)}

/-- Only a word without a second hash is resolved. -/
theorem not_needsLocalZone (hSplit : splitUserName? token = none) :
    ¬NeedsLocalZone known token := by
  intro hNeeds
  obtain ⟨name, hBare⟩ := hNeeds.bare
  exact absurd (hSplit.symm.trans hBare) nofun

private theorem asks_localZone_iff (hLists : ListsQuotas fuel token known events outcome?) :
    localZoneCall ∈ callsIn events ↔ NeedsLocalZone known token := by
  cases hLists with
  | malformed hSplit => exact iff_of_false nofun (not_needsLocalZone hSplit)
  | unanswered hNeeds hError => exact iff_of_true List.mem_cons_self hNeeds
  | reported hLookUps hTarget hReports hPages =>
      rw [callsIn_append, List.mem_append, or_iff_left hPages.not_localZone]
      cases hLookUps with
      | nothing hSpared => exact iff_of_false nofun hSpared
      | localZone hNeeds hAnswer => exact iff_of_true List.mem_cons_self hNeeds

private theorem of_malformed (hLists : ListsQuotas fuel token known events outcome?)
    (hSplit : splitUserName? token = none) :
    events = [] ∧ outcome? = some (.error (.invalidArgument .userName)) := by
  cases hLists with
  | malformed _ => exact ⟨rfl, rfl⟩
  | unanswered hNeeds hError => exact absurd hNeeds (not_needsLocalZone hSplit)
  | reported hLookUps hTarget hReports hPages =>
      cases hTarget with
      | everybody hToken =>
          subst hToken
          exact absurd hSplit (by decide)
      | user hToken hSome hZone => exact absurd (hSplit.symm.trans hSome) nofun

/-- A look-up that failed is the only call. -/
private theorem of_unanswered (hLists : ListsQuotas fuel token known events outcome?)
    {exchange : Exchange localZoneCall} {e : ShellError}
    (hAsked : (⟨Query.call localZoneCall, exchange⟩ : Event) ∈ events)
    (hError : zoneError? exchange.result = some e) :
    callsIn events = [localZoneCall] ∧ outcome? = some (.error e) := by
  cases hLists with
  | malformed hSplit => cases hAsked
  | unanswered hNeeds hOther =>
      rcases List.mem_cons.mp hAsked with hFirst | hShown
      · cases hFirst
        cases hOther.symm.trans hError
        exact ⟨by rw [callsIn_cons_call, callsIn_shown], rfl⟩
      · exact absurd rfl (noCall_shown _ hShown localZoneCall)
  | reported hLookUps hTarget hReports hPages =>
      rcases List.mem_append.mp hAsked with hFront | hBehind
      · cases hLookUps with
        | nothing hSpared => cases hFront
        | localZone hNeeds hAnswer =>
            cases List.mem_singleton.mp hFront
            exact absurd (hAnswer.symm.trans hError) nofun
      · exact absurd (mem_callsIn_iff.mpr ⟨exchange, hBehind⟩) hPages.not_localZone

/-- Otherwise there are reports. -/
private theorem of_answered (hLists : ListsQuotas fuel token known events outcome?)
    (hSplit : splitUserName? token ≠ none)
    (hAnswer : ∀ exchange, (⟨Query.call localZoneCall, exchange⟩ : Event) ∈ events →
      zoneError? exchange.result = none) :
    ∃ lookUps reports target, events = lookUps ++ reports ∧ LooksUp known token lookUps ∧
      QuotasOf known token lookUps target ∧ QuotaReports fuel token target reports outcome? ∧
      ∀ query, Call.simpleQuery query ∈ callsIn reports → query.args = boundValues target := by
  cases hLists with
  | malformed hNone => exact absurd hNone hSplit
  | unanswered hNeeds hError =>
      exact absurd ((hAnswer _ List.mem_cons_self).symm.trans hError) nofun
  | reported hLookUps hTarget hReports hPages =>
      exact ⟨_, _, _, rfl, hLookUps, hTarget, hReports, fun query hCall => hPages.args_eq hCall⟩

end ListsQuotas

end Shell

open Shell (LooksUp QuotasOf QuotaReports boundValues recorded recordedStatus)

/-- The listing of quotas, whatever is typed, remembered and answered.  The local zone is asked for
exactly if a bare name is typed and no zone is remembered.  A word with two hashes is refused
before any call, and a look-up of the local zone that fails is the only call and its status is
the one recorded.  In all other cases there are both reports, first on single resources and then
on total usage, each with its heading, and each with all its pages whether or not the first one
has failed.  They are bound to the same values: the name and the zone that is meant, or none.
What is recorded is a success if both have ended well, and otherwise the status of the first one
that did not. -/
theorem quotas_reported_twice {σ : Type} (handler : Proc.Handler Shell.interface σ)
    (surroundings : σ) (context : Context) (state : State) (command : Command)
    (hVerb : command.verb = "lq") :
    let run := (Shell.toProc (Shell.dispatch command) context state).run handler surroundings
    let token := command.arg 1
    (localZoneCall ∈ callsIn run.events ↔ NeedsLocalZone state.localZone token) ∧
    (2 ≤ token.toList.count '#' →
      callsIn run.events = [] ∧ recorded run.value? = some (.invalid, .invalidInput)) ∧
    (∀ (exchange : Exchange localZoneCall) (e : ShellError),
      (⟨Query.call localZoneCall, exchange⟩ : Event) ∈ run.events →
      zoneError? exchange.result = some e →
        callsIn run.events = [localZoneCall] ∧
          recorded run.value? = some (.handled, e.status)) ∧
    (token.toList.count '#' < 2 →
      (∀ exchange : Exchange localZoneCall,
        (⟨Query.call localZoneCall, exchange⟩ : Event) ∈ run.events →
          zoneError? exchange.result = none) →
      ∃ lookUps reports target last?,
        run.events = Shell.echoed context.settings command ++ (lookUps ++ reports)
          ++ Shell.reportOf last? ∧
        LooksUp state.localZone token lookUps ∧ QuotasOf state.localZone token lookUps target ∧
        QuotaReports context.fuel token target reports (last?.map (·.1)) ∧
        (∀ query, Call.simpleQuery query ∈ callsIn reports → query.args = boundValues target) ∧
        recorded run.value?
          = (last?.map (·.1)).map fun result => (.handled, recordedStatus result)) := by
  intro run token
  have hHandler : Verb.handler? command.verb = some (.listing .quotas) := by
    rw [hVerb]
    decide +kernel
  have hTrace := Shell.dispatchTrace_run handler surroundings context state command
  obtain ⟨body, last?, hBody, hEvents, hEnd⟩ := hTrace.of_handler hHandler nofun
  change run.events = _ at hEvents
  change run.value? = _ at hEnd
  have hLists := Action.ensures_listQuotas body last? hBody
  have hMem : ∀ exchange : Exchange localZoneCall,
      (⟨Query.call localZoneCall, exchange⟩ : Event) ∈ run.events ↔
        (⟨Query.call localZoneCall, exchange⟩ : Event) ∈ body := by
    intro exchange
    rw [hEvents]
    exact Shell.mem_dispatched_call
  have hCalls : callsIn run.events = callsIn body := by
    rw [hEvents]
    exact Shell.callsIn_dispatched
  have hHashes : splitUserName? token = none ↔ 2 ≤ token.toList.count '#' :=
    splitUserName?_eq_none_iff token
  have hResult : ∀ e, last?.map (·.1) = some (.error e) →
      recorded run.value? = some (Shell.failureOutcome e, e.status) := by
    intro e hError
    obtain ⟨⟨_, after⟩, rfl, rfl⟩ := Option.map_eq_some_iff.mp hError
    rw [hEnd]
    rfl
  refine ⟨?_, fun hTwo => ?_, fun exchange e hAsked hError => ?_, fun hOne hAnswer => ?_⟩
  · rw [hCalls]
    exact hLists.asks_localZone_iff
  · obtain ⟨rfl, hRefused⟩ := hLists.of_malformed (hHashes.mpr hTwo)
    exact ⟨hCalls, hResult _ hRefused⟩
  · obtain ⟨hOnly, hFailed⟩ := hLists.of_unanswered ((hMem exchange).mp hAsked) hError
    refine ⟨hCalls.trans hOnly, ?_⟩
    rw [hResult e hFailed, Shell.failureOutcome_eq_handled_iff.mpr (isLocal_of_zoneError? hError)]
  · have hSplit : splitUserName? token ≠ none :=
      fun hNone => absurd (hHashes.mp hNone) (Nat.not_le.mpr hOne)
    obtain ⟨lookUps, reports, target, rfl, hLookUps, hTarget, hReports, hArgs⟩ :=
      hLists.of_answered hSplit fun exchange hAsked => hAnswer exchange ((hMem exchange).mpr hAsked)
    refine ⟨lookUps, reports, target, last?, hEvents, hLookUps, hTarget, hReports, hArgs, ?_⟩
    obtain ⟨user, hUser⟩ := Option.ne_none_iff_exists'.mp hSplit
    rw [hEnd]
    exact Shell.recorded_of_inquiry rfl (Action.inquires_listQuotas hUser _ _ _ hBody)

/-! ## A report that breaks off -/

namespace Shell

namespace BrokenReport

def context : Context :=
  { settings := { zone := "otherZone" }, user := ⟨"rods", "tempZone"⟩, fuel := 1 }

/-- A service that answers its queries with these replies, one after the other. -/
def answer : (query : Query) → List SimpleReply → query.Answer × List SimpleReply
  | .print _, replies => ((), replies)
  | .readLine _, replies => (.ok none, replies)
  | .readSecret _, replies => (.error "nobody is there", replies)
  | .clock, replies => (0, replies)
  | .call (.simpleQuery _), reply :: replies => (⟨[], .ok reply⟩, replies)
  | .call c, replies => (⟨[], .error (.protocol c.operation 503)⟩, replies)

/-- It names its zone, rejects the first listing and answers the second one. -/
def replies : List SimpleReply :=
  [⟨.success, "tempZone\n", 0⟩, ⟨.noApiPrivilege, "", 0⟩, ⟨.success, "quota_limit: 100\n", 0⟩]

def run : Proc.Run interface (List SimpleReply) (Outcome × State) :=
  (toProc (dispatch (.ofWords ["lq", "alice"])) context State.initial).run ⟨answer⟩ replies

end BrokenReport

open BrokenReport in
/-- The local zone is asked for, the second report is printed behind the heading of the first one,
and the rejection of the first one is what is recorded. -/
theorem second_report_behind_rejection :
    localZoneCall ∈ callsIn run.events ∧
    printedOn .out run.events
      = ["Per resource quotas (if any) for user/group alice:",
        "\nGlobal (total usage) quotas (if any) for user/group alice:", "quota_limit: 100"] ∧
    recorded run.value? = some (.handled, .noApiPrivilege) := by
  have hNeeds : NeedsLocalZone none "alice" := ⟨rfl, by decide, "alice", by decide +kernel⟩
  have hLists := quotas_reported_twice ⟨answer⟩ replies context State.initial
    (.ofWords ["lq", "alice"]) rfl
  exact ⟨hLists.1.mpr hNeeds, by decide +kernel, by decide +kernel⟩

end Shell

end GridAdmin
