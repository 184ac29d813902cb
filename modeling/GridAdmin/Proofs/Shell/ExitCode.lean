import GridAdmin.Proofs.Shell.Refusal
import GridAdmin.Proofs.Shell.SingleRequest
import GridAdmin.Proofs.StatusPacking

/-!
# Failure reports and exit codes

What a session exits with comes from the status that its last command left behind, and
what the terminal shows comes from the lines that were printed on the way.  The two are
computed in different places and by different tests of the same status, and this module
compares them.

They agree for every known verb, with one exception that is meant: a request that
changed no rows is no failure to report, and yet its status is not that of a success.
Only `rum` turns it into one.  A verb that is not known leaves the status of bad input
with a note that is no failure report.

A positive status is set aside for the two verbs that report on it.

## Main definitions

* `Shell.reports`: a failure was reported.
* `Shell.Unreported`: a request changed no rows, and nothing is made of it.
* `Shell.Agrees`: reports and exit code tell the same.

## Main results

* `Sent.reports_iff`: when a request is reported on as a failure.
* `reports_iff_exitCode`: the comparison for all commands.
-/

namespace GridAdmin

/-! ## Failures -/

/-- A status that is neither a success nor positive is a failure. -/
theorem Status.isFailure_iff_ne_success {status : Status} (hPositive : ¬0 < status.code) :
    status.isFailure = true ↔ status ≠ .success := by
  obtain ⟨code⟩ := status
  have hZero : (⟨code⟩ : Status) ≠ .success ↔ code.toInt ≠ (0 : Int32).toInt := by
    rw [success, ne_eq, Status.mk.injEq, ← Int32.toInt_inj]
  rw [Int32.lt_iff_toInt_lt] at hPositive
  rw [hZero, isFailure, decide_eq_true_eq, Int32.lt_iff_toInt_lt]
  dsimp only at hPositive ⊢
  omega

private theorem ShellError.isFailure_of_isLocal {e : ShellError} (hLocal : e.isLocal = true) :
    e.status.isFailure = true := by
  cases e <;> first | rfl | cases hLocal

/-! ## Verbs with a handler of their own -/

theorem Verb.handler?_eq_iff {name verb : String} {handler : Handler}
    (hName : Verb.handler? name = some handler)
    (hOnly : ∀ entry ∈ Verb.table, entry.2 = handler → entry.1 = name) :
    Verb.handler? verb = some handler ↔ verb = name := by
  constructor
  · exact fun hVerb => hOnly _ (Verb.mem_table_of_handler? hVerb) rfl
  · rintro rfl
    exact hName

private theorem Verb.handler?_rum {verb : String} :
    Verb.handler? verb = some (.change .removeUnusedMetadata) ↔ verb = "rum" :=
  Verb.handler?_eq_iff (by decide +kernel) (by decide +kernel)

private theorem Verb.handler?_rmresc {verb : String} :
    Verb.handler? verb = some (.change .removeResource) ↔ verb = "rmresc" :=
  Verb.handler?_eq_iff (by decide +kernel) (by decide +kernel)

theorem Verb.handler?_modrepl {verb : String} :
    Verb.handler? verb = some (.replica .modify) ↔ verb = "modrepl" :=
  Verb.handler?_eq_iff (by decide +kernel) (by decide +kernel)

/-! ## How requests are reported -/

/-- The request is a removal that is only tried. -/
def AdminRequest.IsTried (request : AdminRequest) (options : SendOptions) : Prop :=
  options.dryRun = true ∧ Slots.get request 0 = "rm" ∧ Slots.get request 1 = "resource"

section Acts

variable {settings : Shell.Settings} {command : Command} {before : List Shell.Event}
  {handler : Handler} {request : AdminRequest} {options : SendOptions} {settle : Status → Status}

/-- Only `rmresc` tries a removal. -/
private theorem Handler.Acts.isTried_iff (hHandler : Verb.handler? command.verb = some handler)
    (hActs : handler.Acts settings command before (.send request options settle)) :
    request.IsTried options ↔ settings.dryRun = true ∧ command.verb = "rmresc" := by
  rw [← Verb.handler?_rmresc, hHandler, Option.some.injEq]
  cases hActs with
  | template template => simp [AdminRequest.IsTried]
  | resourceTypes => simp [AdminRequest.IsTried]
  | @change kind request hRequest =>
      cases hRequest with
      | removeResource =>
          cases hDryRun : settings.dryRun with
          | true => exact iff_of_true ⟨hDryRun, rfl, rfl⟩ ⟨rfl, rfl⟩
          | false => simp [AdminRequest.IsTried, Change.sendOptions, hDryRun]
      | _ => simp [AdminRequest.IsTried, Change.sendOptions]

/-- Only `rum` records another status than the one that its request was answered with. -/
private theorem Handler.Acts.settle_eq (hHandler : Verb.handler? command.verb = some handler)
    (hActs : handler.Acts settings command before (.send request options settle))
    (status : Status) :
    settle status
      = if command.verb = "rum" ∧ status = .successWithoutInfo then .success else status := by
  simp only [← Verb.handler?_rum, hHandler, Option.some.injEq]
  cases hActs with
  | template template => simp
  | resourceTypes => simp
  | @change kind request hRequest => cases kind <;> simp [Change.settle]

/-- Only `modrepl` updates a replica. -/
theorem Handler.Acts.verb_eq_modrepl {update : ReplicaUpdate}
    (hHandler : Verb.handler? command.verb = some handler)
    (hActs : handler.Acts settings command before (.update update)) :
    command.verb = "modrepl" := by
  rw [← Verb.handler?_modrepl, hHandler]
  cases hActs
  rfl

end Acts

section Reports

variable {route : AdminRoute} {request : AdminRequest} {status : Status} {options : SendOptions}

/-- A removal that is only tried is a failure unless it is exactly a success. -/
private theorem any_reportLines_of_isTried (hTried : request.IsTried options) :
    (reportLines route request status options).any Line.isFailureReport = true
      ↔ status ≠ .success := by
  obtain ⟨hDryRun, hFirst, hSecond⟩ := hTried
  simp [reportLines, hDryRun, hFirst, hSecond, Line.isFailureReport]

/-- Every other failure is reported, but not that no rows were changed. -/
private theorem any_reportLines_of_not_isTried (hUntried : ¬request.IsTried options) :
    (reportLines route request status options).any Line.isFailureReport = true
      ↔ status.isFailure = true ∧ status ≠ .successWithoutInfo := by
  unfold AdminRequest.IsTried at hUntried
  unfold reportLines
  rw [if_neg hUntried]
  by_cases hName : status = .invalidUserName
  · subst hName
    exact iff_of_true rfl (by decide)
  · rw [if_neg hName]
    by_cases hFailure : status.isFailure = true ∧ status ≠ .successWithoutInfo
    · simp [hFailure, Line.isFailureReport]
    · simp [hFailure]

end Reports

namespace Shell

/-! ## Failure reports in events -/

/-- The event prints a failure report. -/
def reportsFailure (event : Event) : Bool :=
  match event.query with
  | .print line => line.isFailureReport
  | .readLine _ | .readSecret _ | .clock | .call _ => false

/-- A failure was reported in these events. -/
def reports (events : List Event) : Bool :=
  events.any reportsFailure

variable {events first rest : List Event} {state next : State}

theorem reports_append : reports (first ++ rest) = (reports first || reports rest) :=
  List.any_append

theorem reports_shown {lines : List Line} :
    reports (shown lines) = lines.any Line.isFailureReport := by
  simp only [reports, shown, List.any_map]
  rfl

private theorem isFailureReport_of_isPlain {line : Line} (hPlain : line.isPlain = true) :
    line.isFailureReport = false := by
  cases line <;> first | rfl | cases hPlain

theorem reports_plain {lines : List Line} (hPlain : ∀ line ∈ lines, line.isPlain = true) :
    reports (shown lines) = false := by
  rw [reports_shown, List.any_eq_false]
  intro line hLine
  simp [isFailureReport_of_isPlain (hPlain line hLine)]

theorem reports_stackLines {stack : ErrorStack} : reports (shown (stackLines 0 stack)) = false := by
  rw [reports_shown, List.any_eq_false]
  intro line hLine
  obtain ⟨level, message, rfl⟩ := eq_diagnostic_of_mem_stackLines hLine
  simp [Line.isFailureReport]

/-! ## Silent events -/

/-- No failure is reported in these events, and no administrative call is made. -/
def Silent (events : List Event) : Prop :=
  reports events = false ∧ NoAdmin events

theorem silent_nil : Silent [] :=
  ⟨rfl, asks_nil⟩

theorem Silent.append (hFirst : Silent first) (hRest : Silent rest) : Silent (first ++ rest) := by
  refine ⟨?_, asks_append_iff.mpr ⟨hFirst.2, hRest.2⟩⟩
  rw [reports_append, hFirst.1, hRest.1]
  rfl

theorem silent_plain {lines : List Line} (hPlain : ∀ line ∈ lines, line.isPlain = true) :
    Silent (shown lines) :=
  ⟨reports_plain hPlain, noAdmin_shown⟩

theorem silent_update {update : ReplicaUpdate} {exchange : Exchange (.modifyReplica update)} :
    Silent [⟨Query.call (.modifyReplica update), exchange⟩] :=
  ⟨rfl, asks_singleton isNoAdmin_update⟩

/-! ## Requests -/

/-- An administrative request was answered that it changed no rows. -/
def AnsweredWithoutInfo (events : List Event) : Prop :=
  ∃ request pushed,
    (⟨Query.call (.generalAdmin request), ⟨pushed, .ok .successWithoutInfo⟩⟩ : Event) ∈ events ∨
    (⟨Query.call (.userAdmin request), ⟨pushed, .ok .successWithoutInfo⟩⟩ : Event) ∈ events

theorem answeredWithoutInfo_append :
    AnsweredWithoutInfo (first ++ rest)
      ↔ AnsweredWithoutInfo first ∨ AnsweredWithoutInfo rest := by
  simp only [AnsweredWithoutInfo, List.mem_append]
  constructor
  · rintro ⟨request, pushed, (hFirst | hRest) | (hFirst | hRest)⟩
    · exact Or.inl ⟨request, pushed, Or.inl hFirst⟩
    · exact Or.inr ⟨request, pushed, Or.inl hRest⟩
    · exact Or.inl ⟨request, pushed, Or.inr hFirst⟩
    · exact Or.inr ⟨request, pushed, Or.inr hRest⟩
  · rintro (⟨request, pushed, hGeneral | hUser⟩ | ⟨request, pushed, hGeneral | hUser⟩)
    · exact ⟨request, pushed, Or.inl (Or.inl hGeneral)⟩
    · exact ⟨request, pushed, Or.inr (Or.inl hUser)⟩
    · exact ⟨request, pushed, Or.inl (Or.inr hGeneral)⟩
    · exact ⟨request, pushed, Or.inr (Or.inr hUser)⟩

theorem NoAdmin.not_answeredWithoutInfo (hNoAdmin : NoAdmin events) :
    ¬AnsweredWithoutInfo events := by
  rintro ⟨request, pushed, hGeneral | hUser⟩
  · cases (hNoAdmin _ hGeneral _ rfl).1
  · cases (hNoAdmin _ hUser _ rfl).2

variable {request : AdminRequest} {options : SendOptions} {status : Status}

private theorem sentStatus_eq_successWithoutInfo_iff {result : Except ClientError Status} :
    sentStatus result = .successWithoutInfo ↔ result = .ok .successWithoutInfo := by
  cases result with
  | ok status => simp [sentStatus]
  | error e => cases e <;> simp [sentStatus, ClientError.status] <;> decide

private theorem answeredWithoutInfo_general {exchange : Exchange (.generalAdmin request)} :
    AnsweredWithoutInfo [⟨Query.call (.generalAdmin request), exchange⟩]
      ↔ exchange.result = .ok .successWithoutInfo := by
  constructor
  · rintro ⟨other, pushed, hGeneral | hUser⟩
    · cases List.mem_singleton.mp hGeneral
      rfl
    · cases List.mem_singleton.mp hUser
  · obtain ⟨pushed, result⟩ := exchange
    rintro rfl
    exact ⟨request, pushed, Or.inl (List.mem_singleton.mpr rfl)⟩

private theorem answeredWithoutInfo_user {exchange : Exchange (.userAdmin request)} :
    AnsweredWithoutInfo [⟨Query.call (.userAdmin request), exchange⟩]
      ↔ exchange.result = .ok .successWithoutInfo := by
  constructor
  · rintro ⟨other, pushed, hGeneral | hUser⟩
    · cases List.mem_singleton.mp hGeneral
    · cases List.mem_singleton.mp hUser
      rfl
  · obtain ⟨pushed, result⟩ := exchange
    rintro rfl
    exact ⟨request, pushed, Or.inr (List.mem_singleton.mpr rfl)⟩

/-- The last call decides whether a request changed no rows. -/
theorem Sent.answeredWithoutInfo_iff (hSent : Sent request options state events status next) :
    AnsweredWithoutInfo events ↔ status = .successWithoutInfo := by
  have hShown : ∀ lines, ¬AnsweredWithoutInfo (shown lines) :=
    fun _ => noAdmin_shown.not_answeredWithoutInfo
  cases hSent with
  | once exchange hOnce =>
      rw [← List.singleton_append, answeredWithoutInfo_append, answeredWithoutInfo_general,
        or_iff_left (hShown _), sentStatus_eq_successWithoutInfo_iff]
  | again pushed exchange hFallback =>
      have hRefused : (.ok .noApiPrivilege : Except ClientError Status)
          ≠ .ok .successWithoutInfo :=
        fun hSame => absurd (Except.ok.inj hSame) (by decide)
      rw [← List.singleton_append, answeredWithoutInfo_append, answeredWithoutInfo_general,
        or_iff_right hRefused, ← List.singleton_append, answeredWithoutInfo_append,
        answeredWithoutInfo_user, or_iff_left (hShown _), sentStatus_eq_successWithoutInfo_iff]

/-- What is reported about a request depends on the status that it ends with. -/
theorem Sent.reports_iff (hSent : Sent request options state events status next) :
    reports events = true ↔
      (request.IsTried options ∧ status ≠ .success) ∨
      (¬request.IsTried options ∧ status.isFailure = true ∧ status ≠ .successWithoutInfo) := by
  have hLines : ∀ route result stack,
      reports (shown (sentLines route request options result ++ stackLines 0 stack)) = true ↔
        (request.IsTried options ∧ sentStatus result ≠ .success) ∨
        (¬request.IsTried options ∧ (sentStatus result).isFailure = true ∧
          sentStatus result ≠ .successWithoutInfo) := by
    intro route result stack
    rw [shown_append, reports_append, reports_stackLines, Bool.or_false, reports_shown]
    have hReport : (sentLines route request options result).any Line.isFailureReport
        = (reportLines route request (sentStatus result) options).any Line.isFailureReport := by
      cases result <;> rfl
    rw [hReport]
    by_cases hTried : request.IsTried options
    · simp [any_reportLines_of_isTried hTried, hTried]
    · simp [any_reportLines_of_not_isTried hTried, hTried]
  cases hSent with
  | once exchange hOnce => exact hLines _ _ _
  | again pushed exchange hFallback => exact hLines _ _ _

/-! ## Reports and exit codes -/

/-- A request changed no rows, and neither `rum` nor a tried removal makes anything of
it. -/
def Unreported (settings : Settings) (command : Command) (events : List Event) : Prop :=
  command.verb ≠ "rum" ∧ ¬(settings.dryRun = true ∧ command.verb = "rmresc") ∧
    AnsweredWithoutInfo events

/-- A failure is reported exactly where the exit code is not zero, unless a request
changed no rows: that exits like a failure and is not reported. -/
def Agrees (settings : Settings) (command : Command) (events : List Event) (status : Status) :
    Prop :=
  (reports events = true ↔ status.exitCode ≠ 0 ∧ ¬Unreported settings command events) ∧
    (Unreported settings command events → status.exitCode = 4)

/-- A positive status, for one of the two verbs that report on it. -/
def IsOddSuccess (settings : Settings) (command : Command) (status : Status) : Prop :=
  0 < status.code ∧
    (command.verb = "modrepl" ∨ settings.dryRun = true ∧ command.verb = "rmresc")

variable {settings : Settings} {command : Command} {handler : Handler}

/-- Without an administrative call, reports need to tell the failures only. -/
theorem agrees_of_noAdmin (hNoAdmin : NoAdmin events)
    (hReports : reports events = true ↔ status.isFailure = true) :
    Agrees settings command events status := by
  have hNone : ¬Unreported settings command events :=
    fun hUnreported => hNoAdmin.not_answeredWithoutInfo hUnreported.2.2
  refine ⟨?_, fun hUnreported => absurd hUnreported hNone⟩
  rw [hReports, Status.exitCode_ne_zero_iff, and_iff_left hNone]

theorem Silent.agrees (hSilent : Silent events) (hStatus : status = .success) :
    Agrees settings command events status := by
  refine agrees_of_noAdmin hSilent.2 ?_
  rw [hSilent.1, hStatus]
  decide

/-- Silent events in front and behind make no difference. -/
theorem Agrees.surround (hAgrees : Agrees settings command events status)
    (hFirst : Silent first) (hRest : Silent rest) :
    Agrees settings command (first ++ events ++ rest) status := by
  have hUnreported : Unreported settings command (first ++ events ++ rest)
      ↔ Unreported settings command events := by
    rw [Unreported, Unreported, answeredWithoutInfo_append, answeredWithoutInfo_append,
      or_iff_left hRest.2.not_answeredWithoutInfo, or_iff_right hFirst.2.not_answeredWithoutInfo]
  rw [Agrees, hUnreported, reports_append, reports_append, hFirst.1, hRest.1, Bool.false_or,
    Bool.or_false]
  exact hAgrees

theorem Agrees.prepend (hAgrees : Agrees settings command events status)
    (hFirst : Silent first) : Agrees settings command (first ++ events) status := by
  have hAll := hAgrees.surround hFirst silent_nil
  rw [List.append_nil] at hAll
  exact hAll

/-- What is reported about a request agrees with the status that its command records. -/
private theorem Sent.agrees {before : List Event} {settle : Status → Status}
    (hHandler : Verb.handler? command.verb = some handler)
    (hActs : handler.Acts settings command before (.send request options settle))
    (hSent : Sent request options state events status next)
    (hPositive : ¬IsOddSuccess settings command (settle status)) :
    Agrees settings command events (settle status) := by
  have hTried := hActs.isTried_iff hHandler
  have hSettle := hActs.settle_eq hHandler status
  have hUnreported : Unreported settings command events ↔
      command.verb ≠ "rum" ∧ ¬request.IsTried options ∧ status = .successWithoutInfo := by
    rw [Unreported, hSent.answeredWithoutInfo_iff, hTried]
  rw [Agrees, hSent.reports_iff, hUnreported, Status.exitCode_ne_zero_iff]
  by_cases hDry : request.IsTried options
  · -- Any status but that of a success is reported, and none that is left is positive.
    obtain ⟨hDryRun, hVerb⟩ := hTried.mp hDry
    have hOther : command.verb ≠ "rum" := by
      rw [hVerb]
      decide
    rw [if_neg fun hBoth => hOther hBoth.1] at hSettle
    rw [hSettle] at hPositive ⊢
    have hFailure : status.isFailure = true ↔ status ≠ .success :=
      Status.isFailure_iff_ne_success fun hCode => hPositive ⟨hCode, Or.inr ⟨hDryRun, hVerb⟩⟩
    simp [hDry, hFailure]
  · by_cases hNone : status = .successWithoutInfo
    · by_cases hVerb : command.verb = "rum"
      · rw [if_pos ⟨hVerb, hNone⟩] at hSettle
        have hSuccess : ¬Status.success.isFailure = true := by decide
        rw [hSettle]
        simp [hDry, hVerb, hNone, hSuccess]
      · rw [if_neg fun hBoth => hVerb hBoth.1] at hSettle
        have hExit : Status.successWithoutInfo.exitCode = 4 := by decide
        rw [hSettle]
        simp [hDry, hVerb, hNone, hExit]
    · rw [if_neg fun hBoth => hNone hBoth.2] at hSettle
      rw [hSettle]
      simp [hDry, hNone]

/-! ## Handlers -/

/-- An effect that prints plain lines only reports no failure and records no status. -/
private theorem Effect.Step.unreported {effect : Effect} {ending : Ending}
    (hPlain : effect.PrintsPlain) (hStep : effect.Step state events ending) :
    reports events = false ∧
      ∀ after, ending.after? = some after → after.lastStatus = state.lastStatus := by
  cases hStep with
  | print line =>
      refine ⟨?_, fun _ hAfter => by cases hAfter; rfl⟩
      exact reports_plain (List.forall_mem_singleton.mpr (hPlain line rfl))
  | reject c exchange => exact ⟨reports_stackLines, fun _ hAfter => by cases hAfter; rfl⟩
  | starve => exact ⟨rfl, fun _ hAfter => by cases hAfter⟩
  | _ => exact ⟨rfl, fun _ hAfter => by cases hAfter; rfl⟩

private theorem composes_unreported : Composes fun state events ending =>
    reports events = false ∧
      ∀ after, ending.after? = some after → after.lastStatus = state.lastStatus where
  nil := fun state => ⟨rfl, by rintro _ ⟨⟩; rfl⟩
  append := by
    rintro state next events rest ending ⟨hFirst, hNext⟩ ⟨hRest, hLast⟩
    refine ⟨?_, fun after hAfter => (hLast after hAfter).trans (hNext next rfl)⟩
    rw [reports_append, hFirst, hRest]
    rfl

theorem Path.unreported {allowed : Effect → Prop} {ending : Ending}
    (hPlain : ∀ effect, allowed effect → effect.PrintsPlain)
    (hPath : Path allowed state events ending) :
    reports events = false ∧
      ∀ after, ending.after? = some after → after.lastStatus = state.lastStatus :=
  hPath.holds composes_unreported fun effect _ _ _ hAllowed hStep =>
    hStep.unreported (hPlain effect hAllowed)

section Handlers

variable {user : UserIdentity} {ending : Ending}

theorem Path.quiet_silent (hPath : Path Effect.IsQuiet state events ending) : Silent events :=
  ⟨(hPath.unreported fun _ => Effect.IsQuiet.printsPlain).1, hPath.quiet.1.noAdmin⟩

/-- Inquiries are silent and record nothing. -/
theorem Path.inquiry_silent {lookUps : Call → Prop}
    (hPath : Path (Effect.IsInquiry user lookUps) state events ending) :
    Silent events ∧
      ∀ after, ending.after? = some after → after.lastStatus = state.lastStatus := by
  obtain ⟨hReports, hStatus⟩ := hPath.unreported fun _ => Effect.IsInquiry.printsPlain
  exact ⟨⟨hReports, hPath.noAdmin⟩, hStatus⟩

/-- An error is not reported yet where it ends what turns to the service. -/
private theorem Remote.silent_error {acts : Act → Prop} {e : ShellError}
    (hRemote : Remote user acts state events (.error e next)) : Silent events := by
  cases hRemote with
  | asked hPath => exact hPath.inquiry_silent.1
  | concluded hFirst hRest =>
      cases hRest with
      | unanswered hAct pushed e => exact hFirst.inquiry_silent.1.append silent_update

/-- A handler that ends in an error has not reported it yet, and has sent no request. -/
private theorem Phases.silent_error {acts : List Event → Act → Prop} {e : ShellError}
    (hPhases : Phases user acts state events (.error e next)) :
    Silent events ∧ (e = .notFound ∨ e.status.isFailure = true) := by
  cases hPhases with
  | quiet hPath =>
      exact ⟨hPath.quiet_silent, Or.inr (ShellError.isFailure_of_isLocal hPath.quiet.2.2.1)⟩
  | remote hFirst hRest =>
      exact ⟨hFirst.quiet_silent.append hRest.silent_error, hRest.asks.2.2⟩

private theorem Conclusion.agrees {before : List Event}
    (hHandler : Verb.handler? command.verb = some handler)
    (hConclusion : Conclusion (handler.MayAct settings command before) state events (.value next))
    (hPositive : ¬IsOddSuccess settings command next.lastStatus) :
    Agrees settings command events next.lastStatus := by
  cases hConclusion with
  | sent hAct hSent hPlain =>
      exact (hSent.agrees hHandler hAct.2 hPositive).surround silent_nil (silent_plain hPlain)
  | updated hAct pushed => exact silent_update.agrees rfl
  | @rejected update hAct pushed status hStatus =>
      have hVerb : command.verb = "modrepl" := hAct.2.verb_eq_modrepl hHandler
      have hFailure : status.isFailure = true :=
        (Status.isFailure_iff_ne_success fun hCode => hPositive ⟨hCode, Or.inl hVerb⟩).mpr hStatus
      refine agrees_of_noAdmin ?_ (iff_of_true rfl hFailure)
      exact asks_append_iff.mpr ⟨silent_update.2, noAdmin_shown⟩

private theorem Remote.agrees {before : List Event}
    (hHandler : Verb.handler? command.verb = some handler)
    (hRemote : Remote user (handler.MayAct settings command before) state events (.value next))
    (hStart : state.lastStatus = .success)
    (hPositive : ¬IsOddSuccess settings command next.lastStatus) :
    Agrees settings command events next.lastStatus := by
  cases hRemote with
  | asked hPath =>
      obtain ⟨hSilent, hStatus⟩ := hPath.inquiry_silent
      exact hSilent.agrees ((hStatus _ rfl).trans hStart)
  | concluded hFirst hRest =>
      exact (hRest.agrees hHandler hPositive).prepend hFirst.inquiry_silent.1

/-- A handler that ends without an error has reported what its exit code tells. -/
private theorem Phases.agrees (hHandler : Verb.handler? command.verb = some handler)
    (hPhases : Phases user (handler.MayAct settings command) state events (.value next))
    (hStart : state.lastStatus = .success)
    (hPositive : ¬IsOddSuccess settings command next.lastStatus) :
    Agrees settings command events next.lastStatus := by
  cases hPhases with
  | quiet hPath =>
      have hSame : next = state := hPath.quiet.2
      exact hPath.quiet_silent.agrees (by rw [hSame, hStart])
  | remote hFirst hRest =>
      exact (hRest.agrees hHandler hStart hPositive).prepend hFirst.quiet_silent

end Handlers

/-! ## Commands -/

theorem silent_echoed : Silent (echoed settings command) := by
  unfold echoed
  split
  · exact silent_plain (List.forall_mem_singleton.mpr rfl)
  · exact silent_nil

/-- An error is reported, unless it is an empty answer. -/
private theorem reports_failureLine {e : ShellError}
    (hError : e = .notFound ∨ e.status.isFailure = true) :
    reports (shown [failureLine e]) = true ↔ e.status.isFailure = true := by
  unfold failureLine
  by_cases hFound : e = .notFound
  · subst hFound
    decide
  · rw [if_neg hFound]
    exact iff_of_true rfl (hError.resolve_left hFound)

/-- A verb with a handler reports what its exit code tells. -/
private theorem DispatchTrace.agrees {context : Context} {outcome : Outcome} {after : State}
    (hTrace : DispatchTrace context state command events (some (outcome, after)))
    (hHandler : Verb.handler? command.verb = some handler) (hQuit : handler ≠ .quit)
    (hPositive : ¬IsOddSuccess context.settings command after.lastStatus) :
    Agrees context.settings command events after.lastStatus := by
  obtain ⟨body, last, hBody, rfl, hEnd⟩ := hTrace.of_handler hHandler hQuit
  have hPhases := Action.phased_handle _ _ _ hBody
  rw [List.append_assoc]
  refine Agrees.prepend ?_ silent_echoed
  rcases last with _ | ⟨e | ⟨⟩, next⟩
  · cases hEnd
  · obtain ⟨-, rfl⟩ := Prod.mk.inj (Option.some.inj hEnd)
    obtain ⟨hSilent, hError⟩ := hPhases.silent_error
    refine (agrees_of_noAdmin noAdmin_shown ?_).prepend hSilent
    exact reports_failureLine hError
  · obtain ⟨-, rfl⟩ := Prod.mk.inj (Option.some.inj hEnd)
    rw [reportOf, List.append_nil]
    exact hPhases.agrees hHandler rfl hPositive

/-- A verb that is not known gets a note, and the status of bad input. -/
private theorem DispatchTrace.eq_of_unknown {context : Context} {ended? : Option (Outcome × State)}
    (hTrace : DispatchTrace context state command events ended?) (hVerb : command.verb ≠ "")
    (hNone : Verb.handler? command.verb = none) :
    events = echoed context.settings command
        ++ shown [.note "unrecognized command, try 'help'"] ∧
      ended? = some (.invalid, { state with lastStatus := .invalidInput }) := by
  cases hTrace with
  | empty hEmpty => exact absurd hEmpty hVerb
  | unknown hVerb hHandler => exact ⟨rfl, rfl⟩
  | quit hVerb hHandler => cases hNone.symm.trans hHandler
  | finished hVerb hHandler => cases hNone.symm.trans hHandler
  | failed hVerb hHandler => cases hNone.symm.trans hHandler
  | exhausted hVerb hHandler => cases hNone.symm.trans hHandler

/-- Whatever the command and the surroundings are, a command that neither is empty nor
quits reports a failure exactly if it leaves an exit code other than zero behind, with
these exceptions: a verb that is not known gets a note instead of a report, and a
request that changed no rows is not reported where neither `rum` nor a tried removal
makes something of it; both exit like a failure.  Nothing is said about a positive
status for the two verbs that report on it. -/
theorem reports_iff_exitCode {context : Context} {outcome : Outcome} {after : State}
    (hTrace : Proc.Trace (toProc (dispatch command) context state) events
      (some (outcome, after)))
    (hVerb : command.verb ∉ ["", "quit", "q"]) :
    (Verb.handler? command.verb = none →
      events = echoed context.settings command
          ++ shown [.note "unrecognized command, try 'help'"] ∧
        reports events = false ∧ after.lastStatus.exitCode = 4) ∧
    (Verb.handler? command.verb ≠ none →
      ¬IsOddSuccess context.settings command after.lastStatus →
        (reports events = true ↔
          after.lastStatus.exitCode ≠ 0 ∧ ¬Unreported context.settings command events) ∧
        (Unreported context.settings command events → after.lastStatus.exitCode = 4)) := by
  have hDispatch := dispatchTrace_of_trace hTrace
  obtain ⟨hEmpty, hQuit⟩ : command.verb ≠ "" ∧ ¬(command.verb = "quit" ∨ command.verb = "q") := by
    simpa using hVerb
  constructor
  · intro hNone
    obtain ⟨hEvents, hEnd⟩ := hDispatch.eq_of_unknown hEmpty hNone
    obtain ⟨-, rfl⟩ := Prod.mk.inj (Option.some.inj hEnd)
    have hExit : Status.invalidInput.exitCode = 4 := by decide
    refine ⟨hEvents, ?_, hExit⟩
    rw [hEvents, reports_append, silent_echoed.1]
    rfl
  · intro hKnown hPositive
    obtain ⟨handler, hHandler⟩ := Option.ne_none_iff_exists'.mp hKnown
    refine hDispatch.agrees hHandler ?_ hPositive
    rintro rfl
    exact hQuit (Verb.handler?_eq_quit_iff.mp hHandler)

namespace Denied

def context : Context :=
  { settings := { zone := "tempZone" }, user := ⟨"rods", "tempZone"⟩, fuel := 1 }

/-- A user who may not be added. -/
def made : Dispatched where
  command := .ofWords ["mkuser", "alice", "rodsuser"]
  before := State.initial
  events :=
    [⟨.call (.generalAdmin (.ofValues ["add", "user", "alice", "rodsuser"])),
        ⟨[], .ok .noApiPrivilege⟩⟩,
      ⟨.print (.adminFailed .general .noApiPrivilege), ()⟩]
  ended? := some (.handled, { State.initial with lastStatus := .noApiPrivilege })

private theorem made_isTrace : made.IsTrace context := by
  have hTrace := Proc.trace_run Rehearsal.handler
    (toProc (dispatch made.command) context made.before)
    { terminal := {}
      service := { generalAdmin := Script.push [] "alice" { reply := some .noApiPrivilege } } }
  exact hTrace

end Denied

/-- Who lacks the privilege is told so, and the exit code tells it as well. -/
theorem reports_of_denied_request :
    reports Denied.made.events = true ∧ Status.noApiPrivilege.exitCode = 1 := by
  have hKnown : Verb.handler? "mkuser" ≠ none := by
    decide +kernel
  have hAgrees := (reports_iff_exitCode Denied.made_isTrace (by decide)).2 hKnown
    fun hOdd => absurd hOdd.1 (by decide)
  have hSent : Sent (.ofValues ["add", "user", "alice", "rodsuser"]) {} State.initial
      Denied.made.events .noApiPrivilege { State.initial with lastStatus := .noApiPrivilege } :=
    .once ⟨[], .ok .noApiPrivilege⟩ nofun
  have hAnswered : ¬AnsweredWithoutInfo Denied.made.events := by
    rw [hSent.answeredWithoutInfo_iff]
    decide
  exact ⟨hAgrees.1.mpr ⟨by decide, fun hUnreported => hAnswered hUnreported.2.2⟩, by decide⟩

/-! ## Where reports and exit codes differ -/

namespace AtOdds

/-- A service that has nothing to change for a user, and that answers an update of a
replica and a removal with a positive status. -/
def surroundings : Rehearsal where
  terminal := {}
  service :=
    { generalAdmin := Script.push (Script.push [] "alice" { reply := some .successWithoutInfo })
        "demoResc" { reply := some ⟨5⟩ }
      modifyReplica := Script.push [] "" { reply := some ⟨5⟩ } }

def context : Context :=
  { settings := { zone := "tempZone", dryRun := true }, user := ⟨"rods", "tempZone"⟩, fuel := 1 }

/-- A verb that is not known, a request that changes nothing, and two verbs that take a
positive status for a failure. -/
def session : List Dispatched :=
  dispatchAll Rehearsal.handler context
    [.ofWords ["mkusr", "alice", "rodsuser"], .ofWords ["mkuser", "alice", "rodsuser"],
      .ofWords ["modrepl", "data_id", "10042", "replica_number", "0", "DATA_COMMENTS", "old"],
      .ofWords ["rmresc", "demoResc"]]
    State.initial surroundings

/-- The exit code of a command that neither is empty nor quits tells something else than
its reports. -/
def Differs (d : Dispatched) : Prop :=
  d.command.verb ∉ ["", "quit", "q"] ∧
    ∃ ended ∈ d.ended?, ¬(ended.2.lastStatus.exitCode ≠ 0 ↔ reports d.events = true)

instance : DecidablePred Differs :=
  fun _ => inferInstanceAs (Decidable (_ ∧ _))

end AtOdds

/-- Four commands in a row whose exit codes tell something else than their reports. -/
theorem exitCode_at_odds_with_reports :
    Session AtOdds.context State.initial AtOdds.session ∧ AtOdds.session.length = 4 ∧
      ∀ d ∈ AtOdds.session, AtOdds.Differs d :=
  ⟨session_dispatchAll _ _ _ _ _, by decide +kernel⟩

end Shell

end GridAdmin
