import GridAdmin.Proofs.Shell.Conservation
import GridAdmin.Proofs.Shell.Gates
import GridAdmin.Proofs.Shell.SingleRequest

/-!
# One request from end to end

All changes of the catalog but those of replicas are administrative requests, and all of them
are sent by one function.  It puts the flag for a trial into the request, makes the general
call, makes the user call where that is due, reports on the last of the two calls and prints
the error stack.  A call that never got a reply is no reason to stop early: it stands for a
status, and the report and the error stack come behind it as behind any other.

The courses that this can take are written down once, without the function: which calls are
made with which slots, what the last of them stands for, and what is printed behind them.
The function takes exactly these courses, so that nothing else happens on any of them, and
everything that is said about sending is said about courses.

## Main definitions

* `StandsFor`: the status that the end of a call stands for.
* `Shell.Course`: one whole course of sending a request.
* `Shell.IsAccounted`: the calls and the diagnostics of a course.

## Main results

* `Shell.trace_send_iff`: sending takes these courses and no others.
* `Shell.Course.isAccounted`: what every course has in common.
* `Shell.send_follows_course`: both together.
-/

namespace GridAdmin

/-! ## What is sent, and what comes of it -/

/-- Only a trial changes the request, and only in the slot of its flag. -/
theorem SendOptions.get_apply (options : SendOptions) (request : AdminRequest) (index : Nat) :
    Slots.get (options.apply request) index
      = if options.dryRun = true ∧ index = 3 then "--dryrun" else Slots.get request index := by
  unfold apply
  by_cases hDryRun : options.dryRun = true
  · simp only [hDryRun, if_true, true_and, AdminRequest.get_asDryRun]
  · rw [if_neg hDryRun, if_neg fun hBoth => hDryRun hBoth.1]

/-- The end of a call stands for this status.  Where there was no reply, only the kind of the
failure counts: a connection that broke, credentials that were rejected, and anything else. -/
inductive StandsFor : Except ClientError Status → Status → Prop where
  | answered (status : Status) : StandsFor (.ok status) status
  | connect (address cause : String) : StandsFor (.error (.connect address cause)) .connectError
  | transport (operation : Operation) (cause : String) :
      StandsFor (.error (.transport operation cause)) .connectError
  | authentication (user : UserIdentity) :
      StandsFor (.error (.authentication user)) .invalidAuthentication
  | protocol (operation : Operation) (httpStatus : Nat) :
      StandsFor (.error (.protocol operation httpStatus)) .unknownError
  | decode (operation : Operation) (cause : String) :
      StandsFor (.error (.decode operation cause)) .unknownError
  | endpoint (address cause : String) : StandsFor (.error (.endpoint address cause)) .unknownError

namespace Shell

private theorem standsFor_sentStatus (result : Except ClientError Status) :
    StandsFor result (sentStatus result) := by
  cases result with
  | ok status => exact .answered status
  | error e =>
      cases e with
      | connect address cause => exact .connect address cause
      | authentication user => exact .authentication user
      | transport operation cause => exact .transport operation cause
      | protocol operation httpStatus => exact .protocol operation httpStatus
      | decode operation cause => exact .decode operation cause
      | endpoint address cause => exact .endpoint address cause

private theorem eq_sentStatus_of_standsFor {result : Except ClientError Status} {status : Status}
    (hStatus : StandsFor result status) : status = sentStatus result := by
  cases hStatus <;> rfl

/-! ## Courses -/

/-- One whole course of sending a request: the calls, the report on the last of them, and behind
it the error stack, with what was on it before and what the calls pushed.  At the end the error
stack is empty, and nothing else was changed. -/
inductive Course (request : AdminRequest) (options : SendOptions) (state : State) :
    List Event → Option (Status × State) → Prop where
  | intro {sent : AdminRequest} {calls : List Event} {pushed : List Diagnostic}
      {way : AdminRoute} {result : Except ClientError Status} {status : Status}
      (hSent : ∀ index, Slots.get sent index
        = if options.dryRun = true ∧ index = 3 then "--dryrun" else Slots.get request index)
      (hAttempts : Attempts sent options calls pushed way result)
      (hStatus : StandsFor result status) :
      Course request options state
        (calls ++ shown (sentLines way sent options result)
          ++ shown (stackLines 0 (state.stack ++ pushed)))
        (some (status, { state with stack := [] }))

section Courses

variable {context : Context} {state : State} {request sent : AdminRequest} {options : SendOptions}
  {events calls : List Event} {pushed : List Diagnostic} {way : AdminRoute}
  {result : Except ClientError Status} {last? : Option (Status × State)}

/-- The slots decide what is sent. -/
theorem eq_apply_of_get
    (hSent : ∀ index, Slots.get sent index
      = if options.dryRun = true ∧ index = 3 then "--dryrun" else Slots.get request index) :
    sent = options.apply request :=
  Slots.ext_get fun index _ => (hSent index).trans (options.get_apply request index).symm

/-- Sending takes these courses and no others. -/
theorem trace_send_iff :
    Proc.Trace (toProc (send request options) context state) events last?
      ↔ Course request options state events last? := by
  constructor
  · intro hTrace
    have hCourse : Ensures (send request options) context state (Course request options state) := by
      refine ensures_send.mpr fun calls pushed way result hAttempts => ?_
      rw [shown_append, ← List.append_assoc]
      exact .intro (options.get_apply request) hAttempts (standsFor_sentStatus result)
    exact hCourse _ _ hTrace
  · rintro ⟨hSent, hAttempts, hStatus⟩
    -- The traces themselves are a condition that holds of all traces.
    have hTraces : Ensures (send request options) context state
        (Proc.Trace (toProc (send request options) context state)) := fun _ _ hTrace => hTrace
    have hTrace := ensures_send.mp hTraces _ _ _ _ (eq_apply_of_get hSent ▸ hAttempts)
    rw [shown_append, ← List.append_assoc] at hTrace
    rw [eq_sentStatus_of_standsFor hStatus, eq_apply_of_get hSent]
    exact hTrace

end Courses

/-! ## Calls and diagnostics -/

/-- The first call is the general one.  The user call follows it exactly if it was refused outright
and the options allow that, with the same request, and there are no other calls. -/
def FollowsUp (sent : AdminRequest) (options : SendOptions) (events : List Event) : Prop :=
  ∃ (exchange : Exchange (.generalAdmin sent)) (rest : List Event),
    events = ⟨Query.call (.generalAdmin sent), exchange⟩ :: rest ∧
      ((options.fallback = true ∧ exchange.result = .ok .noApiPrivilege ∧
          callsIn rest = [.userAdmin sent]) ∨
        (¬(options.fallback = true ∧ exchange.result = .ok .noApiPrivilege) ∧
          callsIn rest = []))

/-- The calls of a course, and its diagnostics: those from before and those of the calls are
printed together at the end, and none in front of that. -/
structure IsAccounted (request : AdminRequest) (options : SendOptions) (stack : ErrorStack)
    (events : List Event) : Prop where
  calls : FollowsUp (options.apply request) options events
  printed : printedIn events = numbered (stack ++ pushedIn events)
  printed_last : ∃ front, printedIn front = [] ∧
    events = front ++ shown (stackLines 0 (stack ++ pushedIn events))

section Accounts

variable {state : State} {request : AdminRequest} {options : SendOptions}
  {events calls : List Event} {pushed : List Diagnostic} {way : AdminRoute}
  {result : Except ClientError Status} {last? : Option (Status × State)}

private theorem Attempts.pushedIn_eq
    (hAttempts : Attempts request options calls pushed way result) :
    pushedIn calls = pushed := by
  cases hAttempts with
  | once exchange hOnce => simp
  | again pushed exchange hFallback => simp

private theorem Attempts.printedIn_eq
    (hAttempts : Attempts request options calls pushed way result) :
    printedIn calls = [] := by
  cases hAttempts with
  | once exchange hOnce => rfl
  | again pushed exchange hFallback => rfl

/-- Lines that are shown behind the calls add no others. -/
private theorem Attempts.followsUp (hAttempts : Attempts request options calls pushed way result)
    (lines : List Line) : FollowsUp request options (calls ++ shown lines) := by
  have hLines : callsIn (shown lines) = [] := callsIn_of_noCall noCall_shown
  cases hAttempts with
  | once exchange hOnce => exact ⟨exchange, shown lines, rfl, Or.inr ⟨hOnce, hLines⟩⟩
  | again pushed exchange hFallback =>
      refine ⟨⟨pushed, .ok .noApiPrivilege⟩,
        ⟨Query.call (.userAdmin request), exchange⟩ :: shown lines, rfl,
        Or.inl ⟨hFallback, rfl, ?_⟩⟩
      rw [callsIn_cons_call, hLines]

/-- What every course has in common. -/
theorem Course.isAccounted (hCourse : Course request options state events last?) :
    IsAccounted request options state.stack events := by
  obtain @⟨sent, calls, pushed, way, result, status, hSent, hAttempts, hStatus⟩ := hCourse
  obtain rfl := eq_apply_of_get hSent
  have hReport : printedIn (shown (sentLines way (options.apply request) options result)) = [] :=
    printedIn_shown sentLines_ne_diagnostic
  have hPushed : pushedIn (calls ++ shown (sentLines way (options.apply request) options result)
      ++ shown (stackLines 0 (state.stack ++ pushed))) = pushed := by
    simp [hAttempts.pushedIn_eq]
  have hFront : printedIn
      (calls ++ shown (sentLines way (options.apply request) options result)) = [] := by
    rw [printedIn_append, hAttempts.printedIn_eq, hReport, List.nil_append]
  refine ⟨?_, ?_, _, hFront, by rw [hPushed]⟩
  · rw [List.append_assoc, ← shown_append]
    exact hAttempts.followsUp _
  · rw [hPushed, printedIn_append, hFront, List.nil_append, printedIn_stackLines]

end Accounts

/-- Sending a request takes the courses that are written down here and no others, whatever the
terminal and the connection answer.  On each of them the calls and the diagnostics are accounted
for. -/
theorem send_follows_course (context : Context) (state : State) (request : AdminRequest)
    (options : SendOptions) :
    (∀ events last?, Proc.Trace (toProc (send request options) context state) events last? ↔
      Course request options state events last?) ∧
    (∀ (σ : Type) (handler : Proc.Handler interface σ) (surroundings : σ),
      Course request options state
        ((toProc (send request options) context state).run handler surroundings).events
        ((toProc (send request options) context state).run handler surroundings).value?) ∧
    ∀ events last?, Course request options state events last? →
      IsAccounted request options state.stack events :=
  ⟨fun _ _ => trace_send_iff, fun _ handler surroundings =>
    trace_send_iff.mp (Proc.trace_run handler _ surroundings), fun _ _ => Course.isAccounted⟩

/-! ## A retry that is lost -/

namespace LostRetry

def message (text : String) : Diagnostic :=
  { status := .connectError, message := text }

def context : Context :=
  { settings := { zone := "tempZone" }, user := ⟨"rods", "tempZone"⟩, fuel := 0 }

/-- The request of a group change, which is only tried. -/
def request : AdminRequest :=
  .ofValues ["modify", "group", "staff", "add", "bob"]

def options : SendOptions :=
  { fallback := true, dryRun := true }

def state : State :=
  { State.initial with stack := [message "left over"] }

def sent : AdminRequest :=
  .ofValues ["modify", "group", "staff", "--dryrun", "bob"]

def failure : ClientError := .transport .userAdmin "connection reset"

/-- The general call is refused outright, and the connection breaks during the user call. -/
def events : List Event :=
  [⟨.call (.generalAdmin sent), ⟨[message "refused"], .ok .noApiPrivilege⟩⟩,
    ⟨.call (.userAdmin sent), ⟨[message "interrupted"], .error failure⟩⟩] ++
    shown [.adminUnanswered .generalThenUser failure, .adminFailed .generalThenUser .connectError,
      .diagnostic 0 (message "left over"), .diagnostic 1 (message "refused"),
      .diagnostic 2 (message "interrupted")]

theorem course : Course request options state events (some (.connectError, State.initial)) :=
  .intro (options.get_apply request)
    (.again [message "refused"] ⟨[message "interrupted"], .error failure⟩ rfl)
    (.transport .userAdmin "connection reset")

end LostRetry

open LostRetry in
/-- The diagnostics of both calls are printed behind the one from before. -/
theorem send_of_lost_retry :
    Proc.Trace (toProc (send request options) context state) events
        (some (.connectError, State.initial)) ∧
      printedIn events
        = [(0, message "left over"), (1, message "refused"), (2, message "interrupted")] := by
  obtain ⟨hTraces, -, hAccounts⟩ := send_follows_course context state request options
  exact ⟨(hTraces _ _).mpr course, (hAccounts _ _ course).printed⟩

end Shell

end GridAdmin
