import GridAdmin.Proofs.CommandLine.Opening

/-!
# The life of a session

A session that is opened must be closed, or the server keeps it until it forgets about it.  The
program has many ways to end, early ones while the session is opened and late ones in the
commands; so it is not by looking at one of them that one knows that a session is closed on all
of them.

`Life` lists the ways in which a run that needs a session can go.  There are two: no session
came about, or the commands ran to their end and one last request closes the session.  What the
commands did is left to the shell, whose own account of the run is part of the second case.
The last request may be answered in any way and the run still ends with the same code, which is
why an answer stands in that case under a quantifier.

The one assumption is on the server: a token that could not stand in a header would open a
session that no request can reach, not even the one that closes it.

## Main definitions

* `Given.command`, `Given.allSwitches`, `Given.IsOffline`: what a command line comes to.
* `LegalTokens`: the server gives no token that cannot be sent.
* `Life`: all that can become of a run that needs a session.

## Main results

* `trace_runShell_iff`: the requests of an open session.
* `life_of_trace`: a run that needs a session is such a life.
* `requests_of_run`: requests and exit code of any run that ends.
-/

namespace GridAdmin.CommandLine

open Gateway (Request Response)

variable {events : List Event}

/-! ## Closing a session -/

/-- Whoever runs an open session sees the requests of its commands and at last the one that
closes it, which may be answered in any way. -/
theorem trace_runShell_iff {opened : Session} (hSend : opened.CanSend) {fuel : Nat}
    {command : Command} {context : Shell.Context} {status : Status} :
    (∃ after, (runShell (perform opened) context (session fuel command)).Trace events
      (some (status, after)))
      ↔ ∃ commands middle body closing,
          Proc.Trace (Shell.toProc (Shell.runCommands fuel command (decide (command.verb = "")))
            context .initial) commands (some (status, middle)) ∧
          Proc.Interprets (answerShell (perform opened))
            (commands ++ Shell.shown (Shell.stackLines 0 middle.stack)) body ∧
          Sending.IsFor closing opened .disconnect ∧ events = body ++ [closing.event] := by
  constructor
  · rintro ⟨after, hTrace⟩
    obtain ⟨inner, hInner, hAnswers⟩ := Proc.trace_interpret_iff.mp hTrace
    obtain ⟨commands, middle, exchange, hCommands, rfl, -⟩ := Shell.trace_session_iff.mp hInner
    obtain ⟨body, last, rfl, hBody, hLast⟩ := hAnswers.split
    have hPerform := Proc.interprets_singleton_iff.mp hLast
    obtain ⟨closing, hClosing, rfl⟩ := (trace_perform_iff hSend).mp ⟨exchange, hPerform⟩
    exact ⟨commands, middle, body, closing, hCommands, hBody, hClosing, rfl⟩
  · rintro ⟨commands, middle, body, closing, hCommands, hBody, hClosing, rfl⟩
    obtain ⟨exchange, hPerform⟩ := (trace_perform_iff hSend).mpr ⟨closing, hClosing, rfl⟩
    have hInner := Shell.trace_session_iff.mpr ⟨commands, middle, exchange, hCommands, rfl, rfl⟩
    have hLast := (@Proc.interprets_singleton_iff Shell.interface interface
      (answerShell (perform opened)) (Shell.Query.call .disconnect) exchange
      [closing.event]).mpr hPerform
    exact ⟨_, Proc.trace_interpret_iff.mpr ⟨_, hInner, hBody.append hLast⟩⟩

/-! ## Runs that need a session -/

/-- The command of a command line, without the switches among its words. -/
def Given.command (given : Given) : Command :=
  Command.ofWords (lift given.words).1

/-- The switches in front of the command and among its words. -/
def Given.allSwitches (given : Given) : Switches :=
  (lift given.words).2.merge given.switches

/-- The tokens that logins were answered with can be sent. -/
def LegalTokens (events : List Event) : Prop :=
  ∀ login ∈ traffic events, login.LogsIn → ∀ response token, login.answer = .ok response →
    Connector.GrantsToken response token → Gateway.isHeaderText token = true

/-- All that can become of a run that needs a session, and what it exits with. -/
inductive Life (environment : String → Option String) (given : Given) (fuel : Nat) :
    List Event → Nat → Prop where
  | unopened {first : List Event} {failure : StartFailure}
      (hOpening : Opening given.options (environment "HOME") first (.error failure)) :
      Life environment given fuel (first ++ [⟨Query.notify (.notStarted failure), ()⟩])
        failure.exitCode
  | closed {first body : List Event} {session : Session} {password : String}
      {inner : List Shell.Event} {status : Status} {after : Shell.State} {closing : Sending}
      (hOpening : Opening given.options (environment "HOME") first (.ok (session, password)))
      (hShell : Proc.Trace
        (Shell.toProc (Shell.runCommands fuel given.command (decide (given.command.verb = "")))
          (sessionContext session password given.allSwitches fuel) .initial)
        inner (some (status, after)))
      (hBody : Proc.Interprets (answerShell (perform session))
        (inner ++ Shell.shown (Shell.stackLines 0 after.stack)) body)
      (hCommands : List.Forall₂ (fun call sending => Sending.IsFor sending session call)
        (Shell.callsIn inner) (traffic body))
      (hOpen : Call.disconnect ∉ Shell.callsIn inner)
      (hClosing : closing.IsFor session .disconnect)
      (hOther : ∀ answer last?, (runGiven environment given fuel).Trace
        (first ++ (body ++ [Sending.event ⟨closing.request, answer⟩])) last?
          ↔ last? = some status.exitCode) :
      Life environment given fuel (first ++ (body ++ [closing.event])) status.exitCode

section Life

variable {environment : String → Option String} {given : Given} {fuel code : Nat}

/-- An open session can send all its requests. -/
private theorem Opening.canSend {options : Options} {home : Option String} {session : Session}
    {password : String} (hOpening : Opening options home events (.ok (session, password)))
    (hLegal : LegalTokens events) : session.CanSend := by
  cases hOpening with
  | @opened front client password token login hFront hLogin hToken =>
      obtain ⟨response, hOk, hGrants⟩ := hToken
      have hHeader : Gateway.isHeaderText token = true := by
        refine hLegal login ?_ ⟨client, password, hLogin⟩ response token hOk hGrants
        rw [traffic_append, traffic_sending]
        exact List.mem_append_right _ (List.mem_singleton_self login)
      cases hFront with
      | probed hFirst hProbe hVersion hPrompt =>
          obtain ⟨hBase, -, -, hScheme⟩ := Connector.of_probeRequest hProbe.request
          refine ⟨hBase, ?_, hHeader⟩
          show Gateway.isHttp client.base.scheme = true
          rw [← hScheme]
          exact (Gateway.refusal?_eq_none_iff.mp hProbe.free).2

theorem LegalTokens.of_append {rest : List Event} (hLegal : LegalTokens (events ++ rest)) :
    LegalTokens events := by
  intro login hMem
  refine hLegal login ?_
  rw [traffic_append]
  exact List.mem_append_left _ hMem

/-- A run that needs a session and ends is such a life. -/
theorem life_of_trace
    (hGiven : runGiven environment given fuel = runSession given.options (environment "HOME")
      given.allSwitches given.command fuel)
    (hTrace : (runGiven environment given fuel).Trace events (some code))
    (hLegal : LegalTokens events) : Life environment given fuel events code := by
  rw [hGiven] at hTrace
  obtain ⟨result, first, rest, hFirst, hRest, rfl⟩ := Proc.trace_bind_some_iff.mp hTrace
  have hOpening := opening_of_trace hFirst
  rcases result with failure | ⟨session, password⟩
  · obtain ⟨⟨⟩, _, rfl, hDone⟩ := Proc.trace_ask_iff.mp hRest
    obtain ⟨rfl, hCode⟩ := Proc.trace_done_iff.mp hDone
    cases hCode
    exact .unopened hOpening
  have hSend := hOpening.canSend hLegal.of_append
  obtain ⟨⟨status, after⟩, shell, last, hShell, hDone, rfl⟩ := Proc.trace_bind_some_iff.mp hRest
  obtain ⟨rfl, hCode⟩ := Proc.trace_done_iff.mp hDone
  cases hCode
  obtain ⟨commands, middle, body, closing, hCommands, hBody, hClosing, rfl⟩ :=
    (trace_runShell_iff hSend).mp ⟨after, hShell⟩
  have hCalls := traffic_interprets hSend hBody
  rw [Shell.callsIn_append, Shell.callsIn_of_noCall Shell.noCall_shown, List.append_nil] at hCalls
  have hOpen := (Shell.keepsOpen_runCommands _ _ hCommands status middle rfl).disconnect_notMem
  rw [List.append_nil]
  refine .closed hOpening hCommands hBody hCalls hOpen hClosing ?_
  -- The same run with another answer to the last request: the commands are over by then, so
  -- there is such a trace, and the events of a trace fix its end.
  intro answer last?
  have hRun : (runSession given.options (environment "HOME") given.allSwitches given.command
      fuel).Trace (first ++ (body ++ [Sending.event ⟨closing.request, answer⟩]))
      (some status.exitCode) := by
    obtain ⟨later, hOther⟩ := (trace_runShell_iff hSend).mpr
      ⟨commands, middle, body, ⟨closing.request, answer⟩, hCommands, hBody, hClosing, rfl⟩
    refine Proc.trace_bind_some_iff.mpr ⟨_, first, _, hFirst, ?_, rfl⟩
    exact Proc.trace_bind_some_iff.mpr ⟨_, _, [], hOther, .done _, (List.append_nil _).symm⟩
  rw [hGiven]
  constructor
  · exact fun hTrace => hTrace.end_eq hRun
  · rintro rfl
    exact hRun

/-! ## Requests and exit codes -/

private theorem StartFailure.exitCode_eq_three_iff {failure : StartFailure} :
    failure.exitCode = 3 ↔ ∃ user, failure = .rejected user := by
  cases failure <;> simp [exitCode]

private theorem StartFailure.exitCode_eq_two_iff {failure : StartFailure} :
    failure.exitCode = 2 ↔ ¬∃ user, failure = .rejected user := by
  cases failure <;> simp [exitCode]

/-- What a status exits with tells of a session that was open. -/
private theorem exitCode_of_status (status : Status) :
    status.exitCode ≠ 2 ∧ status.exitCode ≠ 3 := by
  unfold Status.exitCode
  split
  · decide
  · split <;> decide

private theorem Sending.IsFor.not_logsIn {sending : Sending} {session : Session} {call : Call}
    (hFor : sending.IsFor session call) : ¬sending.LogsIn := by
  rintro ⟨client, password, hLogin⟩
  cases hLogin.request.2.symm.trans (Session.of_request hFor).2

private theorem Sending.IsFor.method {sending : Sending} {session : Session} {call : Call}
    (hFor : sending.IsFor session call) : sending.request.method = call.method :=
  (Session.of_request hFor).1

/-- Requests that are no logins tell nothing new about the login in front of them. -/
theorem Tells.append_of_none {rest : List Event} {result : Except StartFailure (Session × String)}
    (hTells : Tells events result) (hNone : ∀ sending ∈ traffic rest, ¬sending.LogsIn) :
    Tells (events ++ rest) result where
  turnedDown := by
    rw [TurnedDown, loginAnswered_append_iff, or_iff_left (not_loginAnswered_of_forall hNone)]
    exact hTells.turnedDown
  granted := by
    rw [Granted, loginAnswered_append_iff, or_iff_left (not_loginAnswered_of_forall hNone)]
    exact hTells.granted

/-- The requests of a session that was opened. -/
theorem not_logsIn_of_session {session : Session} {calls : List Call} {body : List Event}
    {closing : Sending}
    (hCommands : List.Forall₂ (fun call sending => Sending.IsFor sending session call) calls
      (traffic body))
    (hClosing : closing.IsFor session .disconnect) :
    ∀ sending ∈ traffic (body ++ [closing.event]), ¬sending.LogsIn := by
  intro sending hMem
  rw [traffic_append, traffic_sending, List.mem_append, List.mem_singleton] at hMem
  rcases hMem with hBody | rfl
  · obtain ⟨call, -, hFor⟩ := exists_call_of_mem hCommands hBody
    exact hFor.not_logsIn
  · exact hClosing.not_logsIn

theorem Tells.append_notice {result : Except StartFailure (Session × String)}
    (hTells : Tells events result) (notice : Notice) :
    Tells (events ++ [⟨Query.notify notice, ()⟩]) result := by
  refine hTells.append_of_none ?_
  intro sending hMem
  cases hMem

/-- The exit code of a run that needs a session. -/
private theorem Life.exitCode_iff (hLife : Life environment given fuel events code) :
    (code = 3 ↔ TurnedDown events) ∧ (code = 2 ↔ ¬TurnedDown events ∧ ¬Granted events) := by
  cases hLife with
  | @unopened first failure hOpening =>
      have hTells := hOpening.tells.append_notice (.notStarted failure)
      rw [hTells.turnedDown, hTells.granted, StartFailure.exitCode_eq_three_iff,
        StartFailure.exitCode_eq_two_iff]
      simp
  | @closed first body session password inner status after closing hOpening hShell hBody
      hCommands hOpen hClosing hOther =>
      have hTells := hOpening.tells.append_of_none (not_logsIn_of_session hCommands hClosing)
      obtain ⟨hTwo, hThree⟩ := exitCode_of_status status
      rw [hTells.turnedDown, hTells.granted]
      simp [hTwo, hThree]

/-- The order of the requests of a run that needs a session. -/
theorem Life.requests (hLife : Life environment given fuel events code) :
    ∃ opening commands closing, traffic events = opening ++ commands ++ closing ∧
      Opens opening ∧ (∀ sending ∈ opening ++ commands, sending.request.method ≠ .delete) ∧
      (Granted events → ∃ last, closing = [last] ∧ last.request.method = .delete) ∧
      (¬Granted events → commands = [] ∧ closing = []) := by
  cases hLife with
  | @unopened first failure hOpening =>
      have hTells := hOpening.tells.append_notice (.notStarted failure)
      refine ⟨traffic first, [], [], ?_, hOpening.opens, ?_, ?_, fun _ => ⟨rfl, rfl⟩⟩
      · rw [traffic_append, List.append_assoc]
        rfl
      · rw [List.append_nil]
        exact hOpening.opens.method_ne_delete
      · rw [hTells.granted]
        rintro ⟨opened, ⟨⟩⟩
  | @closed first body session password inner status after closing hOpening hShell hBody
      hCommands hOpen hClosing hOther =>
      have hTells := hOpening.tells.append_of_none (not_logsIn_of_session hCommands hClosing)
      refine ⟨traffic first, traffic body, [closing], ?_, hOpening.opens, ?_, ?_, ?_⟩
      · rw [traffic_append, traffic_append, traffic_sending, List.append_assoc]
      · intro sending hMem
        rcases List.mem_append.mp hMem with hFirst | hBody
        · exact hOpening.opens.method_ne_delete sending hFirst
        · obtain ⟨call, hCall, hFor⟩ := exists_call_of_mem hCommands hBody
          rw [hFor.method, Ne, Call.method_eq_delete_iff]
          rintro rfl
          exact hOpen hCall
      · exact fun _ => ⟨closing, rfl, hClosing.method⟩
      · intro hNot
        exact absurd (hTells.granted.mpr ⟨_, rfl⟩) hNot

end Life

/-! ## Runs that need no session -/

/-- The command is carried out without a session. -/
def Given.IsOffline (given : Given) : Prop :=
  Verb.handler? given.command.verb = some .help ∨
    ∃ verb, Verb.handler? given.command.verb = some (.offline verb)

theorem quiet_runOffline {α : Type} {step : Shell α} : Quiet (runOffline step) := by
  refine quiet_bind (quiet_interpret fun query => ?_) fun _ => quiet_done
  exact quiet_answerShell fun _ _ => quiet_done

private theorem quiet_runVerb {verb : Offline} {command : Command} :
    Quiet (runVerb verb command) := by
  refine quiet_bind quiet_runOffline ?_
  rintro (error | ⟨⟨⟩⟩)
  · exact quiet_ask (fun _ => rfl) fun _ => quiet_done
  · exact quiet_done

theorem runGiven_eq_match {environment : String → Option String} {given : Given} {fuel : Nat} :
    runGiven environment given fuel = match offline? given.command with
      | some program => program
      | none => runSession given.options (environment "HOME") given.allSwitches given.command
          fuel := rfl

private theorem quiet_of_isOffline {environment : String → Option String} {given : Given}
    {fuel : Nat}
    (hOffline : given.IsOffline) : Quiet (runGiven environment given fuel) := by
  rw [runGiven_eq_match]
  unfold offline?
  rcases hOffline with hHelp | ⟨verb, hVerb⟩
  · rw [hHelp]
    exact quiet_bind quiet_runOffline fun _ => quiet_done
  · rw [hVerb]
    exact quiet_runVerb

private theorem runGiven_eq_runSession {environment : String → Option String} {given : Given}
    {fuel : Nat}
    (hOnline : ¬given.IsOffline) :
    runGiven environment given fuel = runSession given.options (environment "HOME")
      given.allSwitches given.command fuel := by
  have hNone : offline? given.command = none := by
    unfold offline?
    split
    · exact absurd (Or.inl ‹_›) hOnline
    · exact absurd (Or.inr ⟨_, ‹_›⟩) hOnline
    · rfl
  rw [runGiven_eq_match, hNone]

/-- A run that ends makes no request when its verb needs no session.  Otherwise its requests are
at most a probe, behind an answered probe at most a login, the requests of the commands, and one
last request that closes the session; the last two are there exactly if the login was answered
with a token, and no other request closes a session.  Such a run exits with 3 if the login was
turned down, with 2 if no session came about for another reason, and otherwise with the status
of the commands. -/
theorem requests_of_run {environment : String → Option String} {arguments : List String}
    {given : Given} {fuel code : Nat}
    (hRead : Invocation.read environment arguments = .ok (.run given))
    (hRun : (run environment arguments fuel).Trace events (some code))
    (hLegal : LegalTokens events) :
    (given.IsOffline → traffic events = []) ∧
    (¬given.IsOffline →
      Life environment given fuel events code ∧
      (∃ opening commands closing, traffic events = opening ++ commands ++ closing ∧
        Opens opening ∧ (∀ sending ∈ opening ++ commands, sending.request.method ≠ .delete) ∧
        (Granted events → ∃ last, closing = [last] ∧ last.request.method = .delete) ∧
        (¬Granted events → commands = [] ∧ closing = [])) ∧
      (code = 3 ↔ TurnedDown events) ∧
      (code = 2 ↔ ¬TurnedDown events ∧ ¬Granted events)) := by
  have hGiven : (runGiven environment given fuel).Trace events (some code) := by
    unfold run at hRun
    rw [hRead] at hRun
    exact hRun
  refine ⟨fun hOffline => quiet_of_isOffline hOffline _ _ hGiven, fun hOnline => ?_⟩
  have hLife := life_of_trace (runGiven_eq_runSession hOnline) hGiven hLegal
  exact ⟨hLife, hLife.requests, hLife.exitCode_iff⟩

/-! ## A session that the server does not close -/

namespace Unclosed

/-- Surroundings in which requests are answered one by one from a list, and all of them are lost
behind its end.  Nothing else is there. -/
def surroundings : Proc.Handler interface (List (Except String Response)) where
  answer
    | .print _, rest => ((), rest)
    | .notify _, rest => ((), rest)
    | .readLine _, rest => (.ok "", rest)
    | .readSecret _, rest => (.error "no terminal", rest)
    | .clock, rest => ((0 : Int), rest)
    | .isFile _, rest => (false, rest)
    | .fileText _, rest => (.error "no such file", rest)
    | .network .identifier, rest => ("1", rest)
    | .network (.send _), [] => (.error "connection reset", [])
    | .network (.send _), answer :: rest => (answer, rest)

def environment (_ : String) : Option String := none

def arguments : List String :=
  ["--host", "catalog", "--user", "rods", "--zone", "tempZone", "--password", "pw",
    "mkuser", "alice", "rodsuser"]

def given : Given where
  options :=
    { host := some "catalog", user := some "rods", zone := some "tempZone", password := some "pw" }
  words := ["mkuser", "alice", "rodsuser"]

/-- A successful response with these fields. -/
def success (fields : List (String × Json)) : Except String Response :=
  .ok { status := 200, body := (Json.record fields).compactText }

/-- The probe, the login and the request of the command are answered. -/
def answers : List (Except String Response) :=
  [success [], success [("token", .text "t1")], success [("status", .int (-830000))]]

def made : Proc.Run interface (List (Except String Response)) Nat :=
  (run environment arguments 1).run surroundings answers

private theorem read : Invocation.read environment arguments = .ok (.run given) := by
  decide +kernel

private theorem trace : (run environment arguments 1).Trace made.events (some 1) := by
  have hTrace := Proc.trace_run surroundings (run environment arguments 1) answers
  have hCode : made.value? = some 1 := by
    decide +kernel
  unfold made at hCode
  rw [hCode] at hTrace
  exact hTrace

/-- The token that an answer holds. -/
def tokenIn? : Except String Response → Option String
  | .ok response => (Json.read? response.body).bind Connector.tokenOfJson?
  | .error _ => none

private theorem legal : LegalTokens made.events := by
  have hTokens : ∀ sending ∈ traffic made.events, ∀ token ∈ tokenIn? sending.answer,
      Gateway.isHeaderText token = true := by
    decide +kernel
  intro login hMem hLogin response token hOk hGrants
  refine hTokens login hMem token ?_
  rw [hOk]
  exact hGrants.2

private theorem online : ¬given.IsOffline := by
  rintro (hHelp | ⟨verb, hVerb⟩)
  · revert hHelp
    decide +kernel
  · revert hVerb
    cases verb <;> decide +kernel

private theorem answer_last :
    (traffic made.events).getLast?.map Sending.answer = some (.error "connection reset") := by
  decide +kernel

end Unclosed

open Unclosed in
/-- The request that closes the session is lost, and the program exits with the status of its
command all the same. -/
theorem requests_of_unclosed_session :
    Invocation.read environment arguments = .ok (.run Unclosed.given) ∧
    (run environment arguments 1).Trace made.events (some 1) ∧ LegalTokens made.events ∧
    ¬Unclosed.given.IsOffline ∧ Granted made.events ∧
    ∃ others last, traffic made.events = others ++ [last] ∧ last.request.method = .delete ∧
      last.answer = .error "connection reset" := by
  obtain ⟨-, ⟨opening, commands, closing, hTraffic, -, -, hClosing, -⟩, hThree, hTwo⟩ :=
    (requests_of_run read trace legal).2 online
  have hDown : ¬TurnedDown made.events := fun hDown => absurd (hThree.mpr hDown) (by decide)
  have hGranted : Granted made.events := by
    by_contra hNone
    exact absurd (hTwo.mpr ⟨hDown, hNone⟩) (by decide)
  obtain ⟨last, rfl, hMethod⟩ := hClosing hGranted
  refine ⟨read, trace, legal, online, hGranted, opening ++ commands, last, hTraffic, hMethod, ?_⟩
  have hAnswer := answer_last
  rw [hTraffic, List.getLast?_concat] at hAnswer
  exact Option.some.inj hAnswer

end GridAdmin.CommandLine
