import GridAdmin.Proofs.CommandLine.Traffic

/-!
# How a session is opened

Between the command line and the first command there are four steps, and each of them may be
the last: the settings must tell where to connect, a probe must be answered, a password must be
known, and a login must be answered with a token.  The order matters to whoever types the
password, who is not asked before the server has answered, and to the server, which sees no
login without a probe.

`Opening` lists all ways through these steps with the events of each.  A login has one case for
each answer that matters: turned down, a token, anything else.  From the list follows what the
rest of a run wants to know, namely which requests there are and what the login was answered
with.

## Main definitions

* `Configured`, `Prompted`, `Prepared`: the steps in front of a login.
* `Opening`: all ways to open a session, or not to open one.
* `Opens`: the requests of an opening.
* `TurnedDown`, `Granted`: what a login among some events was answered with.

## Main results

* `opening_of_trace`: a session is opened, or not, in one of these ways.
* `Opening.opens`: at most a probe and a login.
* `Opening.tells`: the result is the answer to the login.
-/

namespace GridAdmin.CommandLine

open Gateway (Request Response)

variable {α β : Type} {events : List Event}

/-! ## Steps that may keep a session from starting -/

/-- A composed step either fails in its first part, or goes on with the value of that part. -/
theorem trace_start_bind {start : Start α} {next : α → Start β} {result : Except StartFailure β}
    (hTrace : Proc.Trace (start >>= next).run events (some result)) :
    (∃ failure, Proc.Trace start.run events (some (.error failure)) ∧ result = .error failure) ∨
      ∃ value first rest, Proc.Trace start.run first (some (.ok value)) ∧
        Proc.Trace (next value).run rest (some result) ∧ events = first ++ rest := by
  obtain ⟨middle, first, rest, hFirst, hRest, rfl⟩ := Proc.trace_bind_some_iff.mp hTrace
  cases middle with
  | ok value => exact Or.inr ⟨value, first, rest, hFirst, hRest, rfl⟩
  | error failure =>
      obtain ⟨rfl, hResult⟩ := Proc.trace_done_iff.mp hRest
      rw [List.append_nil]
      exact Or.inl ⟨failure, hFirst, Option.some.inj hResult⟩

/-- The use of the network is no reason to stop. -/
theorem trace_start_overNetwork_bind {proc : Proc Gateway.interface α} {next : α → Start β}
    {result : Except StartFailure β}
    (hTrace : Proc.Trace (Start.overNetwork proc >>= next).run events (some result)) :
    ∃ inner value rest, proc.Trace inner (some value) ∧
      Proc.Trace (next value).run rest (some result) ∧ events = inner.map networked ++ rest := by
  rcases trace_start_bind hTrace with ⟨failure, hFailed, -⟩ |
    ⟨value, first, rest, hFirst, hRest, rfl⟩
  · obtain ⟨value, first, rest, -, hRest, -⟩ := Proc.trace_bind_some_iff.mp hFailed
    cases (Proc.trace_done_iff.mp hRest).2
  · obtain ⟨value, first, rest, hFirst, hDone, rfl⟩ := Proc.trace_bind_some_iff.mp hFirst
    obtain ⟨rfl, hValue⟩ := Proc.trace_done_iff.mp hDone
    cases hValue
    obtain ⟨inner, hInner, rfl⟩ := trace_overNetwork_iff.mp hFirst
    rw [List.append_nil]
    exact ⟨inner, _, _, hInner, hRest, rfl⟩

/-- The step sends nothing, and its failures are of this kind. -/
def Start.Fails (kind : StartFailure → Prop) (start : Start α) : Prop :=
  Proc.Always start.run fun events result? =>
    traffic events = [] ∧ ∀ failure, result? = some (.error failure) → kind failure

section Failures

variable {kind : StartFailure → Prop}

theorem fails_pure {value : α} : Start.Fails kind (pure value) :=
  Proc.always_done.mpr ⟨rfl, nofun⟩

theorem fails_throw {failure : StartFailure} (hKind : kind failure) :
    Start.Fails kind (throw failure : Start α) := by
  refine Proc.always_done.mpr ⟨rfl, ?_⟩
  rintro _ ⟨⟩
  exact hKind

theorem fails_bind {start : Start α} {next : α → Start β} (hStart : start.Fails kind)
    (hNext : ∀ value, (next value).Fails kind) : (start >>= next).Fails kind := by
  refine Proc.always_bind.mpr (Proc.Always.mono hStart fun events result? hResult => ?_)
  obtain ⟨hQuiet, hKind⟩ := hResult
  rcases result? with _ | failure | value
  · exact ⟨hQuiet, nofun⟩
  · refine Proc.always_done.mpr ⟨?_, ?_⟩
    · rw [List.append_nil, hQuiet]
    · rintro _ ⟨⟩
      exact hKind failure rfl
  · refine Proc.Always.mono (hNext value) fun more last? hLast => ⟨?_, hLast.2⟩
    rw [traffic_append, hQuiet, hLast.1]
    rfl

theorem fails_lift {program : Program α} (hQuiet : Quiet program) :
    Start.Fails kind (liftM program) := by
  refine Proc.always_bind.mpr (Proc.Always.mono hQuiet fun events value? hEvents => ?_)
  rcases value? with _ | value
  · exact ⟨hEvents, nofun⟩
  · refine Proc.always_done.mpr ⟨?_, nofun⟩
    rw [List.append_nil, hEvents]

end Failures

/-! ## Configuration -/

/-- The settings do not tell where to connect and as whom. -/
def StartFailure.IsConfiguration (failure : StartFailure) : Prop :=
  ∃ error, failure = .environment error

private theorem fails_readEnvironmentFile {path : String} :
    (readEnvironmentFile path).Fails StartFailure.IsConfiguration := by
  refine fails_bind (fails_lift (quiet_ask (fun _ => rfl) fun _ => quiet_done)) ?_
  rintro (cause | text)
  · exact fails_throw ⟨_, rfl⟩
  · dsimp only
    cases EnvironmentFile.read? text with
    | some file => exact fails_pure
    | none => exact fails_throw ⟨_, rfl⟩

private theorem quiet_homeFile? {home : Option String} : Quiet (homeFile? home) := by
  cases home with
  | none => exact quiet_done
  | some directory =>
      refine quiet_ask (fun _ => rfl) fun found => ?_
      cases found <;> exact quiet_done

private theorem fails_environmentFile {options : Options} {home : Option String} :
    (environmentFile options home).Fails StartFailure.IsConfiguration := by
  have hRead : ∀ read : Option String → Start EnvironmentFile,
      (∀ path, read (some path) = readEnvironmentFile path) → read none = pure {} →
        ∀ path?, (read path?).Fails StartFailure.IsConfiguration := by
    intro read hSome hNone path?
    cases path? with
    | some path =>
        rw [hSome]
        exact fails_readEnvironmentFile
    | none =>
        rw [hNone]
        exact fails_pure
  unfold environmentFile
  cases options.environmentFile with
  | some path => exact fails_bind fails_pure (hRead _ (fun _ => rfl) rfl)
  | none => exact fails_bind (fails_lift quiet_homeFile?) (hRead _ (fun _ => rfl) rfl)

/-- The settings and the environment file tell the target, or they do not; the server has no
part in it. -/
private theorem fails_target {options : Options} {home : Option String} :
    (target options home).Fails StartFailure.IsConfiguration := by
  refine fails_bind fails_environmentFile fun file => ?_
  cases options.overrides.resolve file with
  | ok goal => exact fails_pure
  | error error => exact fails_throw ⟨error, rfl⟩

/-- The client for a target, with a fresh identifier. -/
def clientFor (goal : Target) (identifier : String) : Connector :=
  { base := goal.baseUrl, user := goal.user, identifier, timeout := goal.timeout }

/-- What comes before the probe. -/
inductive Configured (options : Options) (home : Option String) :
    List Event → Except ConfigError Connector → Prop where
  | failed {events : List Event} {error : ConfigError}
      (hTarget : Proc.Trace (target options home).run events
        (some (.error (.environment error))))
      (hQuiet : traffic events = []) : Configured options home events (.error error)
  | made {events : List Event} {goal : Target} (identifier : String)
      (hTarget : Proc.Trace (target options home).run events (some (.ok goal)))
      (hQuiet : traffic events = []) :
      Configured options home (events ++ [⟨Query.network .identifier, identifier⟩])
        (.ok (clientFor goal identifier))

theorem Configured.traffic_eq {options : Options} {home : Option String}
    {result : Except ConfigError Connector} (hConfigured : Configured options home events result) :
    traffic events = [] := by
  cases hConfigured with
  | failed hTarget hQuiet => exact hQuiet
  | made identifier hTarget hQuiet =>
      rw [traffic_append, hQuiet]
      rfl

/-! ## Password -/

/-- What tells the password, behind the probe. -/
inductive Prompted (options : Options) : List Event → Except String String → Prop where
  | given {password : String} (hGiven : options.password = some password) :
      Prompted options [] (.ok password)
  | asked (hNone : options.password = none) (answer : Except String String) :
      Prompted options [⟨Query.readSecret passwordPrompt, answer⟩] answer

private theorem Prompted.traffic_eq {options : Options} {answer : Except String String}
    (hPrompted : Prompted options events answer) : traffic events = [] := by
  cases hPrompted with
  | given hGiven => rfl
  | asked hNone answer => rfl

private theorem prompted_of_trace {options : Options} {result : Except StartFailure String}
    (hTrace : Proc.Trace (password options).run events (some result)) :
    ∃ answer, Prompted options events answer ∧ result = answer.mapError .password := by
  unfold password at hTrace
  cases hPassword : options.password with
  | some password =>
      rw [hPassword] at hTrace
      obtain ⟨rfl, hResult⟩ := Proc.trace_done_iff.mp hTrace
      exact ⟨.ok password, .given hPassword, Option.some.inj hResult⟩
  | none =>
      rw [hPassword] at hTrace
      obtain ⟨answer, rest, rfl, hRest⟩ := Proc.trace_ask_iff.mp hTrace
      cases answer with
      | error cause =>
          obtain ⟨rfl, hResult⟩ := Proc.trace_done_iff.mp hRest
          exact ⟨_, .asked hPassword (.error cause), Option.some.inj hResult⟩
      | ok password =>
          obtain ⟨rfl, hResult⟩ := Proc.trace_done_iff.mp hRest
          exact ⟨_, .asked hPassword (.ok password), Option.some.inj hResult⟩

/-! ## Probe and login -/

/-- The request is the probe of this client, and nothing keeps it from being sent. -/
structure Sending.IsProbe (sending : Sending) (client : Connector) : Prop where
  request : client.probeRequest = .ok sending.request
  free : Gateway.refusal? sending.request = none

/-- The request is the login of this client with this password. -/
def Sending.IsLogin (sending : Sending) (client : Connector) (password : String) : Prop :=
  client.loginRequest password = .ok sending.request

/-- There was a response, and it is of this kind. -/
def Sending.Answered (sending : Sending) (kind : Response → Prop) : Prop :=
  ∃ response, sending.answer = .ok response ∧ kind response

/-- All that comes before a login: a probe that was answered, and behind it the password. -/
inductive Prepared (options : Options) (home : Option String) :
    List Event → Connector → Except String String → Prop where
  | probed {first prompt : List Event} {client : Connector} {probe : Sending}
      {password : Except String String} (hFirst : Configured options home first (.ok client))
      (hProbe : probe.IsProbe client) (hVersion : probe.Answered Connector.TellsVersion)
      (hPrompt : Prompted options prompt password) :
      Prepared options home (first ++ probe.event :: prompt) client password

/-- All ways to open a session, or not to open one. -/
inductive Opening (options : Options) (home : Option String) :
    List Event → Except StartFailure (Session × String) → Prop where
  | unconfigured {events : List Event} {error : ConfigError}
      (hFirst : Configured options home events (.error error)) :
      Opening options home events (.error (.environment error))
  | unprobed {events : List Event} {client : Connector}
      (hFirst : Configured options home events (.ok client))
      (hProbe : ∀ probe : Sending, ¬probe.IsProbe client) (error : ClientError) :
      Opening options home events (.error (.client error))
  | unanswered {first : List Event} {client : Connector} {probe : Sending}
      (hFirst : Configured options home first (.ok client)) (hProbe : probe.IsProbe client)
      (hVersion : ¬probe.Answered Connector.TellsVersion) (error : ClientError) :
      Opening options home (first ++ [probe.event]) (.error (.client error))
  | unprompted {events : List Event} {client : Connector} {cause : String}
      (hFront : Prepared options home events client (.error cause)) :
      Opening options home events (.error (.password cause))
  | turnedDown {front : List Event} {client : Connector} {password : String} {login : Sending}
      (hFront : Prepared options home front client (.ok password))
      (hLogin : login.IsLogin client password) (hDown : login.Answered Connector.TurnsDown) :
      Opening options home (front ++ [login.event]) (.error (.rejected client.user))
  | failed {front : List Event} {client : Connector} {password : String} {login : Sending}
      (hFront : Prepared options home front client (.ok password))
      (hLogin : login.IsLogin client password) (hDown : ¬login.Answered Connector.TurnsDown)
      (hToken : ∀ token, ¬login.Answered (Connector.GrantsToken · token)) (error : ClientError) :
      Opening options home (front ++ [login.event]) (.error (.client error))
  | opened {front : List Event} {client : Connector} {password token : String} {login : Sending}
      (hFront : Prepared options home front client (.ok password))
      (hLogin : login.IsLogin client password)
      (hToken : login.Answered (Connector.GrantsToken · token)) :
      Opening options home (front ++ [login.event]) (.ok (client.session token, password))

section Opening

variable {options : Options} {home : Option String}
  {result : Except StartFailure (Session × String)}

private theorem loginFailure_of_ne {error : ClientError}
    (hError : ∀ user, error ≠ .authentication user) :
    loginFailure error = .client error := by
  cases error with
  | authentication user => exact absurd rfl (hError user)
  | _ => rfl

/-- What is left to do once the password is known. -/
def logIn (client : Connector) (password : String) : Start (Session × String) := do
  match ← Start.overNetwork (client.login password) with
  | .ok session => return (session, password)
  | .error error => throw (loginFailure error)

/-- A login is sent, and it ends in one of three ways. -/
private theorem opening_of_login {front : List Event} {client : Connector} {password : String}
    (hFront : Prepared options home front client (.ok password))
    (hTrace : Proc.Trace (logIn client password).run events (some result)) :
    Opening options home (front ++ events) result := by
  obtain ⟨request, hRequest, hFree⟩ : ∃ request, client.loginRequest password = .ok request ∧
      Gateway.refusal? request = none := by
    cases hFront with
    | probed hFirst hProbe hVersion hPrompt =>
        exact Connector.exists_loginRequest hProbe.request hProbe.free password
  obtain ⟨inner, ended, rest, hInner, hRest, rfl⟩ := trace_start_overNetwork_bind hTrace
  rcases Connector.always_login _ _ hInner with ⟨error, hError, -⟩ |
    ⟨_, answer, _, hSame, hSent, hEnd, ⟨⟩⟩
  · cases hRequest.symm.trans hError
  cases hRequest.symm.trans hSame
  -- The client knows the answer as it came through its own layer; what counts below is the
  -- response that the network gave.
  obtain ⟨login, rfl, hEvent, hAnswer⟩ := exists_sending_of_sent hSent hFree
  rw [hEvent]
  have hAnswered : ∀ kind, login.Answered kind ↔
      ∃ response, answer = .ok response ∧ kind response :=
    fun kind => exists_congr fun response => and_congr_left' (hAnswer response)
  cases hEnd with
  | @opened response token hToken =>
      obtain ⟨rfl, hResult⟩ := Proc.trace_done_iff.mp hRest
      cases hResult
      exact .opened hFront hRequest ((hAnswered _).mpr ⟨response, rfl, hToken⟩)
  | @turnedDown response hDown =>
      obtain ⟨rfl, hResult⟩ := Proc.trace_done_iff.mp hRest
      cases hResult
      exact .turnedDown hFront hRequest ((hAnswered _).mpr ⟨response, rfl, hDown⟩)
  | failed hDown hToken error hError =>
      obtain ⟨rfl, hResult⟩ := Proc.trace_done_iff.mp hRest
      cases hResult
      rw [loginFailure_of_ne hError]
      refine .failed hFront hRequest ?_ ?_ error
      · rw [hAnswered]
        rintro ⟨response, hOk, hTurned⟩
        exact hDown response hOk hTurned
      · intro token
        rw [hAnswered]
        rintro ⟨response, hOk, hGranted⟩
        exact hToken response token hOk hGranted

/-- Behind an answered probe the password is asked for, and then the login follows. -/
private theorem opening_of_password {first : List Event} {client : Connector} {probe : Sending}
    (hFirst : Configured options home first (.ok client)) (hProbe : probe.IsProbe client)
    (hVersion : probe.Answered Connector.TellsVersion)
    (hTrace : Proc.Trace (ExceptT.run (password options >>= logIn client)) events (some result)) :
    Opening options home (first ++ ([probe.event] ++ events)) result := by
  rcases trace_start_bind hTrace with ⟨failure, hPassword, rfl⟩ |
    ⟨value, prompt, rest, hPassword, hRest, rfl⟩
  · obtain ⟨cause | value, hPrompt, hFailure⟩ := prompted_of_trace hPassword
    · cases hFailure
      exact .unprompted (.probed hFirst hProbe hVersion hPrompt)
    · cases hFailure
  · obtain ⟨cause | typed, hPrompt, hValue⟩ := prompted_of_trace hPassword
    · cases hValue
    · cases hValue
      have hFront := Prepared.probed hFirst hProbe hVersion hPrompt
      have hOpening := opening_of_login hFront hRest
      rw [List.append_assoc, List.cons_append] at hOpening
      exact hOpening

/-- What is left to do once there is a client. -/
def connect (options : Options) (client : Connector) : Start (Session × String) := do
  match ← Start.overNetwork client.probe with
  | .error error => throw (.client error)
  | .ok _ => do
      let password ← password options
      logIn client password

/-- A probe is sent unless it cannot be, and only behind an answer the rest follows. -/
private theorem opening_of_connect {first : List Event} {client : Connector}
    (hFirst : Configured options home first (.ok client))
    (hTrace : Proc.Trace (connect options client).run events (some result)) :
    Opening options home (first ++ events) result := by
  obtain ⟨inner, ended, rest, hInner, hRest, rfl⟩ := trace_start_overNetwork_bind hTrace
  rcases Connector.always_probe _ _ hInner with ⟨error, hError, rfl, ⟨⟩⟩ |
    ⟨request, answer, _, hRequest, hSent, hEnd, ⟨⟩⟩
  · obtain ⟨rfl, hResult⟩ := Proc.trace_done_iff.mp hRest
    cases hResult
    rw [List.map_nil, List.append_nil, List.append_nil]
    refine .unprobed hFirst ?_ error
    intro probe hProbe
    cases hError.symm.trans hProbe.request
  cases hFree : Gateway.refusal? request with
  | some cause =>
      have hUnsent : ∀ probe : Sending, ¬probe.IsProbe client := by
        intro probe hProbe
        cases hRequest.symm.trans hProbe.request
        cases hFree.symm.trans hProbe.free
      obtain ⟨rfl, rfl⟩ := hSent.of_refusal hFree
      cases hEnd with
      | failed hAnswer error =>
          obtain ⟨rfl, hResult⟩ := Proc.trace_done_iff.mp hRest
          cases hResult
          rw [List.map_nil, List.append_nil, List.append_nil]
          exact .unprobed hFirst hUnsent error
  | none =>
      obtain ⟨probe, rfl, hEvent, hAnswer⟩ := exists_sending_of_sent hSent hFree
      have hProbe : probe.IsProbe client := ⟨hRequest, hFree⟩
      rw [hEvent]
      cases hEnd with
      | failed hUntold error =>
          obtain ⟨rfl, hResult⟩ := Proc.trace_done_iff.mp hRest
          cases hResult
          rw [List.append_nil]
          refine .unanswered hFirst hProbe ?_ error
          rintro ⟨response, hOk, hVersion⟩
          exact hUntold response ((hAnswer response).mp hOk) hVersion
      | @answered response hVersion version =>
          have hTold : probe.Answered Connector.TellsVersion :=
            ⟨response, (hAnswer response).mpr rfl, hVersion⟩
          exact opening_of_password hFirst hProbe hTold hRest

/-- A session is opened, or not, in one of these ways. -/
theorem opening_of_trace
    (hTrace : Proc.Trace (openSession options home).run events (some result)) :
    Opening options home events result := by
  rcases trace_start_bind hTrace with ⟨failure, hTarget, rfl⟩ |
    ⟨goal, first, rest, hTarget, hRest, rfl⟩
  · obtain ⟨hQuiet, hKind⟩ := fails_target _ _ hTarget
    obtain ⟨error, rfl⟩ := hKind failure rfl
    exact .unconfigured (.failed hTarget hQuiet)
  obtain ⟨inner, client, rest, hInner, hConnect, rfl⟩ := trace_start_overNetwork_bind hRest
  obtain ⟨identifier, _, rfl, hDone⟩ := Proc.trace_ask_iff.mp hInner
  obtain ⟨rfl, hClient⟩ := Proc.trace_done_iff.mp hDone
  cases hClient
  rw [← List.append_assoc]
  exact opening_of_connect (.made identifier hTarget (fails_target _ _ hTarget).1) hConnect

end Opening

/-! ## Requests of an opening -/

/-- At most a probe, and behind it at most a login, which needs a probe that was answered. -/
inductive Opens : List Sending → Prop where
  | nothing : Opens []
  | probed {client : Connector} {probe : Sending} (hProbe : probe.IsProbe client) : Opens [probe]
  | loggedIn {client : Connector} {probe login : Sending} {password : String}
      (hProbe : probe.IsProbe client) (hVersion : probe.Answered Connector.TellsVersion)
      (hLogin : login.IsLogin client password) : Opens [probe, login]

section Requests

variable {options : Options} {home : Option String} {client : Connector}
  {result : Except StartFailure (Session × String)}

theorem Sending.IsProbe.method {probe : Sending} (hProbe : probe.IsProbe client) :
    probe.request.method = .get :=
  (Connector.of_probeRequest hProbe.request).2.1

theorem Sending.IsLogin.request {login : Sending} {password : String}
    (hLogin : login.IsLogin client password) :
    login.request.method = .post ∧ login.request.token = none := by
  obtain ⟨-, hMethod, hToken, -⟩ := Connector.of_loginRequest hLogin
  exact ⟨hMethod, hToken⟩

/-- No session is ended where none is open yet. -/
theorem Opens.method_ne_delete {sendings : List Sending} (hOpens : Opens sendings) :
    ∀ sending ∈ sendings, sending.request.method ≠ .delete := by
  cases hOpens with
  | nothing => simp
  | probed hProbe => simp [hProbe.method]
  | loggedIn hProbe hVersion hLogin => simp [hProbe.method, hLogin.request.1]

theorem Prepared.traffic_eq {password : Except String String}
    (hFront : Prepared options home events client password) :
    ∃ probe : Sending, probe.IsProbe client ∧ probe.Answered Connector.TellsVersion ∧
      traffic events = [probe] := by
  cases hFront with
  | @probed first prompt client probe password hFirst hProbe hVersion hPrompt =>
      refine ⟨probe, hProbe, hVersion, ?_⟩
      rw [traffic_append, ← List.singleton_append, traffic_append, hFirst.traffic_eq,
        hPrompt.traffic_eq]
      rfl

theorem Prepared.opens {login : Sending} {password : String}
    (hFront : Prepared options home events client (.ok password))
    (hLogin : login.IsLogin client password) : Opens (traffic (events ++ [login.event])) := by
  obtain ⟨probe, hProbe, hVersion, hTraffic⟩ := hFront.traffic_eq
  rw [traffic_append, hTraffic]
  exact .loggedIn hProbe hVersion hLogin

theorem Opening.opens (hOpening : Opening options home events result) : Opens (traffic events) := by
  cases hOpening with
  | unconfigured hFirst =>
      rw [hFirst.traffic_eq]
      exact .nothing
  | unprobed hFirst hProbe error =>
      rw [hFirst.traffic_eq]
      exact .nothing
  | unanswered hFirst hProbe hVersion error =>
      rw [traffic_append, hFirst.traffic_eq]
      exact .probed hProbe
  | unprompted hFront =>
      obtain ⟨probe, hProbe, -, hTraffic⟩ := hFront.traffic_eq
      rw [hTraffic]
      exact .probed hProbe
  | turnedDown hFront hLogin hDown => exact hFront.opens hLogin
  | failed hFront hLogin hDown hToken error => exact hFront.opens hLogin
  | opened hFront hLogin hToken => exact hFront.opens hLogin

end Requests

/-! ## Logins among the requests -/

/-- The request is a login of some client. -/
def Sending.LogsIn (sending : Sending) : Prop :=
  ∃ client password, sending.IsLogin client password

/-- One of the requests was a login, and the response to it is of this kind. -/
def LoginAnswered (kind : Response → Prop) (events : List Event) : Prop :=
  ∃ login ∈ traffic events, login.LogsIn ∧ login.Answered kind

/-- A login was turned down. -/
abbrev TurnedDown (events : List Event) : Prop :=
  LoginAnswered Connector.TurnsDown events

/-- A login was answered with a token. -/
abbrev Granted (events : List Event) : Prop :=
  LoginAnswered (fun response => ∃ token, Connector.GrantsToken response token) events

section Logins

variable {kind : Response → Prop} {rest : List Event} {options : Options} {home : Option String}
  {client : Connector} {result : Except StartFailure (Session × String)}

theorem loginAnswered_append_iff :
    LoginAnswered kind (events ++ rest) ↔ LoginAnswered kind events ∨ LoginAnswered kind rest := by
  unfold LoginAnswered
  rw [traffic_append]
  simp only [List.mem_append, or_and_right, exists_or]

theorem not_loginAnswered_of_forall (hNone : ∀ sending ∈ traffic events, ¬sending.LogsIn) :
    ¬LoginAnswered kind events := by
  rintro ⟨login, hMem, hLogin, -⟩
  exact hNone login hMem hLogin

private theorem Configured.not_loginAnswered {configured : Except ConfigError Connector}
    (hFirst : Configured options home events configured) : ¬LoginAnswered kind events := by
  refine not_loginAnswered_of_forall ?_
  rw [hFirst.traffic_eq]
  simp

private theorem Sending.IsProbe.not_logsIn {probe : Sending} (hProbe : probe.IsProbe client) :
    ¬probe.LogsIn := by
  rintro ⟨other, password, hLogin⟩
  cases hLogin.request.1.symm.trans hProbe.method

theorem not_loginAnswered_of_probe {probe : Sending} (hProbe : probe.IsProbe client)
    (hTraffic : traffic events = [probe]) : ¬LoginAnswered kind events := by
  refine not_loginAnswered_of_forall ?_
  rw [hTraffic]
  intro sending hMem
  rw [List.mem_singleton.mp hMem]
  exact hProbe.not_logsIn

private theorem loginAnswered_login_iff {login : Sending} {password : String}
    (hLogin : login.IsLogin client password) :
    LoginAnswered kind [login.event] ↔ login.Answered kind := by
  unfold LoginAnswered
  rw [traffic_sending]
  constructor
  · rintro ⟨other, hMem, -, hAnswered⟩
    rw [List.mem_singleton.mp hMem] at hAnswered
    exact hAnswered
  · intro hAnswered
    exact ⟨login, List.mem_singleton_self login, ⟨client, password, hLogin⟩, hAnswered⟩

theorem Prepared.not_loginAnswered {password : Except String String}
    (hFront : Prepared options home events client password) : ¬LoginAnswered kind events := by
  obtain ⟨probe, hProbe, -, hTraffic⟩ := hFront.traffic_eq
  exact not_loginAnswered_of_probe hProbe hTraffic

/-- Behind the preparations stands the login alone. -/
private theorem Prepared.loginAnswered_iff {login : Sending} {password : String}
    (hFront : Prepared options home events client (.ok password))
    (hLogin : login.IsLogin client password) :
    LoginAnswered kind (events ++ [login.event]) ↔ login.Answered kind := by
  rw [loginAnswered_append_iff, loginAnswered_login_iff hLogin,
    or_iff_right hFront.not_loginAnswered]

/-- Who is turned down gets no token with the same response. -/
private theorem Sending.not_granted_of_turnedDown {sending : Sending} {token : String}
    (hDown : sending.Answered Connector.TurnsDown) :
    ¬sending.Answered (Connector.GrantsToken · token) := by
  obtain ⟨response, hOk, hTurned⟩ := hDown
  rintro ⟨other, hOther, hSuccess, -⟩
  cases hOk.symm.trans hOther
  rw [hTurned.not_isSuccess] at hSuccess
  cases hSuccess

/-- The result tells how the login was answered. -/
structure Tells (events : List Event) (result : Except StartFailure (Session × String)) :
    Prop where
  turnedDown : TurnedDown events ↔ ∃ user, result = .error (.rejected user)
  granted : Granted events ↔ ∃ opened, result = .ok opened

private theorem tells_of_none {failure : StartFailure} (hNone : ∀ kind, ¬LoginAnswered kind events)
    (hOther : ∀ user, failure ≠ .rejected user) : Tells events (.error failure) where
  turnedDown := by
    refine iff_of_false (hNone _) ?_
    rintro ⟨user, hSame⟩
    exact hOther user (Except.error.inj hSame)
  granted := by
    refine iff_of_false (hNone _) ?_
    rintro ⟨opened, ⟨⟩⟩

theorem Opening.tells (hOpening : Opening options home events result) : Tells events result := by
  cases hOpening with
  | unconfigured hFirst => exact tells_of_none (fun _ => hFirst.not_loginAnswered) nofun
  | unprobed hFirst hProbe error => exact tells_of_none (fun _ => hFirst.not_loginAnswered) nofun
  | unanswered hFirst hProbe hVersion error =>
      refine tells_of_none (fun _ => not_loginAnswered_of_probe hProbe ?_) nofun
      rw [traffic_append, hFirst.traffic_eq]
      rfl
  | unprompted hFront => exact tells_of_none (fun _ => hFront.not_loginAnswered) nofun
  | turnedDown hFront hLogin hDown =>
      constructor
      · exact iff_of_true ((hFront.loginAnswered_iff hLogin).mpr hDown) ⟨_, rfl⟩
      · refine iff_of_false ?_ (by rintro ⟨opened, ⟨⟩⟩)
        rw [Granted, hFront.loginAnswered_iff hLogin]
        rintro ⟨response, hOk, token, hGrants⟩
        exact Sending.not_granted_of_turnedDown hDown ⟨response, hOk, hGrants⟩
  | failed hFront hLogin hDown hToken error =>
      constructor
      · refine iff_of_false ?_ (by rintro ⟨user, ⟨⟩⟩)
        rw [TurnedDown, hFront.loginAnswered_iff hLogin]
        exact hDown
      · refine iff_of_false ?_ (by rintro ⟨opened, ⟨⟩⟩)
        rw [Granted, hFront.loginAnswered_iff hLogin]
        rintro ⟨response, hOk, token, hGrants⟩
        exact hToken token ⟨response, hOk, hGrants⟩
  | opened hFront hLogin hToken =>
      constructor
      · refine iff_of_false ?_ (by rintro ⟨user, ⟨⟩⟩)
        rw [TurnedDown, hFront.loginAnswered_iff hLogin]
        exact fun hDown => Sending.not_granted_of_turnedDown hDown hToken
      · refine iff_of_true ?_ ⟨_, rfl⟩
        rw [Granted, hFront.loginAnswered_iff hLogin]
        obtain ⟨response, hOk, hGrants⟩ := hToken
        exact ⟨response, hOk, _, hGrants⟩

end Logins

end GridAdmin.CommandLine
