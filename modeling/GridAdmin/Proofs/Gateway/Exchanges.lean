import GridAdmin.Gateway.Connector
import GridAdmin.Proofs.Trace

/-!
# Exchanges with the network

A request is handed to the network once or, when it cannot be sent at all, not at all.  This
module says what that means for the three users of requests: the probe, the login, and the
calls of an open session.  Each of them asks at most one question, and what it makes of the
answer is said without looking at its program again.

Two things could keep a call of an open session from being sent: no address could be formed,
or the request would be refused.  Neither happens behind a login.  A login that was sent had an
address, so its base is hierarchical and every other path can take the place of its own; and
the base had a scheme of the web.

## Main definitions

* `Gateway.Sent`: what is asked of the network for a request, and what becomes of it.
* `Connector.ProbeEnd`, `Connector.LoginEnd`: how the two steps in front of a session end.

## Main results

* `Gateway.always_send`, `Gateway.Sent.trace`: `Sent` holds of exactly what `send` does.
* `Session.exists_request`, `Session.always_perform`: the request of a call.
* `Connector.always_probe`, `Connector.always_login`: the two steps.
-/

namespace GridAdmin

/-! ## Addresses that others are formed from -/

/-- The path of the address is split into segments, so another path can take its place. -/
def Url.IsHierarchical (url : Url) : Prop :=
  ∃ names, url.path = .segments names

private theorem Url.isHierarchical_of_join {base url : Url} {path : List Char}
    (hJoin : base.join path = .ok url) : base.IsHierarchical := by
  unfold Url.join at hJoin
  split at hJoin
  · cases hJoin
  · exact ⟨_, ‹_›⟩

private theorem Url.exists_join {base : Url} (hBase : base.IsHierarchical) (path : List Char) :
    ∃ url, base.join path = .ok url ∧ url.scheme = base.scheme := by
  obtain ⟨names, hPath⟩ := hBase
  unfold Url.join
  rw [hPath]
  exact ⟨_, rfl, rfl⟩

namespace Gateway

theorem isHierarchical_of_address {base url : Url} {path : List Char}
    (hAddress : address base path = .ok url) : base.IsHierarchical := by
  unfold address at hAddress
  split at hAddress
  · exact Url.isHierarchical_of_join ‹_›
  · cases hAddress

theorem exists_address {base : Url} (hBase : base.IsHierarchical) (path : List Char) :
    ∃ url, address base path = .ok url ∧ url.scheme = base.scheme := by
  obtain ⟨url, hJoin, hScheme⟩ := Url.exists_join hBase path
  unfold address
  rw [hJoin]
  exact ⟨url, rfl, hScheme⟩

theorem scheme_of_address {base url : Url} {path : List Char}
    (hAddress : address base path = .ok url) : url.scheme = base.scheme := by
  obtain ⟨other, hOther, hScheme⟩ := exists_address (isHierarchical_of_address hAddress) path
  rw [hAddress] at hOther
  cases hOther
  exact hScheme

/-! ## Requests -/

/-- A request is sent when its token is legal and its scheme is one of the web. -/
theorem refusal?_eq_none_iff {request : Request} :
    refusal? request = none ↔
      (∀ token, request.token = some token → isHeaderText token = true) ∧
        isHttp request.address.scheme = true := by
  unfold refusal?
  cases hToken : request.token with
  | none => simp
  | some token =>
      cases hLegal : isHeaderText token with
      | true => simp [hLegal]
      | false => simp [hLegal]

/-- One question for the network, with its answer. -/
abbrev Event := Proc.Event interface

/-- What is asked of the network for a request, and what becomes of the request. -/
inductive Sent (request : Request) : List Event → Except String Response → Prop where
  | refused {cause : String} (hRefused : refusal? request = some cause) :
      Sent request [] (.error cause)
  | answered (response : Response) (hFree : refusal? request = none) :
      Sent request [⟨Query.send request, .ok response⟩] (.ok response)
  | lost (cause : String) (hFree : refusal? request = none) :
      Sent request [⟨Query.send request, .error cause⟩]
        (.error ("error sending request " ++ request.place ++ ": " ++ cause))

/-- The responses among the answers of the network. -/
def responses (events : List Event) : List Response :=
  events.filterMap fun event =>
    match event with
    | ⟨.send _, .ok response⟩ => some response
    | ⟨.send _, .error _⟩ | ⟨.identifier, _⟩ => none

variable {request : Request} {events : List Event} {answer : Except String Response}

theorem always_send :
    (send request).Always fun events last? =>
      ∃ answer, Sent request events answer ∧ last? = some answer := by
  unfold send
  cases hRefusal : refusal? request with
  | some cause => exact Proc.always_done.mpr ⟨_, .refused hRefusal, rfl⟩
  | none =>
      refine Proc.always_ask.mpr ?_
      rintro (cause | response)
      · exact Proc.always_done.mpr ⟨_, .lost cause hRefusal, rfl⟩
      · exact Proc.always_done.mpr ⟨_, .answered response hRefusal, rfl⟩

theorem Sent.trace (hSent : Sent request events answer) :
    (send request).Trace events (some answer) := by
  unfold send
  cases hSent with
  | refused hRefused =>
      rw [hRefused]
      exact .done _
  | answered response hFree =>
      rw [hFree]
      exact Proc.trace_ask_iff.mpr ⟨_, _, rfl, .done _⟩
  | lost cause hFree =>
      rw [hFree]
      exact Proc.trace_ask_iff.mpr ⟨_, _, rfl, .done _⟩

/-- A request that cannot be sent is answered with the reason. -/
theorem Sent.of_refusal {cause : String} (hSent : Sent request events answer)
    (hRefusal : refusal? request = some cause) : events = [] ∧ answer = .error cause := by
  cases hSent with
  | refused hRefused =>
      cases hRefusal.symm.trans hRefused
      exact ⟨rfl, rfl⟩
  | answered response hFree => cases hRefusal.symm.trans hFree
  | lost cause hFree => cases hRefusal.symm.trans hFree

/-- What is made of the answer to a request. -/
theorem always_send_bind {α : Type} (f : Except String Response → α) :
    (do return f (← send request)).Always fun events last? =>
      ∃ answer, Sent request events answer ∧ last? = some (f answer) := by
  refine Proc.always_bind.mpr (always_send.mono ?_)
  rintro events _ ⟨answer, hSent, rfl⟩
  refine Proc.always_done.mpr ⟨answer, ?_, rfl⟩
  rw [List.append_nil]
  exact hSent

theorem Sent.trace_bind {α : Type} (hSent : Sent request events answer)
    (f : Except String Response → α) :
    (do return f (← send request)).Trace events (some (f answer)) :=
  Proc.trace_bind_iff.mpr
    (Or.inr ⟨answer, events, [], hSent.trace, .done _, (List.append_nil events).symm⟩)

end Gateway

open Gateway (Request Response Sent)

/-! ## Calls of a session -/

namespace Session

variable {session : Session} {call : Call} {request : Request}

/-- Below a hierarchical address every call has a request. -/
theorem exists_request (hBase : session.base.IsHierarchical) (call : Call) :
    ∃ request, session.request call = .ok request ∧ request.method = call.method ∧
      request.token = some session.token ∧ request.address.scheme = session.base.scheme := by
  obtain ⟨url, hAddress, hScheme⟩ := Gateway.exists_address hBase call.path
  unfold Session.request
  rw [hAddress]
  exact ⟨_, rfl, rfl, rfl, hScheme⟩

/-- The requests of a session carry its token. -/
theorem of_request (hRequest : session.request call = .ok request) :
    request.method = call.method ∧ request.token = some session.token := by
  unfold Session.request at hRequest
  cases hAddress : Gateway.address session.base call.path with
  | error error =>
      rw [hAddress] at hRequest
      cases hRequest
  | ok url =>
      rw [hAddress] at hRequest
      cases hRequest
      exact ⟨rfl, rfl⟩

/-- Nothing keeps the requests of this session from being sent. -/
structure CanSend (session : Session) : Prop where
  base : session.base.IsHierarchical
  scheme : Gateway.isHttp session.base.scheme = true
  token : Gateway.isHeaderText session.token = true

theorem CanSend.exists_request (hSend : session.CanSend) (call : Call) :
    ∃ request, session.request call = .ok request ∧ Gateway.refusal? request = none := by
  obtain ⟨request, hRequest, -, hToken, hScheme⟩ := Session.exists_request hSend.base call
  refine ⟨request, hRequest, Gateway.refusal?_eq_none_iff.mpr ⟨?_, ?_⟩⟩
  · intro token hSame
    rw [hToken] at hSame
    cases hSame
    exact hSend.token
  · rw [hScheme]
    exact hSend.scheme

theorem always_perform (hRequest : session.request call = .ok request) :
    (session.perform call).Always fun events last? =>
      ∃ answer, Sent request events answer ∧ last? = some (exchange request call answer) := by
  unfold perform
  rw [hRequest]
  exact Gateway.always_send_bind (exchange request call)

theorem trace_perform {events : List Gateway.Event} {answer : Except String Response}
    (hRequest : session.request call = .ok request) (hSent : Sent request events answer) :
    (session.perform call).Trace events (some (exchange request call answer)) := by
  unfold perform
  rw [hRequest]
  exact hSent.trace_bind (exchange request call)

end Session

/-! ## Opening a session -/

namespace Connector

variable {connector : Connector} {password : String} {request : Request}

/-- The response holds a version, perhaps the empty one. -/
def TellsVersion (response : Response) : Prop :=
  response.isSuccess = true ∧
    ∃ version, (Json.read? response.body).bind versionOfJson? = some version

/-- The response turns the user down. -/
def TurnsDown (response : Response) : Prop :=
  response.status = 401 ∨ response.status = 403

/-- The response holds a token. -/
def GrantsToken (response : Response) (token : String) : Prop :=
  response.isSuccess = true ∧ (Json.read? response.body).bind tokenOfJson? = some token

/-- A user who is turned down gets no token. -/
theorem TurnsDown.not_isSuccess {response : Response} (hDown : TurnsDown response) :
    response.isSuccess = false := by
  unfold TurnsDown at hDown
  simp only [Response.isSuccess, decide_eq_false_iff_not]
  omega

theorem of_probeRequest (hRequest : connector.probeRequest = .ok request) :
    connector.base.IsHierarchical ∧ request.method = .get ∧ request.token = none ∧
      request.address.scheme = connector.base.scheme := by
  unfold probeRequest at hRequest
  cases hAddress : Gateway.address connector.base Gateway.serverPath with
  | error error =>
      rw [hAddress] at hRequest
      cases hRequest
  | ok url =>
      rw [hAddress] at hRequest
      cases hRequest
      exact ⟨Gateway.isHierarchical_of_address hAddress, rfl, rfl,
        Gateway.scheme_of_address hAddress⟩

theorem of_loginRequest (hRequest : connector.loginRequest password = .ok request) :
    connector.base.IsHierarchical ∧ request.method = .post ∧ request.token = none ∧
      request.address.scheme = connector.base.scheme := by
  unfold loginRequest at hRequest
  cases hAddress : Gateway.address connector.base Gateway.sessionPath with
  | error error =>
      rw [hAddress] at hRequest
      cases hRequest
  | ok url =>
      rw [hAddress] at hRequest
      cases hRequest
      exact ⟨Gateway.isHierarchical_of_address hAddress, rfl, rfl,
        Gateway.scheme_of_address hAddress⟩

/-- How a probe ends. -/
inductive ProbeEnd : Except String Response → Except ClientError String → Prop where
  | answered {response : Response} (hVersion : TellsVersion response) (version : String) :
      ProbeEnd (.ok response) (.ok version)
  | failed {answer : Except String Response}
      (hAnswer : ∀ response, answer = .ok response → ¬TellsVersion response)
      (error : ClientError) : ProbeEnd answer (.error error)

/-- How a login ends. -/
inductive LoginEnd (connector : Connector) :
    Except String Response → Except ClientError Session → Prop where
  | opened {response : Response} {token : String} (hToken : GrantsToken response token) :
      LoginEnd connector (.ok response) (.ok (connector.session token))
  | turnedDown {response : Response} (hDown : TurnsDown response) :
      LoginEnd connector (.ok response) (.error (.authentication connector.user))
  | failed {answer : Except String Response}
      (hDown : ∀ response, answer = .ok response → ¬TurnsDown response)
      (hToken : ∀ response token, answer = .ok response → ¬GrantsToken response token)
      (error : ClientError) (hError : ∀ user, error ≠ .authentication user) :
      LoginEnd connector answer (.error error)

private theorem probeEnd (connector : Connector) (request : Request)
    (answer : Except String Response) :
    ProbeEnd answer (connector.response answer >>= readProbe request) := by
  cases answer with
  | error cause => exact .failed (fun _ hAnswer => by cases hAnswer) _
  | ok response =>
      show ProbeEnd (.ok response) (readProbe request response)
      unfold readProbe
      by_cases hStatus : response.isSuccess = true
      · rw [if_pos hStatus]
        cases hBody : (Json.read? response.body).bind versionOfJson? with
        | some version => exact .answered ⟨hStatus, version, hBody⟩ version
        | none =>
            refine .failed ?_ _
            rintro _ ⟨⟩ ⟨-, version, hVersion⟩
            rw [hBody] at hVersion
            cases hVersion
      · rw [if_neg hStatus]
        refine .failed ?_ _
        rintro _ ⟨⟩ ⟨hSuccess, -⟩
        exact hStatus hSuccess

private theorem loginEnd (connector : Connector) (request : Request)
    (answer : Except String Response) :
    LoginEnd connector answer (connector.response answer >>= connector.readLogin request) := by
  cases answer with
  | error cause =>
      exact .failed (fun _ hAnswer => by cases hAnswer) (fun _ _ hAnswer => by cases hAnswer) _
        nofun
  | ok response =>
      show LoginEnd connector (.ok response) (connector.readLogin request response)
      unfold readLogin
      by_cases hDown : response.status = 401 ∨ response.status = 403
      · rw [if_pos hDown]
        exact .turnedDown hDown
      rw [if_neg hDown]
      have hNotDown : ∀ other, Except.ok response = (.ok other : Except String Response) →
          ¬TurnsDown other := by
        rintro _ ⟨⟩
        exact hDown
      by_cases hStatus : response.isSuccess = true
      · rw [if_pos hStatus]
        cases hBody : (Json.read? response.body).bind tokenOfJson? with
        | some token => exact .opened ⟨hStatus, hBody⟩
        | none =>
            refine .failed hNotDown ?_ _ nofun
            rintro _ token ⟨⟩ ⟨-, hToken⟩
            rw [hBody] at hToken
            cases hToken
      · rw [if_neg hStatus]
        refine .failed hNotDown ?_ _ nofun
        rintro _ token ⟨⟩ ⟨hSuccess, -⟩
        exact hStatus hSuccess

/-- A probe is sent, or it fails without a request. -/
theorem always_probe :
    connector.probe.Always fun events last? =>
      (∃ error, connector.probeRequest = .error error ∧ events = [] ∧
        last? = some (.error error)) ∨
      ∃ request answer result, connector.probeRequest = .ok request ∧ Sent request events answer ∧
        ProbeEnd answer result ∧ last? = some result := by
  unfold probe
  cases hRequest : connector.probeRequest with
  | error error => exact Proc.always_done.mpr (Or.inl ⟨error, rfl, rfl, rfl⟩)
  | ok request =>
      refine (Gateway.always_send_bind _).mono ?_
      rintro events _ ⟨answer, hSent, rfl⟩
      exact Or.inr ⟨request, answer, _, rfl, hSent, probeEnd connector request answer, rfl⟩

/-- A login is sent, or it fails without a request. -/
theorem always_login :
    (connector.login password).Always fun events last? =>
      (∃ error, connector.loginRequest password = .error error ∧ events = [] ∧
        last? = some (.error error)) ∨
      ∃ request answer result, connector.loginRequest password = .ok request ∧
        Sent request events answer ∧ LoginEnd connector answer result ∧ last? = some result := by
  unfold login
  cases hRequest : connector.loginRequest password with
  | error error => exact Proc.always_done.mpr (Or.inl ⟨error, rfl, rfl, rfl⟩)
  | ok request =>
      refine (Gateway.always_send_bind _).mono ?_
      rintro events _ ⟨answer, hSent, rfl⟩
      exact Or.inr ⟨request, answer, _, rfl, hSent, loginEnd connector request answer, rfl⟩

/-- Behind a probe that was sent nothing keeps a login from being sent. -/
theorem exists_loginRequest {probe : Request} (hProbe : connector.probeRequest = .ok probe)
    (hFree : Gateway.refusal? probe = none) (password : String) :
    ∃ request, connector.loginRequest password = .ok request ∧
      Gateway.refusal? request = none := by
  obtain ⟨hBase, -, -, hScheme⟩ := of_probeRequest hProbe
  obtain ⟨url, hAddress, hSame⟩ := Gateway.exists_address hBase Gateway.sessionPath
  unfold loginRequest
  rw [hAddress]
  refine ⟨_, rfl, Gateway.refusal?_eq_none_iff.mpr ⟨nofun, ?_⟩⟩
  show Gateway.isHttp url.scheme = true
  rw [hSame, ← hScheme]
  exact (Gateway.refusal?_eq_none_iff.mp hFree).2

theorem trace_login {response : Response} {token : String}
    (hRequest : connector.loginRequest password = .ok request)
    (hFree : Gateway.refusal? request = none) (hToken : GrantsToken response token) :
    (connector.login password).Trace [⟨.send request, .ok response⟩]
      (some (.ok (connector.session token))) := by
  have hEnd : connector.response (.ok response) >>= connector.readLogin request
      = .ok (connector.session token) := by
    obtain ⟨hStatus, hBody⟩ := hToken
    have hNotDown : ¬(response.status = 401 ∨ response.status = 403) := by
      intro hDown
      rw [TurnsDown.not_isSuccess hDown] at hStatus
      cases hStatus
    show connector.readLogin request response = _
    rw [readLogin, if_neg hNotDown, if_pos hStatus, hBody]
  have hTrace := (Sent.answered response hFree).trace_bind fun answer =>
    connector.response answer >>= connector.readLogin request
  rw [hEnd] at hTrace
  unfold login
  rw [hRequest]
  exact hTrace

end Connector

end GridAdmin
