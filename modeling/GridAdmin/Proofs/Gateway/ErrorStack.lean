import GridAdmin.Proofs.Gateway.Exchanges
import GridAdmin.Proofs.JsonText

/-!
# The error stack of a session

A reply may bring diagnostics beside its own fields, and they wait on the error stack of the
session until someone empties it.  What can go wrong is the order of three steps: the status
is looked at, the body is read, the stack grows.  If the stack grew before the body was known
to hold a reply, a lost reply would leave its diagnostics behind.

Here a session is followed through all its calls, against a network that answers as it likes.
What a call can do is said once, by `Session.Outcome`: how it ends is a function of the
responses that it got, of which there is none or one, up to the wording of a cause.  From that
the error stack is accounted for over a whole history, by induction on its last step.

The last call of a session is the exception among the calls.  It has no reply, so nobody reads
its body, and a session that the server does not know any more counts as ended.

## Main definitions

* `Envelope.HoldsReply`, `Envelope.HoldsErrors`: the two parts of a body.
* `Session.Outcome`: how a call ends, by its responses.
* `Session.History`: calls and clearings, one after the other.

## Main results

* `Envelope.read?_eq_some_iff`: a body is read when it holds both parts.
* `Session.Log.always_call`: what one call does to the session and to the error stack.
* `Session.History.stack_eq`: the error stack behind a history.
* `errorStack_of_history`: the error stack of a session that was logged in.
-/

namespace GridAdmin

open Gateway (Request Response Sent responses)

/-! ## What a body holds -/

namespace Envelope

/-- The fields beside the diagnostics hold the reply to the call. -/
def HoldsReply (call : Call) (fields : List (Json.Literal × Json)) (reply : call.Reply) : Prop :=
  (replyPart fields).all isAdmissible = true ∧
    ∃ known, Json.asObject? call.replyFields (.object (replyPart fields)) = some known ∧
      call.replyOfFields? known = some reply

/-- The diagnostics among the fields: none without a field for them. -/
inductive HoldsErrors (fields : List (Json.Literal × Json)) : List Diagnostic → Prop where
  | missing (hMissing : Json.valuesOf errorsField fields = []) : HoldsErrors fields []
  | listed {value : Json} {errors : List Diagnostic}
      (hValue : Json.valuesOf errorsField fields = [value])
      (hErrors : Wire.decode? value = some errors) : HoldsErrors fields errors

private theorem diagnostics?_eq_some_iff {fields : List (Json.Literal × Json)}
    {errors : List Diagnostic} :
    diagnostics? fields = some errors ↔ HoldsErrors fields errors := by
  unfold diagnostics? Json.fieldOf?
  constructor
  · intro hErrors
    split at hErrors
    · cases hErrors
      exact .missing ‹_›
    · exact .listed ‹_› hErrors
    · cases hErrors
  · rintro (hMissing | ⟨hValue, hErrors⟩)
    · rw [hMissing]
      rfl
    · rw [hValue]
      exact hErrors

/-- A body is read when it is an object that holds both. -/
theorem read?_eq_some_iff {call : Call} {body : String} {reply : call.Reply}
    {errors : List Diagnostic} :
    read? call body = some (reply, errors) ↔
      ∃ fields, Json.read? body = some (.object fields) ∧ HoldsReply call fields reply ∧
        HoldsErrors fields errors := by
  have hObject (fields : List (Json.Literal × Json)) :
      ofJson? call (.object fields) = some (reply, errors) ↔
        HoldsReply call fields reply ∧ HoldsErrors fields errors := by
    rw [← diagnostics?_eq_some_iff]
    unfold ofJson? HoldsReply
    cases hErrors : diagnostics? fields with
    | none => simp [hErrors]
    | some found =>
        cases hAll : (replyPart fields).all isAdmissible with
        | false => simp [hErrors, hAll]
        | true =>
            simp only [hErrors, hAll, Option.bind_eq_bind, Option.bind_some]
            cases hKnown : Json.asObject? call.replyFields (.object (replyPart fields)) with
            | none => simp
            | some known => cases hReply : call.replyOfFields? known <;> simp [hReply]
  unfold read?
  cases hBody : Json.read? body with
  | none => simp
  | some value =>
    cases value with
    | object fields => simp [hObject]
    | _ => simp [ofJson?]
end Envelope
/-! ## What a reply leaves on the error stack -/

/-- The diagnostics that a response to the call leaves behind: those beside a reply that could
be read.  The end of a session reads no reply. -/
def Call.diagnosticsIn (call : Call) (response : Response) : List Diagnostic :=
  if call ≠ .disconnect ∧ response.isSuccess then
    ((Envelope.read? call response.body).map (·.2)).getD []
  else []

namespace Session

variable {call : Call} {request : Request} {response : Response} {events : List Gateway.Event}

/-! ## How a call ends -/

/-- How a call ends, by the responses that it got.  There is none or one. -/
inductive Outcome : (call : Call) → List Response → Except ClientError call.Reply → Prop where
  /-- No response came. -/
  | silent (call : Call) (cause : String) :
      Outcome call [] (.error (.transport call.operation cause))
  /-- The server ended the session, or did not know it any more. -/
  | closed {response : Response} (hClosed : response.isSuccess = true ∨ response.status = 404) :
      Outcome .disconnect [response] (.ok ())
  | unclosed {response : Response} (hStatus : response.isSuccess = false)
      (hKnown : response.status ≠ 404) :
      Outcome .disconnect [response] (.error (.protocol .disconnect response.status))
  /-- The status tells of a failure, whatever the body holds. -/
  | refused {call : Call} {response : Response} (hCall : call ≠ .disconnect)
      (hStatus : response.isSuccess = false) :
      Outcome call [response] (.error (.protocol call.operation response.status))
  /-- The body holds no reply to the call, or no list of diagnostics beside it. -/
  | undecodable {call : Call} {response : Response} (hCall : call ≠ .disconnect)
      (hStatus : response.isSuccess = true) (hBody : Envelope.read? call response.body = none)
      (cause : String) : Outcome call [response] (.error (.decode call.operation cause))
  | replied {call : Call} {response : Response} {reply : call.Reply} {errors : List Diagnostic}
      (hCall : call ≠ .disconnect) (hStatus : response.isSuccess = true)
      (hBody : Envelope.read? call response.body = some (reply, errors)) :
      Outcome call [response] (.ok reply)

/-- A call that fails leaves nothing on the error stack, even where its body holds diagnostics. -/
private theorem Outcome.diagnosticsIn_of_error {received : List Response} {error : ClientError}
    (hOutcome : Outcome call received (.error error)) :
    received.flatMap call.diagnosticsIn = [] := by
  cases hOutcome with
  | silent => rfl
  | unclosed hStatus hKnown => simp [Call.diagnosticsIn]
  | refused hCall hStatus => simp [Call.diagnosticsIn, hStatus]
  | undecodable hCall hStatus hBody cause => simp [Call.diagnosticsIn, hBody]

private theorem exchangeOfResponse_of_ne (request : Request) (response : Response)
    (hCall : call ≠ .disconnect) :
    exchangeOfResponse request response call
      = if response.isSuccess then exchangeOfBody request call response.body
        else failed (.protocol call.operation response.status) := by
  cases call <;> first | rfl | exact absurd rfl hCall

/-- What becomes of a response to a call other than the last one. -/
private theorem exchangeOfResponse_outcome (request : Request) (response : Response)
    (hCall : call ≠ .disconnect) :
    Outcome call [response] (exchangeOfResponse request response call).result ∧
      (exchangeOfResponse request response call).pushed = call.diagnosticsIn response := by
  rw [exchangeOfResponse_of_ne request response hCall]
  by_cases hStatus : response.isSuccess = true
  · rw [if_pos hStatus, exchangeOfBody]
    cases hBody : Envelope.read? call response.body with
    | none =>
        refine ⟨.undecodable hCall hStatus hBody _, ?_⟩
        simp [failed, Call.diagnosticsIn, hBody]
    | some known =>
        refine ⟨.replied hCall hStatus hBody, ?_⟩
        simp [Call.diagnosticsIn, hCall, hStatus, hBody]
  · rw [if_neg hStatus]
    refine ⟨.refused hCall (eq_false_of_ne_true hStatus), ?_⟩
    simp [failed, Call.diagnosticsIn, hStatus]

private theorem exchangeOfClosing_outcome (response : Response) :
    Outcome .disconnect [response] (exchangeOfClosing response).result ∧
      (exchangeOfClosing response).pushed = [] := by
  unfold exchangeOfClosing
  by_cases hClosed : response.isSuccess = true ∨ response.status = 404
  · rw [if_pos hClosed]
    exact ⟨.closed hClosed, rfl⟩
  · rw [if_neg hClosed]
    rw [not_or] at hClosed
    exact ⟨.unclosed (eq_false_of_ne_true hClosed.1) hClosed.2, rfl⟩

/-- What is made of the answer to a request follows from the responses alone. -/
theorem exchange_outcome {answer : Except String Response} (hSent : Sent request events answer)
    (call : Call) :
    Outcome call (responses events) (exchange request call answer).result ∧
      (exchange request call answer).pushed = (responses events).flatMap call.diagnosticsIn := by
  cases hSent with
  | refused hRefused => exact ⟨.silent call _, rfl⟩
  | lost cause hFree => exact ⟨.silent call _, rfl⟩
  | answered response hFree =>
      have hResponses : responses [⟨Gateway.Query.send request, .ok response⟩] = [response] := rfl
      rw [hResponses, List.flatMap_singleton]
      by_cases hCall : call = .disconnect
      · subst hCall
        exact exchangeOfClosing_outcome response
      · exact exchangeOfResponse_outcome request response hCall

/-! ## One call -/

namespace Log

variable {log : Log}

/-- The log behind a call that got these responses. -/
def after (log : Log) (call : Call) (received : List Response) : Log :=
  { log with stack := log.stack ++ received.flatMap call.diagnosticsIn }

/-- Every call ends, and it adds to the error stack what its responses left behind. -/
theorem always_call (hBase : log.session.base.IsHierarchical) (call : Call) :
    (log.call call).Always fun events last? =>
      ∃ result, Outcome call (responses events) result ∧
        last? = some (result, log.after call (responses events)) := by
  obtain ⟨request, hRequest, -⟩ := exists_request hBase call
  unfold Log.call
  refine Proc.always_bind.mpr ((always_perform hRequest).mono ?_)
  rintro events _ ⟨answer, hSent, rfl⟩
  obtain ⟨hOutcome, hPushed⟩ := exchange_outcome hSent call
  refine Proc.always_done.mpr ⟨(exchange request call answer).result, ?_, ?_⟩
  · rw [List.append_nil]
    exact hOutcome
  · rw [List.append_nil, hPushed]
    rfl

private theorem trace_call {events : List Gateway.Event} {answer : Except String Response}
    (hRequest : log.session.request call = .ok request) (hSent : Sent request events answer) :
    (log.call call).Trace events
      (some ((exchange request call answer).result, log.after call (responses events))) := by
  have hPushed := (exchange_outcome hSent call).2
  refine Proc.trace_bind_iff.mpr (Or.inr ⟨_, events, [], trace_perform hRequest hSent, ?_,
    (List.append_nil events).symm⟩)
  rw [after, ← hPushed]
  exact .done _

end Log

/-! ## Histories -/

/-- One step in the life of a session: a call with what was asked of the network for it, or the
error stack is emptied. -/
inductive Step where
  | called (call : Call) (events : List Gateway.Event)
  | cleared

/-- The diagnostics that came with a step. -/
def Step.diagnostics : Step → List Diagnostic
  | .called call events => (responses events).flatMap call.diagnosticsIn
  | .cleared => []

/-- The step is a call. -/
def Step.isCall : Step → Bool
  | .called _ _ => true
  | .cleared => false

/-- The calls since the error stack was emptied the last time. -/
def sinceCleared (steps : List Step) : List Step :=
  (steps.reverse.takeWhile Step.isCall).reverse

/-- The steps may have led from the one log to the other, whatever the network answered. -/
inductive History (start : Log) : List Step → Log → Prop where
  | start : History start [] start
  | called {steps : List Step} {log next : Log} {call : Call} {events : List Gateway.Event}
      {result : Except ClientError call.Reply} (hBefore : History start steps log)
      (hCall : (log.call call).Trace events (some (result, next))) :
      History start (steps ++ [.called call events]) next
  | cleared {steps : List Step} {log : Log} (hBefore : History start steps log) :
      History start (steps ++ [.cleared]) log.clear

private theorem sinceCleared_append_called (steps : List Step) (call : Call)
    (events : List Gateway.Event) :
    sinceCleared (steps ++ [.called call events])
      = sinceCleared steps ++ [.called call events] := by
  rw [sinceCleared, List.reverse_append, List.reverse_singleton, List.singleton_append,
    List.takeWhile_cons_of_pos rfl, List.reverse_cons]
  rfl

private theorem sinceCleared_append_cleared (steps : List Step) :
    sinceCleared (steps ++ [.cleared]) = [] := by
  rw [sinceCleared, List.reverse_append, List.reverse_singleton, List.singleton_append,
    List.takeWhile_cons_of_neg Bool.false_ne_true]
  rfl

variable {start log : Log} {steps : List Step}

/-- No step changes the session. -/
theorem History.session_eq (hHistory : History start steps log)
    (hBase : start.session.base.IsHierarchical) : log.session = start.session := by
  induction hHistory with
  | start => rfl
  | cleared hBefore ih => exact ih
  | @called steps log next call events result hBefore hCall ih =>
      have hHere : log.session.base.IsHierarchical := ih ▸ hBase
      obtain ⟨result, -, hEnd⟩ := Log.always_call hHere call _ _ hCall
      obtain ⟨-, rfl⟩ := Prod.mk.inj (Option.some.inj hEnd)
      exact ih

/-- The error stack holds what has come since it was emptied the last time. -/
theorem History.stack_eq (hHistory : History start steps log)
    (hBase : start.session.base.IsHierarchical) (hStack : start.stack = []) :
    log.stack = (sinceCleared steps).flatMap Step.diagnostics := by
  induction hHistory with
  | start => exact hStack
  | cleared hBefore ih =>
      rw [sinceCleared_append_cleared]
      rfl
  | @called steps log next call events result hBefore hCall ih =>
      have hHere : log.session.base.IsHierarchical := hBefore.session_eq hBase ▸ hBase
      obtain ⟨result, -, hEnd⟩ := Log.always_call hHere call _ _ hCall
      obtain ⟨-, rfl⟩ := Prod.mk.inj (Option.some.inj hEnd)
      rw [sinceCleared_append_called, List.flatMap_append, ← ih, List.flatMap_singleton]
      rfl

end Session

/-! ## Sessions that were logged in -/

/-- A login that succeeds was sent below a hierarchical address. -/
private theorem Connector.isHierarchical_of_login {connector : Connector} {password : String}
    {events : List Gateway.Event} {session : Session}
    (hLogin : (connector.login password).Trace events (some (.ok session))) :
    session.base.IsHierarchical := by
  rcases always_login _ _ hLogin with ⟨error, -, -, hEnd⟩ | ⟨request, answer, result, hRequest,
    -, hLoginEnd, hEnd⟩
  · cases hEnd
  · cases hEnd
    cases hLoginEnd with
    | opened hToken => exact (of_loginRequest hRequest).1

/-! ## The error stack -/

/-- The error stack of a session holds the diagnostics of the replies since it was emptied the
last time, in the order of their calls, and nothing else.  A call that fails adds nothing and
changes neither the user nor the token, and the way it fails follows from its response. -/
theorem errorStack_of_history {connector : Connector} {password : String}
    {opening : List Gateway.Event} {session : Session} {steps : List Session.Step}
    {log : Session.Log}
    (hLogin : (connector.login password).Trace opening (some (.ok session)))
    (hHistory : Session.History ⟨session, []⟩ steps log) :
    log.session = session ∧
    log.stack = (Session.sinceCleared steps).flatMap Session.Step.diagnostics ∧
    (∀ call events last?, (log.call call).Trace events last? →
      ∃ result next, last? = some (result, next) ∧
        Session.Outcome call (responses events) result ∧
        ∀ error, result = .error error → next = log) ∧
    ∀ call body reply errors, Envelope.read? call body = some (reply, errors) ↔
      ∃ fields, Json.read? body = some (.object fields) ∧ Envelope.HoldsReply call fields reply ∧
        Envelope.HoldsErrors fields errors := by
  have hBase := Connector.isHierarchical_of_login hLogin
  refine ⟨hHistory.session_eq hBase, hHistory.stack_eq hBase rfl, ?_, ?_⟩
  · intro call events last? hTrace
    have hHere : log.session.base.IsHierarchical := hHistory.session_eq hBase ▸ hBase
    obtain ⟨result, hOutcome, hEnd⟩ := Session.Log.always_call hHere call events last? hTrace
    refine ⟨result, _, hEnd, hOutcome, ?_⟩
    rintro error rfl
    rw [Session.Log.after, hOutcome.diagnosticsIn_of_error, List.append_nil]
  · intro call body reply errors
    exact Envelope.read?_eq_some_iff

/-! ## A reply that is lost -/

namespace LostReply

def connector : Connector where
  base :=
    { scheme := "http".toList
      authority := some
        { user := [], password := [], host := .domain "catalog".toList, port := some 1247 }
      path := .segments [[]]
      query := none
      fragment := none }
  user := ⟨"rods", "tempZone"⟩
  identifier := "1"
  timeout := 60

def session : Session := connector.session "t1"

/-- The request with this method for this resource. -/
def request (method : Gateway.Method) (names : List String) (token body : Option String) :
    Request where
  method
  address := { connector.base with path := .segments (names.map String.toList) }
  identifier := "1"
  token
  body
  timeout := 60

/-- A successful response with this body. -/
def success (body : Json) : Response :=
  { status := 200, body := body.compactText }

def loginRequest : Request :=
  request .post ["v1", "session"] none
    (some (Connector.credentials connector.user "pw").compactText)

def loginEvents : List Gateway.Event :=
  [⟨.send loginRequest, .ok (success (.record [("token", .text "t1")]))⟩]

private theorem login : (connector.login "pw").Trace loginEvents (some (.ok session)) := by
  refine Connector.trace_login rfl (by decide +kernel) ⟨rfl, ?_⟩
  rw [success, Json.read?_compactText]
  rfl

/-- The value of an option, asked for in the grid configuration. -/
def configuration : Call := .gridConfiguration "plugins" "timeout"

def configurationRequest : Request :=
  request .get ["v1", "grid-configuration", "plugins", "timeout"] (some "t1") none

private theorem request_configuration :
    session.request configuration = .ok configurationRequest := by
  rfl

private theorem free : Gateway.refusal? configurationRequest = none := by
  decide +kernel

/-- The call is answered with this body. -/
def asked (body : Json) : Session.Step :=
  .called configuration [⟨.send configurationRequest, .ok (success body)⟩]

private theorem history_asked {steps : List Session.Step} {stack : ErrorStack} (body : Json)
    (hBefore : Session.History ⟨session, []⟩ steps ⟨session, stack⟩) :
    Session.History ⟨session, []⟩ (steps ++ [asked body])
      ⟨session, stack ++ configuration.diagnosticsIn (success body)⟩ := by
  have hSent := Sent.answered (success body) free
  have hNext := hBefore.called (Session.Log.trace_call request_configuration hSent)
  have hResponses : responses [⟨Gateway.Query.send configurationRequest, .ok (success body)⟩]
      = [success body] := rfl
  rw [Session.Log.after, hResponses, List.flatMap_singleton] at hNext
  exact hNext

/-- The diagnostics in a body that has them beside other fields. -/
def noted (message : String) (fields : List (String × Json)) : Json :=
  .record (("errors", .array [.record [("message", .text message)]]) :: fields)

/-- The first note is read and the error stack is emptied, the second note stays, and the third
comes with no reply. -/
def steps : List Session.Step :=
  [ asked (noted "first" [("status", .int 0)]), .cleared,
    asked (noted "second" [("status", .int 0)]), asked (noted "third" []) ]

private theorem diagnosticsIn_success (body : Json) :
    configuration.diagnosticsIn (success body)
      = ((Envelope.ofJson? configuration body).map (·.2)).getD [] := by
  rw [Call.diagnosticsIn, if_pos ⟨nofun, rfl⟩, Envelope.read?, success, Json.read?_compactText]
  rfl

theorem history : Session.History ⟨session, []⟩ steps ⟨session, [⟨.success, "second"⟩]⟩ := by
  have hFirst := history_asked (noted "first" [("status", .int 0)]) .start
  have hSecond := history_asked (noted "second" [("status", .int 0)]) hFirst.cleared
  have hThird := history_asked (noted "third" []) hSecond
  simp only [diagnosticsIn_success] at hThird
  exact hThird

end LostReply

open LostReply in
/-- Of three notes that the server sent only the second one is on the error stack. -/
theorem errorStack_of_lost_reply :
    (connector.login "pw").Trace loginEvents (some (.ok LostReply.session)) ∧
    Session.History ⟨LostReply.session, []⟩ steps ⟨LostReply.session, [⟨.success, "second"⟩]⟩ ∧
    (Session.sinceCleared steps).flatMap Session.Step.diagnostics = [⟨.success, "second"⟩] := by
  have hStack := (errorStack_of_history login history).2.1
  exact ⟨login, history, hStack.symm⟩

end GridAdmin
