import GridAdmin.Proofs.Gateway.Exchanges
import GridAdmin.Proofs.Shell.CommandLoop
import GridAdmin.Proofs.Shell.SingleRequest
import Mathlib.Data.List.Forall2

/-!
# The requests of a run

The program asks its surroundings many things, and a request to the server is only one of them.
This module picks the requests out of the events of a run and says which parts of the program
make any.

Parts that are interpreted into the program keep their own view of what they do: the client
sees a network, and the shell sees calls.  Both views are tied to the requests here.  A client
that is not refused sends one request; an open session sends one request for each call of the
shell, in the order of the calls, and nothing for anything else that the shell asks.  No command
makes the call that ends a session, so the session stays open as long as commands run.

## Main definitions

* `CommandLine.Sending`, `CommandLine.traffic`: the requests among events, with their answers.
* `CommandLine.Quiet`: a part of the program that makes none.
* `Sending.IsFor`: the request for a call of a session.

## Main results

* `CommandLine.trace_overNetwork_iff`: what a part sees of the network is what is asked of it.
* `CommandLine.trace_perform_iff`: a call of an open session is one request.
* `CommandLine.traffic_interprets`: the requests of the shell are those for its calls.
* `Shell.keepsOpen_runCommands`: commands do not end the session.
-/

namespace GridAdmin

open Gateway (Request Response Sent)

/-! ## Commands keep the session open -/

theorem Call.method_eq_delete_iff {call : Call} : call.method = .delete ↔ call = .disconnect := by
  cases call <;> simp [Call.method]

/-- No command ends the session of the service. -/
private theorem Handler.MayCall.ne_disconnect {settings : Shell.Settings} {command : Command}
    {before : List Shell.Event} {handler : Handler} {call : Call}
    (hCall : handler.MayCall settings command before call) : call ≠ .disconnect := by
  obtain ⟨act, ⟨-, hActs⟩, hMakes⟩ := hCall
  rintro rfl
  cases hMakes
  cases hActs with
  | listing listing hLookUp => exact hLookUp

namespace Shell

variable {context : Context} {state : State} {command : Command}

/-- The session is not ended in these events. -/
abbrev KeepsOpen (events : List Event) : Prop :=
  Asks (fun query => query ≠ .call .disconnect) events

private theorem DispatchTrace.keepsOpen {events : List Event} {ended? : Option (Outcome × State)}
    (hTrace : DispatchTrace context state command events ended?) : KeepsOpen events := by
  rintro ⟨query, exchange⟩ hEvent rfl
  obtain ⟨before, after, hEvents⟩ := List.append_of_mem hEvent
  obtain ⟨handler, first, middle, -, -, hCall, -⟩ := hTrace.call_split hEvents
  exact hCall.ne_disconnect rfl

theorem keepsOpen_runCommands {fuel : Nat} {interactive : Bool} :
    Ensures (runCommands fuel command interactive) context state fun events last =>
      ∀ status after, last = some (status, after) → KeepsOpen events :=
  @ensures_runCommands context state command (fun _ events _ => KeepsOpen events)
    (fun hFirst hRest => asks_append_iff.mpr ⟨hFirst, hRest⟩) DispatchTrace.keepsOpen
    (fun _ => asks_singleton nofun) fuel interactive

theorem KeepsOpen.disconnect_notMem {events : List Event} (hOpen : KeepsOpen events) :
    Call.disconnect ∉ callsIn events := by
  intro hCall
  obtain ⟨⟨query, answer⟩, hEvent, hQuery⟩ := List.mem_filterMap.mp hCall
  cases query with
  | call other =>
      cases hQuery
      exact hOpen _ hEvent rfl
  | _ => cases hQuery

end Shell

namespace CommandLine

/-! ## Requests among the events of the program -/

/-- One question of the program, with its answer. -/
abbrev Event := Proc.Event interface

/-- A request that was handed to the network, and what came back. -/
structure Sending where
  request : Request
  answer : Except String Response

/-- The event of handing a request to the network. -/
def Sending.event (sending : Sending) : Event :=
  ⟨Query.network (.send sending.request), sending.answer⟩

/-- The request that an event hands to the network. -/
def sendingOf : Event → Option Sending
  | ⟨.network (.send request), answer⟩ => some ⟨request, answer⟩
  | _ => none

/-- The requests that were handed to the network, in order. -/
def traffic (events : List Event) : List Sending :=
  events.filterMap sendingOf

/-- An event of the network as one of the program. -/
def networked (event : Gateway.Event) : Event :=
  ⟨Query.network event.query, event.answer⟩

variable {α β : Type} {events rest : List Event}

@[simp] theorem traffic_append : traffic (events ++ rest) = traffic events ++ traffic rest :=
  List.filterMap_append

@[simp] theorem traffic_sending (sending : Sending) : traffic [sending.event] = [sending] := rfl

/-! ## Parts that send nothing -/

/-- Whatever happens, no request is handed to the network. -/
def Quiet (program : Program α) : Prop :=
  program.Always fun events _ => traffic events = []

theorem quiet_done {value : α} : Quiet (.done value) :=
  Proc.always_done.mpr rfl

theorem quiet_ask {query : Query} {next : query.Answer → Program α}
    (hQuery : ∀ answer, sendingOf ⟨query, answer⟩ = none) (hNext : ∀ answer, Quiet (next answer)) :
    Quiet (.ask query next) := by
  refine Proc.always_ask.mpr fun answer => (hNext answer).mono fun events _ hRest => ?_
  rw [traffic, List.filterMap_cons, hQuery answer]
  exact hRest

theorem quiet_bind {first : Program α} {next : α → Program β} (hFirst : Quiet first)
    (hNext : ∀ value, Quiet (next value)) : Quiet (first >>= next) := by
  refine Proc.always_bind.mpr (hFirst.mono fun events value? hEvents => ?_)
  rcases value? with _ | value
  · exact hEvents
  · refine (hNext value).mono fun more _ hMore => ?_
    rw [traffic_append, hEvents, hMore]
    rfl

/-- A part is quiet when everything that answers its questions is. -/
theorem quiet_interpret {I : Interface} {proc : Proc I α}
    {answerer : (query : I.Query) → Program (I.Answer query)}
    (hAnswerer : ∀ query, Quiet (answerer query)) : Quiet (proc.interpret answerer) := by
  induction proc with
  | done value => exact quiet_done
  | exhausted => exact Proc.always_exhausted.mpr rfl
  | ask query next ih => exact quiet_bind (hAnswerer query) ih

/-- Only the calls of the shell are answered over the network. -/
theorem quiet_answerShell {perform : (call : Call) → Program (Exchange call)}
    {query : Shell.Query} (hCall : ∀ call, query = .call call → Quiet (perform call)) :
    Quiet (answerShell perform query) := by
  cases query with
  | call call => exact hCall call rfl
  | print line => exact quiet_ask (fun _ => rfl) fun _ => quiet_done
  | readLine prompt => exact quiet_ask (fun _ => rfl) fun _ => quiet_done
  | readSecret prompt => exact quiet_ask (fun _ => rfl) fun _ => quiet_done
  | clock => exact quiet_ask (fun _ => rfl) fun _ => quiet_done

/-! ## Parts that use the network alone -/

private theorem interprets_answerNetwork_iff {inner : List Gateway.Event} :
    Proc.Interprets answerNetwork inner events ↔ events = inner.map networked := by
  induction inner generalizing events with
  | nil =>
      constructor
      · rintro ⟨⟩
        rfl
      · rintro rfl
        exact .nil
  | cons event inner ih =>
      constructor
      · rintro (_ | ⟨hAnswer, hRest⟩)
        cases hAnswer with
        | ask answer hDone =>
            cases hDone
            rw [ih.mp hRest]
            rfl
      · rintro rfl
        have hAnswer : (answerNetwork event.query).Trace [networked event] (some event.answer) :=
          Proc.trace_ask_iff.mpr ⟨_, _, rfl, .done _⟩
        exact .cons hAnswer (ih.mpr rfl)

theorem trace_overNetwork_iff {proc : Proc Gateway.interface α} {value : α} :
    (overNetwork proc).Trace events (some value)
      ↔ ∃ inner, proc.Trace inner (some value) ∧ events = inner.map networked := by
  unfold overNetwork
  exact Proc.trace_interpret_iff.trans
    (exists_congr fun inner => and_congr_right' interprets_answerNetwork_iff)

/-- A request that is not refused is sent once. -/
theorem exists_sending_of_sent {request : Request} {inner : List Gateway.Event}
    {answer : Except String Response} (hSent : Sent request inner answer)
    (hFree : Gateway.refusal? request = none) :
    ∃ sending : Sending, sending.request = request ∧ inner.map networked = [sending.event] ∧
      ∀ response, sending.answer = .ok response ↔ answer = .ok response := by
  cases hSent with
  | refused hRefused =>
      rw [hFree] at hRefused
      cases hRefused
  | answered response hFree => exact ⟨⟨request, .ok response⟩, rfl, rfl, fun _ => Iff.rfl⟩
  | lost cause hFree =>
      refine ⟨⟨request, .error cause⟩, rfl, rfl, ?_⟩
      intro response
      constructor <;> exact nofun

/-- The network may answer a request that is not refused as it likes. -/
private theorem exists_sent (sending : Sending) (hFree : Gateway.refusal? sending.request = none) :
    ∃ inner answer, Sent sending.request inner answer ∧ inner.map networked = [sending.event] := by
  obtain ⟨request, cause | response⟩ := sending
  · exact ⟨_, _, .lost cause hFree, rfl⟩
  · exact ⟨_, _, .answered response hFree, rfl⟩

/-! ## Calls of an open session -/

/-- The request is the one for this call. -/
def Sending.IsFor (sending : Sending) (session : Session) (call : Call) : Prop :=
  session.request call = .ok sending.request

variable {session : Session}

theorem exists_call_of_mem {calls : List Call} {sendings : List Sending}
    (hFor : List.Forall₂ (fun call sending => Sending.IsFor sending session call) calls sendings)
    {sending : Sending} (hMem : sending ∈ sendings) :
    ∃ call ∈ calls, sending.IsFor session call := by
  induction hFor with
  | nil => cases hMem
  | @cons call head calls sendings hHead hTail ih =>
      rcases List.mem_cons.mp hMem with rfl | hLater
      · exact ⟨call, List.mem_cons_self, hHead⟩
      · obtain ⟨other, hOther, hSame⟩ := ih hLater
        exact ⟨other, List.mem_cons_of_mem _ hOther, hSame⟩

/-- A call of an open session is one request, and the network may answer it as it likes. -/
theorem trace_perform_iff (hSend : session.CanSend) {call : Call} :
    (∃ exchange, (perform session call).Trace events (some exchange))
      ↔ ∃ sending : Sending, sending.IsFor session call ∧ events = [sending.event] := by
  obtain ⟨request, hRequest, hFree⟩ := hSend.exists_request call
  constructor
  · rintro ⟨exchange, hTrace⟩
    obtain ⟨inner, hInner, rfl⟩ := trace_overNetwork_iff.mp hTrace
    obtain ⟨answer, hSent, -⟩ := Session.always_perform hRequest _ _ hInner
    obtain ⟨sending, hSame, hEvent, -⟩ := exists_sending_of_sent hSent hFree
    exact ⟨sending, by rw [Sending.IsFor, hSame, hRequest], hEvent⟩
  · rintro ⟨sending, hFor, rfl⟩
    cases hRequest.symm.trans hFor
    obtain ⟨inner, answer, hSent, hEvent⟩ := exists_sent sending hFree
    exact ⟨_, trace_overNetwork_iff.mpr ⟨inner, Session.trace_perform hRequest hSent, hEvent.symm⟩⟩

/-! ## The shell of an open session -/

/-- The answers to the questions of the shell hand over one request a call and no other. -/
theorem traffic_interprets (hSend : session.CanSend) {inner : List Shell.Event}
    (hInner : Proc.Interprets (answerShell (perform session)) inner events) :
    List.Forall₂ (fun call sending => Sending.IsFor sending session call) (Shell.callsIn inner)
      (traffic events) := by
  induction hInner with
  | nil => exact .nil
  | @cons query answer inner first rest hFirst hRest ih =>
      rw [traffic_append]
      cases query with
      | call call =>
          obtain ⟨sending, hFor, rfl⟩ := (trace_perform_iff hSend).mp ⟨_, hFirst⟩
          exact .cons hFor ih
      | _ =>
          have hQuiet : traffic first = [] :=
            quiet_answerShell (fun _ hCall => by cases hCall) _ _ hFirst
          rw [hQuiet]
          exact ih

end CommandLine

end GridAdmin
