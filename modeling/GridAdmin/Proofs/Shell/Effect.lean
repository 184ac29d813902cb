import GridAdmin.Proofs.Shell.Ensures
import GridAdmin.Shell.Loop

/-!
# Effects of commands

What a command does before it changes anything is made of a handful of effects: a
line printed or read, a look-up, the local zone learned, an error.  What one effect
can do to the state, and with which events, is said once, by `Effect.Step`.  A `Path`
is a sequence of effects, and `Uses` says that all traces of a step or of an action
are paths of the effects allowed to it.  A property of paths is then an induction
over effects, and no handler is opened for it again.

Two classes of effects matter.  *Quiet* effects stay on the terminal: they make no
call and change nothing that is remembered, and an error among them is a local one.
*Inquiries* are the effects of a command that looks things up at the service: nothing
is read any more, and no error is local.  After most look-ups the error stack stays
as the service left it, but a listing that fails has it printed and emptied at once.

## Main results

* `Path.append`: paths compose.
* `Path.holds`: what composes and holds of every effect holds of paths.
* `Path.quiet`: what a quiet path leaves alone, and where its errors come from.
* `Path.inquiry`: the calls and the errors of a path of inquiries.
* `Path.learnsZone`: the remembered zone changes only from unknown to an answer.
-/

namespace GridAdmin

/-! ## Look-ups -/

/-- A call that only looks something up. -/
def Call.IsLookUp : Call → Prop
  | .simpleQuery _ | .generalQuery _ _ | .gridConfiguration _ _ => True
  | .generalAdmin _ | .userAdmin _ | .modifyReplica _ | .disconnect => False

/-- A failure that is more than an empty answer. -/
def Status.isRejection (status : Status) : Bool :=
  status.isFailure && decide (status ≠ .noRowsFound)

theorem Status.isRejection_iff {status : Status} :
    status.isRejection = true ↔ status.isFailure = true ∧ status ≠ .noRowsFound := by
  simp [isRejection]

/-- A rejected answer is not the same as an empty one. -/
theorem Status.not_empty_of_isRejection {status : Status} {rows : List (List String)}
    (hRejected : status.isRejection = true) :
    ¬(status = .noRowsFound ∨ (status.isSuccess ∧ rows = [])) := by
  obtain ⟨hFailure, hRows⟩ := Status.isRejection_iff.mp hRejected
  rintro (hNone | ⟨hSuccess, -⟩)
  · exact hRows hNone
  · rw [Status.isSuccess_eq_not_isFailure, hFailure] at hSuccess
    cases hSuccess

/-- The look-ups that are listed to the user of the session: the first page of a
listing, a group, and the entry of a replica, which is asked for in a zone.  Further
pages are not among them, and neither is what a command checks before it goes on: the
local zone, the type of the user, and who is a `rodsadmin`. -/
def Call.isListing (user : UserIdentity) : Call → Bool
  | .simpleQuery query => decide (query.control = 0 ∧ query.sql ≠ Action.localZoneQuery.sql)
  | .generalQuery query zoneHint =>
      zoneHint.isSome
        || decide (query ≠ Action.userTypeQuery user ∧ query ≠ Action.rodsadminQuery)
  | .generalAdmin _ | .userAdmin _ | .modifyReplica _ | .gridConfiguration _ _
  | .disconnect => false

/-- The reply rejects a listing.  These are the look-ups after which the error stack is
printed and emptied. -/
def Call.rejectsListing (user : UserIdentity) : (c : Call) → Except ClientError c.Reply → Bool
  | .simpleQuery query, .ok reply =>
      (Call.simpleQuery query).isListing user && reply.status.isRejection
  | .generalQuery query zoneHint, .ok reply =>
      (Call.generalQuery query zoneHint).isListing user && reply.status.isRejection
  | _, _ => false

/-- A look-up without a reply rejects nothing. -/
theorem Call.rejectsListing_error {user : UserIdentity} {c : Call} {e : ClientError} :
    c.rejectsListing user (.error e) = false := by
  cases c <;> rfl

namespace Shell

/-! ## Effects and their steps -/

/-- The single effects that commands are made of before they change anything. -/
inductive Effect where
  | print (line : Line)
  | readLine (prompt : String)
  | readSecret (prompt : String)
  | readClock
  | lookUp (c : Call) (exchange : Exchange c)
  /-- A look-up behind which the error stack is printed and emptied. -/
  | reject (c : Call) (exchange : Exchange c)
  /-- Ask for the local zone and remember the answer. -/
  | learnZone
  | fail (e : ShellError)
  | starve

/-- How a part of a command ended, and the state it left behind. -/
inductive Ending where
  | value (after : State)
  | error (e : ShellError) (after : State)
  | exhausted

/-- The service named the local zone in these events. -/
def NamesZone (events : List Event) (zone : String) : Prop :=
  ∃ pushed reply,
    (⟨Query.call (.simpleQuery Action.localZoneQuery), ⟨pushed, .ok reply⟩⟩ : Event) ∈ events ∧
    reply.status.isFailure = false ∧ zone = Action.zoneOfPage reply.outBuf

/-- The terminal failed to read a line in these events. -/
def FailsToRead (events : List Event) (cause : String) : Prop :=
  ∃ prompt, (⟨Query.readLine prompt, .error cause⟩ : Event) ∈ events ∨
    (⟨Query.readSecret prompt, .error cause⟩ : Event) ∈ events

/-- What one effect does: from a state, with these events, to an ending. -/
inductive Effect.Step : Effect → State → List Event → Ending → Prop where
  | print (line : Line) (state : State) :
      Step (.print line) state (shown [line]) (.value state)
  | readLine (prompt : String) (line : Option String) (state : State) :
      Step (.readLine prompt) state [⟨Query.readLine prompt, .ok line⟩] (.value state)
  | readLineFailed (prompt cause : String) (state : State) :
      Step (.readLine prompt) state [⟨Query.readLine prompt, .error cause⟩]
        (.error (.console cause) state)
  | readSecret (prompt line : String) (state : State) :
      Step (.readSecret prompt) state [⟨Query.readSecret prompt, .ok line⟩] (.value state)
  | readSecretFailed (prompt cause : String) (state : State) :
      Step (.readSecret prompt) state [⟨Query.readSecret prompt, .error cause⟩]
        (.error (.console cause) state)
  | readClock (now : Int) (state : State) :
      Step .readClock state [⟨Query.clock, now⟩] (.value state)
  | lookUp (c : Call) (exchange : Exchange c) (state : State) :
      Step (.lookUp c exchange) state [⟨Query.call c, exchange⟩]
        (.value (state.push exchange.pushed))
  | reject (c : Call) (exchange : Exchange c) (state : State) :
      Step (.reject c exchange) state
        (⟨Query.call c, exchange⟩ :: shown (stackLines 0 (state.push exchange.pushed).stack))
        (.value { state.push exchange.pushed with stack := [] })
  | learnZone (pushed : List Diagnostic) (reply : SimpleReply) (state : State)
      (hUnknown : state.localZone = none) (hReply : reply.status.isFailure = false) :
      Step .learnZone state
        [⟨Query.call (.simpleQuery Action.localZoneQuery), ⟨pushed, .ok reply⟩⟩]
        (.value { state.push pushed with localZone := some (Action.zoneOfPage reply.outBuf) })
  | fail (e : ShellError) (state : State) (hRead : ∀ cause, e ≠ .console cause) :
      Step (.fail e) state [] (.error e state)
  | starve (state : State) : Step .starve state [] .exhausted

/-! ## Paths -/

/-- Allowed effects one after the other, up to the first that stops. -/
inductive Path (allowed : Effect → Prop) : State → List Event → Ending → Prop where
  | nil (state : State) : Path allowed state [] (.value state)
  | step {effect : Effect} {state next : State} {events rest : List Event} {ending : Ending}
      (hAllowed : allowed effect) (hStep : effect.Step state events (.value next))
      (hRest : Path allowed next rest ending) : Path allowed state (events ++ rest) ending
  | stop {effect : Effect} {state : State} {events : List Event} {ending : Ending}
      (hAllowed : allowed effect) (hStep : effect.Step state events ending) :
      Path allowed state events ending

variable {allowed : Effect → Prop} {state next : State} {events rest : List Event}
  {ending : Ending}

theorem Path.append (hFirst : Path allowed state events (.value next))
    (hRest : Path allowed next rest ending) : Path allowed state (events ++ rest) ending := by
  generalize hEnding : Ending.value next = first at hFirst
  induction hFirst with
  | nil =>
      cases hEnding
      exact hRest
  | step hAllowed hStep _ ih =>
      rw [List.append_assoc]
      exact .step hAllowed hStep (ih hEnding)
  | stop hAllowed hStep =>
      subst hEnding
      exact .step hAllowed hStep hRest

/-- An error that did not come from the terminal can be caught: the path up to
it goes on, and the error itself is an allowed effect. -/
theorem Path.caught {e : ShellError} (hPath : Path allowed state events (.error e next))
    (hTerminal : ∀ prompt, ¬allowed (.readLine prompt) ∧ ¬allowed (.readSecret prompt)) :
    Path allowed state events (.value next) ∧ allowed (.fail e) ∧ ∀ cause, e ≠ .console cause := by
  generalize hEnding : Ending.error e next = first at hPath
  induction hPath with
  | nil state => cases hEnding
  | step hAllowed hStep _ ih => exact ⟨.step hAllowed hStep (ih hEnding).1, (ih hEnding).2⟩
  | stop hAllowed hStep =>
      cases hStep with
      | fail e state hRead =>
          cases hEnding
          exact ⟨.nil _, hAllowed, hRead⟩
      | readLineFailed prompt cause state => exact absurd hAllowed (hTerminal prompt).1
      | readSecretFailed prompt cause state => exact absurd hAllowed (hTerminal prompt).2
      | _ => cases hEnding

/-- What holds of doing nothing, and of two parts together if it holds of each. -/
structure Composes (holds : State → List Event → Ending → Prop) : Prop where
  nil : ∀ state, holds state [] (.value state)
  append : ∀ {state next : State} {events rest : List Event} {ending : Ending},
    holds state events (.value next) → holds next rest ending →
      holds state (events ++ rest) ending

/-- What composes and holds of every allowed effect holds of paths. -/
theorem Path.holds {holds : State → List Event → Ending → Prop} (hComposes : Composes holds)
    (hEffect : ∀ effect state events ending, allowed effect → effect.Step state events ending →
      holds state events ending)
    (hPath : Path allowed state events ending) : holds state events ending := by
  induction hPath with
  | nil state => exact hComposes.nil state
  | step hAllowed hStep _ ih => exact hComposes.append (hEffect _ _ _ _ hAllowed hStep) ih
  | stop hAllowed hStep => exact hEffect _ _ _ _ hAllowed hStep

/-! ## Questions asked -/

/-- All questions in these events are of this kind. -/
def Asks (kind : Query → Prop) (events : List Event) : Prop :=
  ∀ event ∈ events, kind event.query

variable {kind : Query → Prop}

theorem asks_nil : Asks kind [] := by
  intro event hEvent
  cases hEvent

theorem Asks.mono {wider : Query → Prop} (hAsks : Asks kind events)
    (hWider : ∀ query, kind query → wider query) : Asks wider events :=
  fun event hEvent => hWider event.query (hAsks event hEvent)

@[simp] theorem asks_append_iff :
    Asks kind (events ++ rest) ↔ Asks kind events ∧ Asks kind rest :=
  List.forall_mem_append

theorem asks_cons_iff {event : Event} :
    Asks kind (event :: events) ↔ kind event.query ∧ Asks kind events :=
  List.forall_mem_cons

theorem asks_singleton {query : Query} {answer : query.Answer} (hQuery : kind query) :
    Asks kind [⟨query, answer⟩] := by
  intro event hEvent
  rw [List.mem_singleton.mp hEvent]
  exact hQuery

theorem asks_shown_of_mem {lines : List Line} (hPrint : ∀ line ∈ lines, kind (.print line)) :
    Asks kind (shown lines) := by
  intro event hEvent
  obtain ⟨line, hLine, rfl⟩ := List.mem_map.mp hEvent
  exact hPrint line hLine

theorem asks_shown {lines : List Line} (hPrint : ∀ line, kind (.print line)) :
    Asks kind (shown lines) :=
  asks_shown_of_mem fun line _ => hPrint line

/-- No call was made in these events. -/
def NoCall (events : List Event) : Prop :=
  Asks (fun query => ∀ c, query ≠ .call c) events

/-! ## Quiet paths -/

/-- Effects on the terminal alone, and errors that are local.  A command reads lines of its
own, but never with the prompt for commands. -/
def Effect.IsQuiet : Effect → Prop
  | .print line => line.isPlain = true
  | .readLine prompt => prompt ≠ commandPrompt
  | .readSecret _ | .readClock => True
  | .fail e => e.isLocal = true
  | .lookUp _ _ | .reject _ _ | .learnZone | .starve => False

/-- The effect prints plain lines only. -/
def Effect.PrintsPlain (effect : Effect) : Prop :=
  ∀ line, effect = .print line → line.isPlain = true

theorem Effect.IsQuiet.printsPlain {effect : Effect} (hQuiet : effect.IsQuiet) :
    effect.PrintsPlain := by
  rintro line rfl
  exact hQuiet

/-- What is certain of the ending of a quiet path. -/
def Ending.QuietFrom (state : State) (events : List Event) : Ending → Prop
  | .value after => after = state
  | .error e after =>
      after = state ∧ e.isLocal = true ∧ ∀ cause, e = .console cause → FailsToRead events cause
  | .exhausted => False

private theorem Ending.QuietFrom.prepend (hEnding : ending.QuietFrom state rest) :
    ending.QuietFrom state (events ++ rest) := by
  cases ending with
  | value after => exact hEnding
  | exhausted => exact hEnding
  | error e after =>
      obtain ⟨hAfter, hLocal, hRead⟩ := hEnding
      refine ⟨hAfter, hLocal, fun cause hCause => ?_⟩
      obtain ⟨prompt, hLine | hSecret⟩ := hRead cause hCause
      · exact ⟨prompt, Or.inl (List.mem_append_right _ hLine)⟩
      · exact ⟨prompt, Or.inr (List.mem_append_right _ hSecret)⟩

theorem Effect.Step.quiet {effect : Effect} (hQuiet : effect.IsQuiet)
    (hStep : effect.Step state events ending) : NoCall events ∧ ending.QuietFrom state events := by
  cases hStep with
  | print line => exact ⟨asks_shown fun _ _ => nofun, rfl⟩
  | readLine prompt line => exact ⟨asks_singleton fun _ => nofun, rfl⟩
  | readLineFailed prompt cause =>
      refine ⟨asks_singleton fun _ => nofun, rfl, rfl, ?_⟩
      rintro _ ⟨⟩
      exact ⟨prompt, Or.inl (List.mem_singleton.mpr rfl)⟩
  | readSecret prompt line => exact ⟨asks_singleton fun _ => nofun, rfl⟩
  | readSecretFailed prompt cause =>
      refine ⟨asks_singleton fun _ => nofun, rfl, rfl, ?_⟩
      rintro _ ⟨⟩
      exact ⟨prompt, Or.inr (List.mem_singleton.mpr rfl)⟩
  | readClock now => exact ⟨asks_singleton fun _ => nofun, rfl⟩
  | fail e state hRead =>
      exact ⟨asks_nil, rfl, hQuiet, fun cause hCause => absurd hCause (hRead cause)⟩
  | lookUp c exchange => exact hQuiet.elim
  | reject c exchange => exact hQuiet.elim
  | learnZone pushed reply state hUnknown hReply => exact hQuiet.elim
  | starve => exact hQuiet.elim

/-- A quiet path makes no call and changes nothing that is remembered.  Its
errors are local, and an error of the terminal follows a line that could not
be read. -/
theorem Path.quiet (hPath : Path Effect.IsQuiet state events ending) :
    NoCall events ∧ ending.QuietFrom state events := by
  induction hPath with
  | nil state => exact ⟨asks_nil, rfl⟩
  | step hAllowed hStep _ ih =>
      obtain ⟨hFirst, hSame⟩ := hStep.quiet hAllowed
      cases hSame
      exact ⟨asks_append_iff.mpr ⟨hFirst, ih.1⟩, ih.2.prepend⟩
  | stop hAllowed hStep => exact hStep.quiet hAllowed

/-! ## Paths of inquiries -/

/-- Effects of a command that makes these look-ups.  Every error among them is an empty
answer or records a failure. -/
def Effect.IsInquiry (user : UserIdentity) (lookUps : Call → Prop) : Effect → Prop
  | .print line => line.isPlain = true
  | .lookUp c exchange =>
      lookUps c ∧ c.IsLookUp ∧ c.rejectsListing user exchange.result = false
  | .reject c exchange =>
      lookUps c ∧ c.IsLookUp ∧ c.rejectsListing user exchange.result = true
  | .learnZone => lookUps (.simpleQuery Action.localZoneQuery)
  | .fail e => e.isLocal = false ∧ (e = .notFound ∨ e.status.isFailure = true)
  | .starve => True
  | .readLine _ | .readSecret _ | .readClock => False

theorem Effect.IsInquiry.printsPlain {user : UserIdentity} {lookUps : Call → Prop}
    {effect : Effect} (hInquiry : effect.IsInquiry user lookUps) : effect.PrintsPlain := by
  rintro line rfl
  exact hInquiry

/-- The questions of a command that has turned to the service. -/
def Query.IsRemote (calls : Call → Prop) : Query → Prop
  | .print _ => True
  | .call c => calls c
  | .readLine _ | .readSecret _ | .clock => False

/-- An error is not local, and it is an empty answer or records a failure. -/
def Ending.IsRemote : Ending → Prop
  | .value _ | .exhausted => True
  | .error e _ => e.isLocal = false ∧ (e = .notFound ∨ e.status.isFailure = true)

/-- Behind a question, lines are printed. -/
theorem asks_cons_shown {query : Query} {answer : query.Answer} {lines : List Line}
    (hQuery : kind query) (hPrint : ∀ line, kind (.print line)) :
    Asks kind (⟨query, answer⟩ :: shown lines) :=
  asks_append_iff.mpr ⟨asks_singleton hQuery, asks_shown hPrint⟩

theorem Effect.Step.inquiry {user : UserIdentity} {lookUps : Call → Prop} {effect : Effect}
    (hInquiry : effect.IsInquiry user lookUps) (hStep : effect.Step state events ending) :
    Asks (Query.IsRemote fun c => lookUps c ∧ c.IsLookUp) events ∧ ending.IsRemote := by
  cases hStep with
  | print line => exact ⟨asks_shown fun _ => trivial, trivial⟩
  | lookUp c exchange => exact ⟨asks_singleton ⟨hInquiry.1, hInquiry.2.1⟩, trivial⟩
  | reject c exchange =>
      exact ⟨asks_cons_shown ⟨hInquiry.1, hInquiry.2.1⟩ fun _ => trivial, trivial⟩
  | learnZone pushed reply state hUnknown hReply =>
      exact ⟨asks_singleton ⟨hInquiry, trivial⟩, trivial⟩
  | fail e state hRead => exact ⟨asks_nil, hInquiry⟩
  | starve => exact ⟨asks_nil, trivial⟩
  | readLine prompt line => exact hInquiry.elim
  | readLineFailed prompt cause => exact hInquiry.elim
  | readSecret prompt line => exact hInquiry.elim
  | readSecretFailed prompt cause => exact hInquiry.elim
  | readClock now => exact hInquiry.elim

/-- A path of inquiries makes its look-ups only and reads nothing, and it ends in no
local error. -/
theorem Path.inquiry {user : UserIdentity} {lookUps : Call → Prop}
    (hPath : Path (Effect.IsInquiry user lookUps) state events ending) :
    Asks (Query.IsRemote fun c => lookUps c ∧ c.IsLookUp) events ∧ ending.IsRemote := by
  induction hPath with
  | nil state => exact ⟨asks_nil, trivial⟩
  | step hAllowed hStep _ ih =>
      exact ⟨asks_append_iff.mpr ⟨(hStep.inquiry hAllowed).1, ih.1⟩, ih.2⟩
  | stop hAllowed hStep => exact hStep.inquiry hAllowed

/-! ## The remembered zone -/

/-- The state left behind, unless the fuel ran out. -/
def Ending.after? : Ending → Option State
  | .value after | .error _ after => some after
  | .exhausted => none

/-- The remembered zone stayed as it was, or it was unknown and is now one that
the service named in these events. -/
def LearnsZone (before : State) (events : List Event) (after : State) : Prop :=
  after.localZone = before.localZone ∨
    before.localZone = none ∧ ∃ zone, NamesZone events zone ∧ after.localZone = some zone

theorem NamesZone.append_left {zone : String} (hZone : NamesZone events zone) :
    NamesZone (events ++ rest) zone := by
  obtain ⟨pushed, reply, hEvent, hReply⟩ := hZone
  exact ⟨pushed, reply, List.mem_append_left rest hEvent, hReply⟩

theorem NamesZone.append_right {zone : String} (hZone : NamesZone rest zone) :
    NamesZone (events ++ rest) zone := by
  obtain ⟨pushed, reply, hEvent, hReply⟩ := hZone
  exact ⟨pushed, reply, List.mem_append_right events hEvent, hReply⟩

theorem LearnsZone.append {after : State} (hFirst : LearnsZone state events next)
    (hRest : LearnsZone next rest after) : LearnsZone state (events ++ rest) after := by
  rcases hFirst with hSame | ⟨hUnknown, zone, hZone, hKnown⟩
  · rcases hRest with hStill | ⟨hUnknown, zone, hZone, hKnown⟩
    · exact Or.inl (hStill.trans hSame)
    · exact Or.inr ⟨hSame.symm.trans hUnknown, zone, hZone.append_right, hKnown⟩
  · rcases hRest with hStill | ⟨hForgotten, _⟩
    · exact Or.inr ⟨hUnknown, zone, hZone.append_left, hStill.trans hKnown⟩
    · rw [hKnown] at hForgotten
      cases hForgotten

theorem LearnsZone.surround {after : State} (hLearns : LearnsZone state events after)
    (first last : List Event) : LearnsZone state (first ++ events ++ last) after := by
  rcases hLearns with hSame | ⟨hUnknown, zone, hZone, hKnown⟩
  · exact Or.inl hSame
  · exact Or.inr ⟨hUnknown, zone, hZone.append_right.append_left, hKnown⟩

theorem Effect.Step.learnsZone {effect : Effect} {after : State}
    (hStep : effect.Step state events ending) (hAfter : ending.after? = some after) :
    LearnsZone state events after := by
  cases hStep with
  | learnZone pushed reply state hUnknown hReply =>
      cases hAfter
      exact Or.inr ⟨hUnknown, _, ⟨pushed, reply, List.mem_singleton.mpr rfl, hReply, rfl⟩, rfl⟩
  | starve => cases hAfter
  | _ =>
      cases hAfter
      exact Or.inl rfl

/-- The remembered zone changes only from unknown to one that the service named. -/
theorem Path.learnsZone {after : State} (hPath : Path allowed state events ending)
    (hAfter : ending.after? = some after) : LearnsZone state events after := by
  induction hPath with
  | nil state =>
      cases hAfter
      exact Or.inl rfl
  | step hAllowed hStep _ ih => exact (hStep.learnsZone rfl).append (ih hAfter)
  | stop hAllowed hStep => exact hStep.learnsZone hAfter

end Shell

end GridAdmin
