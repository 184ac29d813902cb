import GridAdmin.Proc

/-!
# Traces of programs

A program does not know its surroundings.  What it does against all of them
at once is its set of *traces*: a list of questions with their answers, and
the value at the end, which is missing when the program ran out of fuel.
Every run against a handler is a trace, so what holds of all traces holds of
every run, whatever answers the handler gives and whatever it remembers.

`Always` says that a condition holds of all traces.  It is computed by
recursion along the program, and at a sequencing point it splits the events
into those of the first part and those behind it.

## Main results

* `trace_run`: a run is a trace.
* `Handler.gives_run`: the answers in a run are those of the handler.
* `trace_bind_iff`: the traces of a composed program.
* `always_bind`: a condition on a composed program, one part at a time.
* `trace_interpret_iff`: the traces of a program whose questions are answered by programs.
-/

namespace GridAdmin.Proc

variable {I : Interface} {α β σ : Type}

/-! ## Traces -/

/-- The program can ask these questions, get these answers, and end with this
value; it ends without a value when it runs out of fuel. -/
inductive Trace : Proc I α → List (Event I) → Option α → Prop where
  | done (value : α) : Trace (.done value) [] (some value)
  | exhausted : Trace .exhausted [] none
  | ask {query : I.Query} {next : I.Answer query → Proc I α} {events : List (Event I)}
      {value? : Option α} (answer : I.Answer query)
      (rest : Trace (next answer) events value?) :
      Trace (.ask query next) (⟨query, answer⟩ :: events) value?

/-- A run against a handler is a trace. -/
theorem trace_run (handler : Handler I σ) (p : Proc I α) (state : σ) :
    Trace p (p.run handler state).events (p.run handler state).value? := by
  induction p generalizing state with
  | done value => exact .done value
  | exhausted => exact .exhausted
  | ask query next ih =>
      rw [run_ask]
      exact .ask _ (ih (handler.answer query state).1 (handler.answer query state).2)

@[simp] theorem trace_done_iff {value : α} {events : List (Event I)} {value? : Option α} :
    Trace (.done value) events value? ↔ events = [] ∧ value? = some value := by
  constructor
  · rintro ⟨⟩
    exact ⟨rfl, rfl⟩
  · rintro ⟨rfl, rfl⟩
    exact .done value

@[simp] theorem trace_exhausted_iff {events : List (Event I)} {value? : Option α} :
    Trace (.exhausted : Proc I α) events value? ↔ events = [] ∧ value? = none := by
  constructor
  · rintro ⟨⟩
    exact ⟨rfl, rfl⟩
  · rintro ⟨rfl, rfl⟩
    exact .exhausted

theorem trace_ask_iff {query : I.Query} {next : I.Answer query → Proc I α}
    {events : List (Event I)} {value? : Option α} :
    Trace (.ask query next) events value?
      ↔ ∃ answer rest, events = ⟨query, answer⟩ :: rest ∧ Trace (next answer) rest value? := by
  constructor
  · rintro ⟨⟩
    exact ⟨_, _, rfl, ‹_›⟩
  · rintro ⟨answer, rest, rfl, hRest⟩
    exact .ask answer hRest

/-- A composed program either stops inside its first part, or goes on with the
value of that part. -/
theorem trace_bind_iff {p : Proc I α} {f : α → Proc I β} {events : List (Event I)}
    {value? : Option β} :
    Trace (p >>= f) events value?
      ↔ (Trace p events none ∧ value? = none) ∨
        ∃ value first second, Trace p first (some value) ∧
          Trace (f value) second value? ∧ events = first ++ second := by
  induction p generalizing events with
  | done value =>
      rw [done_bind]
      constructor
      · intro hTrace
        exact Or.inr ⟨value, [], events, .done value, hTrace, rfl⟩
      · rintro (⟨hStop, -⟩ | ⟨other, first, second, hFirst, hSecond, rfl⟩)
        · cases hStop
        · cases hFirst
          exact hSecond
  | exhausted => simp
  | ask query next ih =>
      simp only [ask_bind, trace_ask_iff, ih]
      constructor
      · rintro ⟨answer, rest, rfl, ⟨hStop, rfl⟩ | ⟨value, first, second, hFirst, hSecond, rfl⟩⟩
        · exact Or.inl ⟨⟨answer, rest, rfl, hStop⟩, rfl⟩
        · exact Or.inr ⟨value, _, second, ⟨answer, first, rfl, hFirst⟩, hSecond, rfl⟩
      · rintro (⟨⟨answer, rest, rfl, hStop⟩, rfl⟩ |
          ⟨value, _, second, ⟨answer, first, rfl, hFirst⟩, hSecond, rfl⟩)
        · exact ⟨answer, rest, rfl, Or.inl ⟨hStop, rfl⟩⟩
        · exact ⟨answer, first ++ second, rfl,
            Or.inr ⟨value, first, second, hFirst, hSecond, rfl⟩⟩

/-! ## Answers of a handler -/

/-- The answers of these events are what the handler answers, one question after the other
from this state on. -/
def Handler.Gives (handler : Handler I σ) : σ → List (Event I) → Prop
  | _, [] => True
  | state, event :: rest =>
      event.answer = (handler.answer event.query state).1 ∧
        handler.Gives (handler.answer event.query state).2 rest

/-- The answers in a run are those of the handler. -/
theorem Handler.gives_run (handler : Handler I σ) (p : Proc I α) (state : σ) :
    handler.Gives state (p.run handler state).events := by
  induction p generalizing state with
  | done value => exact trivial
  | exhausted => exact trivial
  | ask query next ih =>
      rw [run_ask]
      exact ⟨rfl, ih _ _⟩

/-! ## Conditions on all traces -/

/-- Whatever the surroundings answer, `post` holds of the events and the end. -/
def Always (p : Proc I α) (post : List (Event I) → Option α → Prop) : Prop :=
  ∀ events value?, Trace p events value? → post events value?

variable {p : Proc I α} {f : α → Proc I β}

theorem Always.mono {post weaker : List (Event I) → Option α → Prop} (hPost : p.Always post)
    (hWeaker : ∀ events value?, post events value? → weaker events value?) :
    p.Always weaker :=
  fun events value? hTrace => hWeaker events value? (hPost events value? hTrace)

@[simp] theorem always_done {value : α} {post : List (Event I) → Option α → Prop} :
    (Proc.done value : Proc I α).Always post ↔ post [] (some value) := by
  simp [Always]

@[simp] theorem always_exhausted {post : List (Event I) → Option α → Prop} :
    (Proc.exhausted : Proc I α).Always post ↔ post [] none := by
  simp [Always]

@[simp] theorem always_ask {query : I.Query} {next : I.Answer query → Proc I α}
    {post : List (Event I) → Option α → Prop} :
    (Proc.ask query next).Always post
      ↔ ∀ answer, (next answer).Always fun events value? =>
          post (⟨query, answer⟩ :: events) value? := by
  constructor
  · intro hPost answer events value? hTrace
    exact hPost _ _ (.ask answer hTrace)
  · intro hPost events value? hTrace
    obtain ⟨answer, rest, rfl, hRest⟩ := trace_ask_iff.mp hTrace
    exact hPost answer rest value? hRest

/-- A condition on a composed program is a condition on its first part: behind
each value the second part meets it, with the events of the first in front. -/
theorem always_bind {post : List (Event I) → Option β → Prop} :
    (p >>= f).Always post
      ↔ p.Always fun events value? =>
          match value? with
          | some value => (f value).Always fun more last? => post (events ++ more) last?
          | none => post events none := by
  constructor
  · intro hPost events value? hTrace
    cases value? with
    | none => exact hPost events none (trace_bind_iff.mpr (Or.inl ⟨hTrace, rfl⟩))
    | some value =>
        intro more last? hMore
        exact hPost _ _ (trace_bind_iff.mpr (Or.inr ⟨value, events, more, hTrace, hMore, rfl⟩))
  · intro hPost events last? hTrace
    rcases trace_bind_iff.mp hTrace with ⟨hStop, rfl⟩ | ⟨value, first, second, hFirst, hSecond, rfl⟩
    · exact hPost events none hStop
    · exact hPost first (some value) hFirst second last? hSecond

/-- The answers decide how a program ends. -/
theorem Trace.end_eq {events : List (Event I)} {value? other? : Option α}
    (hTrace : Trace p events value?) (hOther : Trace p events other?) : value? = other? := by
  induction hTrace with
  | done value => exact (trace_done_iff.mp hOther).2.symm
  | exhausted => exact (trace_exhausted_iff.mp hOther).2.symm
  | ask answer hRest ih =>
      obtain ⟨_, rest, hEvents, hLater⟩ := trace_ask_iff.mp hOther
      cases hEvents
      exact ih hLater

/-- A program whose course does not depend on its surroundings takes that course. -/
theorem trace_of_always {events : List (Event I)} {value? : Option α}
    (hCourse : p.Always fun events' end? => events' = events ∧ end? = value?)
    (handler : Handler I σ) (state : σ) : Trace p events value? := by
  have hTrace := trace_run handler p state
  obtain ⟨hEvents, hEnd⟩ := hCourse _ _ hTrace
  rw [hEvents, hEnd] at hTrace
  exact hTrace

/-! ## Programs that answer questions -/

/-- A program that ends with a value goes through both of its parts. -/
theorem trace_bind_some_iff {events : List (Event I)} {value : β} :
    Trace (p >>= f) events (some value)
      ↔ ∃ middle first second, Trace p first (some middle) ∧
          Trace (f middle) second (some value) ∧ events = first ++ second := by
  rw [trace_bind_iff]
  constructor
  · rintro (⟨-, hStop⟩ | hParts)
    · cases hStop
    · exact hParts
  · exact Or.inr

variable {J : Interface} {answerer : (query : I.Query) → Proc J (I.Answer query)}

/-- Each of the inner events was answered by a program, and these are the events of those
programs, one behind the other. -/
inductive Interprets (answerer : (query : I.Query) → Proc J (I.Answer query)) :
    List (Event I) → List (Event J) → Prop where
  | nil : Interprets answerer [] []
  | cons {query : I.Query} {answer : I.Answer query} {inner : List (Event I)}
      {first rest : List (Event J)} (hFirst : Trace (answerer query) first (some answer))
      (hRest : Interprets answerer inner rest) :
      Interprets answerer (⟨query, answer⟩ :: inner) (first ++ rest)

theorem interprets_singleton_iff {query : I.Query} {answer : I.Answer query}
    {events : List (Event J)} :
    Interprets answerer [⟨query, answer⟩] events ↔ Trace (answerer query) events (some answer) := by
  constructor
  · rintro (_ | ⟨hAnswer, ⟨⟩⟩)
    rw [List.append_nil]
    exact hAnswer
  · intro hAnswer
    rw [← List.append_nil events]
    exact .cons hAnswer .nil

theorem Interprets.append {inner more : List (Event I)} {events rest : List (Event J)}
    (hFirst : Interprets answerer inner events) (hRest : Interprets answerer more rest) :
    Interprets answerer (inner ++ more) (events ++ rest) := by
  induction hFirst with
  | nil => exact hRest
  | cons hAnswer _ ih =>
      rw [List.append_assoc]
      exact .cons hAnswer ih

/-- What answers two parts one after the other answers them one by one. -/
theorem Interprets.split {inner more : List (Event I)} {events : List (Event J)}
    (hBoth : Interprets answerer (inner ++ more) events) :
    ∃ first rest, events = first ++ rest ∧ Interprets answerer inner first ∧
      Interprets answerer more rest := by
  induction inner generalizing events with
  | nil => exact ⟨[], events, rfl, .nil, hBoth⟩
  | cons event inner ih =>
      cases hBoth with
      | cons hAnswer hRest =>
          obtain ⟨first, rest, rfl, hFirst, hMore⟩ := ih hRest
          exact ⟨_, rest, (List.append_assoc _ _ _).symm, .cons hAnswer hFirst, hMore⟩

/-- An interpreted program asks what the answers to its own questions ask. -/
theorem trace_interpret_iff {events : List (Event J)} {value : α} :
    Trace (p.interpret answerer) events (some value)
      ↔ ∃ inner, Trace p inner (some value) ∧ Interprets answerer inner events := by
  induction p generalizing events with
  | done other =>
      constructor
      · intro hTrace
        obtain ⟨rfl, hValue⟩ := trace_done_iff.mp hTrace
        exact ⟨[], trace_done_iff.mpr ⟨rfl, hValue⟩, .nil⟩
      · rintro ⟨inner, hTrace, hInner⟩
        obtain ⟨rfl, hValue⟩ := trace_done_iff.mp hTrace
        cases hInner
        exact trace_done_iff.mpr ⟨rfl, hValue⟩
  | exhausted =>
      constructor
      · intro hTrace
        cases hTrace
      · rintro ⟨inner, hTrace, -⟩
        cases hTrace
  | ask query next ih =>
      have hAsked : Trace ((Proc.ask query next).interpret answerer) events (some value)
          ↔ ∃ answer first second, Trace (answerer query) first (some answer) ∧
              Trace ((next answer).interpret answerer) second (some value) ∧
              events = first ++ second := trace_bind_some_iff
      rw [hAsked]
      constructor
      · rintro ⟨answer, first, second, hAnswer, hRest, rfl⟩
        obtain ⟨inner, hTrace, hInner⟩ := (ih answer).mp hRest
        exact ⟨_, .ask answer hTrace, .cons hAnswer hInner⟩
      · rintro ⟨inner, hTrace, hInner⟩
        obtain ⟨answer, rest, rfl, hRest⟩ := trace_ask_iff.mp hTrace
        cases hInner with
        | cons hAnswer hMore =>
            exact ⟨answer, _, _, hAnswer, (ih answer).mpr ⟨rest, hRest, hMore⟩, rfl⟩

end GridAdmin.Proc
