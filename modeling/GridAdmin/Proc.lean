/-!
# Programs that ask

A program of type `Proc I α` asks its surroundings one question after another
and ends in an `α`. The questions and their answers are described by an
interface `I`: printing a line, reading one, sending a request. A program is
plain data, a tree whose branches are the possible answers, so the same
program runs against a terminal and a server, against a script, or against
anything at all inside a proof.

A loop that may go on for ever takes fuel. Without fuel a program is
`exhausted`, which is no answer of its own: more fuel may still give one.

Running a program against a `Handler` yields its value together with the
events, which are the questions and answers in order.

## Main results

* `Proc.instLawfulMonad`: programs compose as a lawful monad.
* `Proc.run_bind`: a composed program runs its parts one after the other.
* `Proc.interpret_bind`: interpretation respects composition.
-/

namespace GridAdmin

/-- Questions, and the type of the answer to each. -/
structure Interface where
  Query : Type
  Answer : Query → Type

/-- A program that asks questions of `I` and ends in an `α`. -/
inductive Proc (I : Interface) (α : Type) where
  | done (value : α)
  /-- Out of fuel. -/
  | exhausted
  | ask (query : I.Query) (next : I.Answer query → Proc I α)

namespace Proc

variable {I J : Interface} {α β σ : Type}

/-! ## Composition -/

/-- Go on with `f` at the end of a program. -/
def bind : Proc I α → (α → Proc I β) → Proc I β
  | .done value, f => f value
  | .exhausted, _ => .exhausted
  | .ask query next, f => .ask query fun answer => (next answer).bind f

instance : Monad (Proc I) where
  pure := .done
  bind := bind

@[simp] theorem pure_eq (value : α) : (pure value : Proc I α) = .done value := rfl

@[simp] theorem done_bind (value : α) (f : α → Proc I β) :
    (Proc.done value >>= f) = f value := rfl

@[simp] theorem exhausted_bind (f : α → Proc I β) :
    ((Proc.exhausted : Proc I α) >>= f) = .exhausted := rfl

@[simp] theorem ask_bind (query : I.Query) (next : I.Answer query → Proc I α)
    (f : α → Proc I β) :
    (Proc.ask query next >>= f) = .ask query fun answer => next answer >>= f := rfl

theorem bind_done (p : Proc I α) : (p >>= Proc.done) = p := by
  induction p with
  | done value => rfl
  | exhausted => rfl
  | ask query next ih => simp [ih]

theorem bind_assoc_eq {γ : Type} (p : Proc I α) (f : α → Proc I β) (g : β → Proc I γ) :
    (p >>= f >>= g) = (p >>= fun value => f value >>= g) := by
  induction p with
  | done value => rfl
  | exhausted => rfl
  | ask query next ih => simp [ih]

instance instLawfulMonad : LawfulMonad (Proc I) :=
  LawfulMonad.mk' (Proc I) bind_done (fun _ _ => rfl) bind_assoc_eq

/-- Ask one question and end in its answer. -/
def query (q : I.Query) : Proc I (I.Answer q) :=
  .ask q .done

/-! ## Running -/

/-- Something that answers every question of an interface and remembers a state. -/
structure Handler (I : Interface) (σ : Type) where
  answer : (query : I.Query) → σ → I.Answer query × σ

/-- One question and its answer. -/
structure Event (I : Interface) where
  query : I.Query
  answer : I.Answer query

/-- What a program did: its value, unless it ran out of fuel, the events in
order, and the state that its handler was left in. -/
structure Run (I : Interface) (σ α : Type) where
  value? : Option α
  events : List (Event I)
  state : σ

/-- Run a program against a handler. -/
def run (handler : Handler I σ) : Proc I α → σ → Run I σ α
  | .done value, state => ⟨some value, [], state⟩
  | .exhausted, state => ⟨none, [], state⟩
  | .ask query next, state =>
      let answered := handler.answer query state
      let rest := (next answered.1).run handler answered.2
      ⟨rest.value?, ⟨query, answered.1⟩ :: rest.events, rest.state⟩

@[simp] theorem run_done (handler : Handler I σ) (value : α) (state : σ) :
    (Proc.done value : Proc I α).run handler state = ⟨some value, [], state⟩ := rfl

@[simp] theorem run_exhausted (handler : Handler I σ) (state : σ) :
    (Proc.exhausted : Proc I α).run handler state = ⟨none, [], state⟩ := rfl

@[simp] theorem run_ask (handler : Handler I σ) (q : I.Query)
    (next : I.Answer q → Proc I α) (state : σ) :
    (Proc.ask q next).run handler state
      = ⟨((next (handler.answer q state).1).run handler (handler.answer q state).2).value?,
          ⟨q, (handler.answer q state).1⟩
            :: ((next (handler.answer q state).1).run handler (handler.answer q state).2).events,
          ((next (handler.answer q state).1).run handler (handler.answer q state).2).state⟩ :=
  rfl

/-- What a composed program did, put together from what its parts did. -/
def Run.andThen (first : Run I σ α) (second : α → Run I σ β) : Run I σ β :=
  match first.value? with
  | none => ⟨none, first.events, first.state⟩
  | some value =>
      ⟨(second value).value?, first.events ++ (second value).events, (second value).state⟩

/-- A composed program runs its parts one after the other. -/
theorem run_bind (handler : Handler I σ) (p : Proc I α) (f : α → Proc I β) (state : σ) :
    (p >>= f).run handler state
      = (p.run handler state).andThen
          fun value => (f value).run handler (p.run handler state).state := by
  induction p generalizing state with
  | done value => simp [Run.andThen]
  | exhausted => simp [Run.andThen]
  | ask q next ih =>
      simp only [ask_bind, run_ask, ih]
      cases hValue : ((next (handler.answer q state).1).run handler
          (handler.answer q state).2).value? <;>
        simp [Run.andThen, hValue]

/-! ## Interpretation -/

/-- Answer the questions of one interface by programs over another one. -/
def interpret (f : (q : I.Query) → Proc J (I.Answer q)) : Proc I α → Proc J α
  | .done value => .done value
  | .exhausted => .exhausted
  | .ask q next => f q >>= fun answer => (next answer).interpret f

theorem interpret_bind (f : (q : I.Query) → Proc J (I.Answer q)) (p : Proc I α)
    (g : α → Proc I β) :
    (p >>= g).interpret f = p.interpret f >>= fun value => (g value).interpret f := by
  induction p with
  | done value => rfl
  | exhausted => rfl
  | ask q next ih => simp [interpret, ih]

end Proc

end GridAdmin
