import GridAdmin.Proofs.Shell.Ensures

/-!
# Lines of input

A terminal answers prompts from a list of lines, and behind the last of them input has
ended.  Here is what a program does to such a list: it takes lines off the front, in order,
and no line that it leaves there makes a difference to it.

## Main definitions

* `withLines`: surroundings whose terminal answers from a list of lines.
* `Consumes`: the lines that were read, and those that wait, are those that waited before.

## Main results

* `consumes_run`: a program reads the lines in order.
* `run_of_linesRead`: it does the same when other lines wait behind those that it reads.
-/

namespace GridAdmin

namespace Shell

/-- What a terminal answers to a prompt for a line. -/
abbrev LineAnswer := Except String (Option String)

section Lines

variable {σ α : Type} {lines left more : List LineAnswer} {events rest : List Event}

/-- Lines are answered from a list, and behind it input has ended.  Everything else is
answered by `others`. -/
def withLines (others : Proc.Handler interface σ) :
    Proc.Handler interface (List LineAnswer × σ) where
  answer query s :=
    match query with
    | .readLine _ => (s.1.head?.getD (.ok none), s.1.tail, s.2)
    | .print line =>
        let answered := others.answer (.print line) s.2
        (answered.1, s.1, answered.2)
    | .readSecret prompt =>
        let answered := others.answer (.readSecret prompt) s.2
        (answered.1, s.1, answered.2)
    | .clock =>
        let answered := others.answer .clock s.2
        (answered.1, s.1, answered.2)
    | .call c =>
        let answered := others.answer (.call c) s.2
        (answered.1, s.1, answered.2)

/-- The answer to a prompt for a line. -/
def lineRead? : Event → Option LineAnswer
  | ⟨.readLine _, answer⟩ => some answer
  | _ => none

/-- All answers to prompts for lines. -/
def linesRead (events : List Event) : List LineAnswer :=
  events.filterMap lineRead?

/-- What was read, and then what waits, is what waited before, and then ends of input. -/
def Consumes (lines : List LineAnswer) (events : List Event) (left : List LineAnswer) : Prop :=
  ∃ ends, linesRead events ++ left = lines ++ List.replicate ends (.ok none) ∧
    (ends = 0 ∨ left = [])

theorem linesRead_append : linesRead (events ++ rest) = linesRead events ++ linesRead rest :=
  List.filterMap_append

theorem consumes_nil : Consumes lines [] lines :=
  ⟨0, by simp [linesRead], Or.inl rfl⟩

theorem Consumes.append (hFirst : Consumes lines events left) (hRest : Consumes left rest more) :
    Consumes lines (events ++ rest) more := by
  obtain ⟨first, hFirstRead, hFirstEnds⟩ := hFirst
  obtain ⟨second, hSecondRead, hSecondEnds⟩ := hRest
  refine ⟨first + second, ?_, ?_⟩
  · calc linesRead (events ++ rest) ++ more
        = linesRead events ++ (linesRead rest ++ more) := by
          rw [linesRead_append, List.append_assoc]
      _ = linesRead events ++ left ++ List.replicate second (.ok none) := by
          rw [hSecondRead, List.append_assoc]
      _ = lines ++ List.replicate (first + second) (.ok none) := by
          rw [hFirstRead, List.append_assoc, List.replicate_append_replicate]
  · rcases hSecondEnds with rfl | hNone
    · rcases hFirstEnds with rfl | rfl
      · exact Or.inl rfl
      · exact Or.inr (List.append_eq_nil_iff.mp hSecondRead).2
    · exact Or.inr hNone

theorem Consumes.length_le (hConsumes : Consumes lines events left) :
    left.length ≤ lines.length := by
  obtain ⟨ends, hRead, rfl | rfl⟩ := hConsumes
  · have hLength := congrArg List.length hRead
    simp only [List.length_append, List.length_replicate] at hLength
    omega
  · exact Nat.zero_le _

/-- An answer takes a line off the list if it is one, and nothing else. -/
theorem consumes_answer (others : Proc.Handler interface σ) (query : Query)
    (s : List LineAnswer × σ) :
    Consumes s.1 [⟨query, ((withLines others).answer query s).1⟩]
      ((withLines others).answer query s).2.1 := by
  cases query with
  | readLine prompt =>
      obtain ⟨_ | ⟨line, rest⟩, surroundings⟩ := s
      · exact ⟨1, rfl, Or.inr rfl⟩
      · exact ⟨0, (List.append_nil _).symm, Or.inl rfl⟩
  | _ => exact ⟨0, (List.append_nil _).symm, Or.inl rfl⟩

/-- The lines behind the one that is read do not matter. -/
private theorem answer_of_linesRead (others : Proc.Handler interface σ) (query : Query)
    (s : List LineAnswer × σ) (more : List LineAnswer) :
    (withLines others).answer query
        (linesRead [⟨query, ((withLines others).answer query s).1⟩] ++ more, s.2)
      = (((withLines others).answer query s).1, more,
          ((withLines others).answer query s).2.2) := by
  cases query <;> rfl

/-- A program reads the lines in order, and ends of input behind them. -/
theorem consumes_run (others : Proc.Handler interface σ) (p : Proc interface α)
    (s : List LineAnswer × σ) :
    Consumes s.1 (p.run (withLines others) s).events (p.run (withLines others) s).state.1 := by
  induction p generalizing s with
  | done value => exact consumes_nil
  | exhausted => exact consumes_nil
  | ask query next ih =>
      rw [Proc.run_ask]
      exact (consumes_answer others query s).append (ih _ _)

/-- A program does the same when the lines that it leaves unread are other ones. -/
theorem run_of_linesRead (others : Proc.Handler interface σ) (p : Proc interface α)
    (s : List LineAnswer × σ) (more : List LineAnswer) :
    p.run (withLines others) (linesRead (p.run (withLines others) s).events ++ more, s.2)
      = ⟨(p.run (withLines others) s).value?, (p.run (withLines others) s).events,
          (more, (p.run (withLines others) s).state.2)⟩ := by
  induction p generalizing s with
  | done value => rfl
  | exhausted => rfl
  | ask query next ih =>
      have hLines : ∀ (event : Event) (events : List Event),
          linesRead (event :: events) ++ more
            = linesRead [event] ++ (linesRead events ++ more) := by
        intro event events
        rw [← List.append_assoc, ← linesRead_append, List.singleton_append]
      simp only [Proc.run_ask]
      rw [hLines]
      rw [answer_of_linesRead others query s (linesRead _ ++ more)]
      simp only [ih]

end Lines

end Shell

end GridAdmin
