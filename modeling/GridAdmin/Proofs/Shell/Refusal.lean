import GridAdmin.Proofs.Shell.Dispatched
import GridAdmin.Rehearsal

/-!
# Refused commands

A command can be refused: its verb is unknown, its words are wrong, or the
terminal failed while it was read.  Whether an error counts as a refusal is
decided by its kind alone, so a handler could in principle raise such an error
after it had already changed something.  That this never happens is what the two
phases of a handler are for.

A command without a verb and the verbs that quit leave no trace either.

## Main results

* `DispatchTrace.invalid`: what a refused command leaves behind.
* `Verb.handler?_eq_quit_iff`: the verbs that quit.
* `dispatch_without_effect`: all three together, for every trace of a dispatch.
-/

namespace GridAdmin

/-- Only two verbs quit. -/
theorem Verb.handler?_eq_quit_iff {verb : String} :
    Verb.handler? verb = some .quit ↔ verb = "quit" ∨ verb = "q" := by
  constructor
  · intro hQuit
    have hTable : ∀ entry ∈ Verb.table, entry.2 = .quit → entry.1 = "quit" ∨ entry.1 = "q" := by
      decide +kernel
    exact hTable _ (Verb.mem_table_of_handler? hQuit) rfl
  · rintro (rfl | rfl)
    · decide +kernel
    · decide +kernel

namespace Shell

variable {context : Context} {state after : State} {command : Command} {events : List Event}
  {outcome : Outcome}

/-- A refused command made no call, and all that it changed is the recorded
status, which tells bad input from a terminal that failed. -/
structure Refused (state : State) (events : List Event) (after : State) : Prop where
  noCall : NoCall events
  stack : after.stack = state.stack
  localZone : after.localZone = state.localZone
  status : after.lastStatus = .invalidInput
    ∨ after.lastStatus = .unknownError ∧ ∃ cause, FailsToRead events cause

private theorem FailsToRead.surround {cause : String} (hRead : FailsToRead events cause)
    (first last : List Event) : FailsToRead (first ++ events ++ last) cause := by
  obtain ⟨prompt, hLine | hSecret⟩ := hRead
  · exact ⟨prompt, Or.inl (List.mem_append_left _ (List.mem_append_right _ hLine))⟩
  · exact ⟨prompt, Or.inr (List.mem_append_left _ (List.mem_append_right _ hSecret))⟩

/-- The status recorded for a local error. -/
private theorem status_of_isLocal {e : ShellError} (hLocal : e.isLocal = true) :
    e.status = .invalidInput ∨ e.status = .unknownError ∧ ∃ cause, e = .console cause := by
  cases e with
  | invalidArgument fault => exact Or.inl rfl
  | invalidAttribute name => exact Or.inl rfl
  | console cause => exact Or.inr ⟨rfl, cause, rfl⟩
  | _ => cases hLocal

theorem failureOutcome_eq_invalid_iff {e : ShellError} :
    failureOutcome e = .invalid ↔ e.isLocal = true := by
  unfold failureOutcome
  cases e.isLocal <;> simp

theorem failureOutcome_eq_handled_iff {e : ShellError} :
    failureOutcome e = .handled ↔ e.isLocal = false := by
  unfold failureOutcome
  cases e.isLocal <;> simp

@[simp] theorem failureOutcome_ne_empty (e : ShellError) : failureOutcome e ≠ .empty := by
  unfold failureOutcome
  cases e.isLocal <;> simp

@[simp] theorem failureOutcome_ne_quit (e : ShellError) : failureOutcome e ≠ .quit := by
  unfold failureOutcome
  cases e.isLocal <;> simp

/-- A refusal is the unknown verb, or an error of the first phase. -/
theorem DispatchTrace.invalid
    (hTrace : DispatchTrace context state command events (some (.invalid, after))) :
    Refused state events after := by
  generalize hEnd : some (Outcome.invalid, after) = ended? at hTrace
  cases hTrace with
  | unknown hVerb hHandler =>
      cases hEnd
      exact ⟨asks_append_iff.mpr ⟨noCall_echoed, noCall_shown⟩, rfl, rfl, Or.inl rfl⟩
  | failed hVerb hHandler hQuit hBody =>
      obtain ⟨hOutcome, rfl⟩ := Prod.mk.inj (Option.some.inj hEnd)
      have hLocal := failureOutcome_eq_invalid_iff.mp hOutcome.symm
      obtain ⟨hNoCall, rfl, hRead⟩ :=
        (Action.phased_handle _ _ _ hBody).not_called_of_local hLocal
      refine ⟨?_, rfl, rfl, (status_of_isLocal hLocal).imp_right ?_⟩
      · simp only [NoCall, asks_append_iff] at hNoCall ⊢
        exact ⟨⟨noCall_echoed, hNoCall⟩, noCall_shown⟩
      · rintro ⟨hStatus, cause, hCause⟩
        exact ⟨hStatus, cause, (hRead cause hCause).surround _ _⟩
  | empty => cases hEnd
  | quit => cases hEnd
  | finished => cases hEnd
  | exhausted => cases hEnd

/-! ## Commands that do nothing -/

/-- Exactly a command without a verb ends as empty. -/
theorem DispatchTrace.empty_iff {ended? : Option (Outcome × State)}
    (hTrace : DispatchTrace context state command events ended?) :
    (∃ after, ended? = some (.empty, after)) ↔ command.verb = "" := by
  cases hTrace with
  | empty hVerb => simp [hVerb]
  | unknown hVerb hHandler => simp [hVerb]
  | quit hVerb hHandler => simp [hVerb]
  | finished hVerb hHandler hQuit hBody => simp [hVerb]
  | failed hVerb hHandler hQuit hBody => simp [hVerb]
  | exhausted hVerb hHandler hQuit hBody => simp [hVerb]

/-- Exactly the verbs of the handler that quits end as quitting. -/
theorem DispatchTrace.quit_iff {ended? : Option (Outcome × State)}
    (hTrace : DispatchTrace context state command events ended?) :
    (∃ after, ended? = some (.quit, after)) ↔ Verb.handler? command.verb = some .quit := by
  cases hTrace with
  | empty hVerb => simp [hVerb, Verb.handler?_empty]
  | unknown hVerb hHandler => simp [hHandler]
  | quit hVerb hHandler => simp [hHandler]
  | finished hVerb hHandler hQuit hBody => simp [hHandler, hQuit]
  | failed hVerb hHandler hQuit hBody => simp [hHandler, hQuit]
  | exhausted hVerb hHandler hQuit hBody => simp [hHandler, hQuit]

/-- A command that ends as empty or as quitting changes nothing. -/
theorem DispatchTrace.unchanged
    (hTrace : DispatchTrace context state command events (some (outcome, after)))
    (hOutcome : outcome = .empty ∨ outcome = .quit) : NoCall events ∧ after = state := by
  generalize hEnd : some (outcome, after) = ended? at hTrace
  cases hTrace with
  | empty hVerb =>
      cases hEnd
      exact ⟨asks_nil, rfl⟩
  | quit hVerb hHandler =>
      cases hEnd
      exact ⟨noCall_echoed, rfl⟩
  | failed hVerb hHandler hQuit hBody =>
      obtain ⟨rfl, -⟩ := Prod.mk.inj (Option.some.inj hEnd)
      simp at hOutcome
  | unknown hVerb hHandler =>
      cases hEnd
      simp at hOutcome
  | finished hVerb hHandler hQuit hBody =>
      cases hEnd
      simp at hOutcome
  | exhausted hVerb hHandler hQuit hBody => cases hEnd

/-! ## All three -/

/-- Whatever the state, the command and the surroundings: a refused command leaves
only its status behind; commands without a verb, and no others, end as empty, and
the two verbs that quit, and no others, end as quitting; and these leave nothing
behind at all. -/
theorem dispatch_without_effect {ended? : Option (Outcome × State)}
    (hTrace : Proc.Trace (toProc (dispatch command) context state) events ended?) :
    (∀ after, ended? = some (.invalid, after) → Refused state events after)
      ∧ ((∃ after, ended? = some (.empty, after)) ↔ command.verb = "")
      ∧ ((∃ after, ended? = some (.quit, after)) ↔ command.verb = "quit" ∨ command.verb = "q")
      ∧ ∀ outcome after, ended? = some (outcome, after) → outcome = .empty ∨ outcome = .quit →
          NoCall events ∧ after = state := by
  have hDispatch := dispatchTrace_of_trace hTrace
  refine ⟨?_, hDispatch.empty_iff, hDispatch.quit_iff.trans Verb.handler?_eq_quit_iff, ?_⟩
  · rintro after rfl
    exact hDispatch.invalid
  · rintro outcome after rfl hOutcome
    exact hDispatch.unchanged hOutcome

/-- A change of password for which the current password cannot be read. -/
theorem refused_of_unread_secret :
    Refused State.initial
      [⟨Query.readSecret "Enter your current password:", .error "no secret scripted"⟩,
        ⟨Query.print (.commandFailed (.console "no secret scripted")), ()⟩]
      { State.initial with lastStatus := .unknownError } := by
  have hTrace := Proc.trace_run Rehearsal.handler
    (toProc (dispatch (.ofWords ["moduser", "alice", "password", "secret"]))
      { settings := { zone := "tempZone" }, user := ⟨"rods", "tempZone"⟩, fuel := 1 }
      State.initial)
    { terminal := {}, service := {} }
  exact (dispatch_without_effect hTrace).1 _ rfl

end Shell

end GridAdmin
