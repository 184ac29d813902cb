import GridAdmin.Status

/-!
# Diagnostics left by the server

A reply may carry messages besides its status. They pile up on the session's
error stack, in the order of their arrival, until the shell prints them and
empties the stack. A printed message is numbered by its position on the stack.

## Main results

* `Diagnostic.line_of_success`, `Diagnostic.line_of_ne_success`: what a line says.
* `diagnosticLines_eq_mapIdx`: the lines of a stack are numbered by position.
-/

namespace GridAdmin

/-- One message of the server, with the status it is attached to. -/
structure Diagnostic where
  status : Status
  message : String
  deriving DecidableEq, Repr

/-- Messages not yet printed, oldest first. -/
abbrev ErrorStack := List Diagnostic

/-- The printed form of the message at position `level`. The status is left
out when it is exactly `Status.success`. -/
def Diagnostic.line (level : Nat) (d : Diagnostic) : String :=
  let head := "Level " ++ String.ofList (Text.natText level) ++ ": " ++ d.message
  if d.status = Status.success then head else head ++ " [" ++ d.status.text ++ "]"

/-- The printed form of messages whose positions start at `level`. -/
def diagnosticLines (level : Nat) : ErrorStack → List String
  | [] => []
  | d :: rest => d.line level :: diagnosticLines (level + 1) rest

section Lines

variable {level : Nat} {d : Diagnostic}

theorem Diagnostic.line_of_success (hStatus : d.status = .success) :
    d.line level = "Level " ++ toString level ++ ": " ++ d.message := by
  unfold line
  rw [if_pos hStatus]
  rfl

theorem Diagnostic.line_of_ne_success (hStatus : d.status ≠ .success) :
    d.line level
      = "Level " ++ toString level ++ ": " ++ d.message ++ " [" ++ d.status.text ++ "]" := by
  unfold line
  rw [if_neg hStatus]
  rfl

/-- The third message on a stack. -/
example : (Diagnostic.mk .connectError "catalog connection lost").line 2
    = "Level 2: catalog connection lost [-305000 USER_SOCK_CONNECT_ERR]" := by
  decide +kernel

/-- Each message has its own position on the stack in front of it. -/
theorem diagnosticLines_eq_mapIdx (level : Nat) (stack : ErrorStack) :
    diagnosticLines level stack = stack.mapIdx fun index d => d.line (level + index) := by
  induction stack generalizing level with
  | nil => rfl
  | cons d rest ih =>
      rw [diagnosticLines, ih, List.mapIdx_cons]
      simp only [Nat.add_zero, Nat.add_assoc, Nat.add_comm 1]

end Lines

end GridAdmin
