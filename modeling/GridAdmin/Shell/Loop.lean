import GridAdmin.Command.TypedLine
import GridAdmin.Shell.Dispatch

/-!
# The command loop

The first command comes from outside. Further commands are read from the
terminal until one of them quits; the end of input quits, and so does a
terminal that cannot be read. A session that is not interactive ends after its
first command, unless that one was empty.

Every round but the last reads a line, and nothing bounds the number of lines
from outside, so the loop takes fuel.

## Main definitions

* `Shell.loop`: handle commands until one of them ends the session.
* `Shell.runCommands`: the loop, and the status that it leaves behind.
-/

namespace GridAdmin.Shell

/-- The prompt for commands. -/
def commandPrompt : String := "strata-admin>"

/-- The command that an answer of the terminal stands for. -/
def commandOfAnswer : Except String (Option String) → Command
  | .ok (some line) => .ofLine line Command.width
  | .ok none | .error _ => .quit

/-- Read the next command. -/
def nextCommand : Shell Command := do
  return commandOfAnswer (← ask (.readLine commandPrompt))

/-- Whether a session that is not interactive ends after this outcome. -/
def endsBatch : Outcome → Bool
  | .handled | .invalid => true
  | .quit | .empty => false

/-- Handle `command` and the commands after it. With `single`, the session ends
after this command unless it was empty. -/
def loop : Nat → (single : Bool) → Command → Shell Unit
  | 0, _, _ => outOfFuel
  | fuel + 1, single, command => do
      let outcome ← dispatch command
      if outcome = .quit then return ()
      if single ∧ endsBatch outcome then return ()
      loop fuel false (← nextCommand)

/-- Handle a first command and the commands after it. The status of the session
is the one that the last command left behind. -/
def runCommands (fuel : Nat) (first : Command) (interactive : Bool) : Shell Status := do
  loop fuel (!interactive) first
  return (← get).lastStatus

end GridAdmin.Shell
