import GridAdmin.Command.Basic
import GridAdmin.Proc
import GridAdmin.Shell.Line

/-!
# The shell's surroundings and its state

The shell talks to a terminal, a clock and an open session, and this is the
interface `Shell.interface`. Everything else that it does is a function of its
settings and of three things that it remembers between commands: the status of
the last command, the name of the local zone once it is known, and the
diagnostics that no one has printed yet.

`Shell α` is a step that always ends in an `α`; `Action α` may end in a
`ShellError` instead. What an action changed before it failed stays changed.

## Main definitions

* `Shell.interface`, `Shell.Settings`, `Shell.State`: the surroundings.
* `Shell.call`: a call, whose diagnostics go on the error stack.
* `Shell.drain`: print the error stack and empty it.
-/

namespace GridAdmin

namespace Shell

/-! ## Interface -/

/-- What the shell asks of its surroundings. -/
inductive Query where
  | print (line : Line)
  /-- One line of input after a prompt. -/
  | readLine (prompt : String)
  /-- One line of input that is not shown, after a prompt. -/
  | readSecret (prompt : String)
  /-- The current time, in seconds since 1970-01-01. -/
  | clock
  | call (c : Call)
  deriving DecidableEq

/-- The answers. A terminal that cannot be read answers with the reason, and a
line of input may be missing at the end of input. -/
abbrev Query.Answer : Query → Type
  | .print _ => Unit
  | .readLine _ => Except String (Option String)
  | .readSecret _ => Except String String
  | .clock => Int
  | .call c => Exchange c

/-- The surroundings of the shell. -/
def interface : Interface := ⟨Query, Query.Answer⟩

/-! ## Settings and state -/

/-- What is fixed for a whole session. -/
structure Settings where
  /-- Low-level verbs may run. -/
  force : Bool := false
  /-- Removals of resources are only tried. -/
  dryRun : Bool := false
  /-- Commands and queries are shown before they run. -/
  veryVerbose : Bool := false
  /-- The zone of the client environment. -/
  zone : String
  /-- The password of the session's user, if it is known. -/
  password : Option String := none
  deriving DecidableEq, Repr

/-- Settings, the session's user, and the fuel for following the pages of a
listing. -/
structure Context where
  settings : Settings
  user : UserIdentity
  fuel : Nat

/-- What is remembered between commands. -/
structure State where
  /-- The status left behind by the last command. -/
  lastStatus : Status
  /-- The name of the local zone, once it was looked up. -/
  localZone : Option String
  /-- Diagnostics not yet printed. -/
  stack : ErrorStack
  deriving DecidableEq, Repr

/-- The state of a new session. -/
def State.initial : State :=
  { lastStatus := .success, localZone := none, stack := [] }

end Shell

/-- A step of the shell. -/
abbrev Shell (α : Type) : Type :=
  ReaderT Shell.Context (StateT Shell.State (Proc Shell.interface)) α

/-- A step of the shell that may end in an error. -/
abbrev Action (α : Type) : Type :=
  ExceptT ShellError (ReaderT Shell.Context (StateT Shell.State (Proc Shell.interface))) α

namespace Shell

/-! ## Single steps -/

/-- Ask one question. -/
def ask (query : Query) : Shell query.Answer :=
  liftM (Proc.query (I := interface) query)

/-- The program that a step is, from a state on. It ends in the value and in the
state that the step leaves behind. -/
def toProc {α : Type} (step : Shell α) (context : Context) (state : State) :
    Proc interface (α × State) :=
  StateT.run (ReaderT.run step context) state

/-- Stop without an answer, because a loop ran out of fuel. -/
def outOfFuel {α : Type} : Shell α :=
  fun _ _ => .exhausted

/-- Print one line. -/
def print (line : Line) : Shell Unit :=
  ask (.print line)

/-- Print lines of plain output. -/
def printAll : List String → Shell Unit
  | [] => pure ()
  | text :: rest => do
      print (.out text)
      printAll rest

/-- Record the status of the current command. -/
def record (status : Status) : Shell Unit :=
  modify fun state => { state with lastStatus := status }

/-- Make one call. Its diagnostics go on the error stack, however it ends. -/
def call (call : Call) : Shell (Except ClientError call.Reply) := do
  let exchange ← ask (.call call)
  modify fun state => { state with stack := state.stack ++ exchange.pushed }
  return exchange.result

/-- Print diagnostics whose positions start at `level`. -/
def printDiagnostics (level : Nat) : ErrorStack → Shell Unit
  | [] => pure ()
  | diagnostic :: rest => do
      print (.diagnostic level diagnostic)
      printDiagnostics (level + 1) rest

/-- Print the error stack and empty it. -/
def drain : Shell Unit := do
  printDiagnostics 0 (← get).stack
  modify fun state => { state with stack := [] }

end Shell

namespace Action

/-- Make one call; a call without a reply ends the command. -/
def call (call : Call) : Action call.Reply := do
  match ← Shell.call call with
  | .ok reply => return reply
  | .error e => throw (.client e)

/-- One line of input; `none` at the end of input. -/
def readLine (prompt : String) : Action (Option String) := do
  match ← (Shell.ask (.readLine prompt) : Shell _) with
  | .ok line => return line
  | .error cause => throw (.console cause)

/-- One line of input that is not shown. -/
def readSecret (prompt : String) : Action String := do
  match ← (Shell.ask (.readSecret prompt) : Shell _) with
  | .ok line => return line
  | .error cause => throw (.console cause)

/-- Ask for agreement. Only `y` and `yes` agree. -/
def confirm (prompt : String) : Action Bool := do
  let answer ← readLine prompt
  return decide (answer = some "y" ∨ answer = some "yes")

/-- End the command because of its words. -/
def refuse {α : Type} (fault : ArgumentFault) : Action α :=
  throw (.invalidArgument fault)

end Action

end GridAdmin
