import GridAdmin.CommandLine.Basic
import GridAdmin.CommandLine.Usage
import GridAdmin.Shell.Loop

/-!
# A run of the program

The program reads its command line, carries out a verb that needs no session
at once, and otherwise opens a session, handles commands and closes the
session again. What a session left on the error stack is printed at its end.

The program exits with 2 when the command line is refused or no session comes
about, with 3 when the login is turned down, and otherwise with what the last
command's status says. Whether the session could be closed makes no difference.

## Main definitions

* `offline?`: the run of a verb that needs no session.
* `openSession`: a session and the password that it was opened with.
* `run`: the whole run, and what it exits with.
-/

namespace GridAdmin.CommandLine

/-! ## Verbs without a session -/

/-- Where there is no session, no call is made. -/
def performNothing (call : Call) : Program (Exchange call) :=
  .done (Session.failed (.transport call.operation "there is no session"))

/-- The surroundings of a verb that needs no session. -/
def offlineContext : Shell.Context :=
  { settings := { zone := "" }, user := { name := "", zone := "" }, fuel := 0 }

/-- Run a step of the shell without a session. -/
def runOffline {α : Type} (step : Shell α) : Program α := do
  return (← runShell performNothing offlineContext step).1

/-- Print a usage text. -/
def runHelp (command : Command) : Program Nat := do
  runOffline (Shell.help (command.arg 1))
  return 0

/-- Carry out an offline verb. -/
def runVerb (verb : Offline) (command : Command) : Program Nat := do
  match ← runOffline (Action.offline verb command).run with
  | .ok () => return 0
  | .error error => do
      ask (.notify (.verbFailed error))
      return error.status.exitCode

/-- The run of a command that needs no session. -/
def offline? (command : Command) : Option (Program Nat) :=
  match Verb.handler? command.verb with
  | some .help => some (runHelp command)
  | some (.offline verb) => some (runVerb verb command)
  | _ => none

/-! ## Opening a session -/

/-- A part of the program that may keep a session from starting. -/
abbrev Start (α : Type) : Type := ExceptT StartFailure (Proc interface) α

/-- Ask one question while a session is opened. -/
def Start.ask (query : Query) : Start query.Answer :=
  liftM (CommandLine.ask query)

/-- Use the network while a session is opened. -/
def Start.overNetwork {α : Type} (proc : Proc Gateway.interface α) : Start α :=
  liftM (CommandLine.overNetwork proc)

/-- A path below a directory. -/
def pathBelow (directory path : String) : String :=
  if directory = "" ∨ directory.toList.getLast? = some '/' then directory ++ path
  else directory ++ "/" ++ path

/-- The environment file below the home directory. -/
def homeFileName : String := ".strata/environment.json"

/-- The environment file of a user who names none: the one below the home
directory, if it is there. -/
def homeFile? (home : Option String) : Program (Option String) := do
  match home with
  | none => return none
  | some directory => do
      let path := pathBelow directory homeFileName
      return if ← ask (.isFile path) then some path else none

/-- Read an environment file. -/
def readEnvironmentFile (path : String) : Start EnvironmentFile := do
  match ← Start.ask (.fileText path) with
  | .error cause => throw (.environment (.unreadable path cause))
  | .ok text =>
      match EnvironmentFile.read? text with
      | some file => return file
      | none => throw (.environment (.unparsable path))

/-- The settings of the environment file; none without a file. -/
def environmentFile (options : Options) (home : Option String) : Start EnvironmentFile := do
  let path? ←
    match options.environmentFile with
    | some path => pure (some path)
    | none => liftM (homeFile? home)
  match path? with
  | some path => readEnvironmentFile path
  | none => return {}

/-- Where to connect and as whom. -/
def target (options : Options) (home : Option String) : Start Target := do
  let file ← environmentFile options home
  match options.overrides.resolve file with
  | .ok target => return target
  | .error error => throw (.environment error)

/-- The prompt for a password that no setting tells. -/
def passwordPrompt : String := "Enter your current password:"

/-- The password of the user. -/
def password (options : Options) : Start String := do
  match options.password with
  | some password => return password
  | none =>
      match ← Start.ask (.readSecret passwordPrompt) with
      | .ok password => return password
      | .error cause => throw (.password cause)

/-- Why the login did not open a session. -/
def loginFailure : ClientError → StartFailure
  | .authentication user => .rejected user
  | error => .client error

/-- Open a session. The password is asked for only after the server has
answered. -/
def openSession (options : Options) (home : Option String) : Start (Session × String) := do
  let connector ← Start.overNetwork (Connector.make (← target options home))
  match ← Start.overNetwork connector.probe with
  | .error error => throw (.client error)
  | .ok _ => do
      let password ← password options
      match ← Start.overNetwork (connector.login password) with
      | .ok session => return (session, password)
      | .error error => throw (loginFailure error)

/-! ## Sessions -/

/-- Make a call of an open session. -/
def perform (session : Session) (call : Call) : Program (Exchange call) :=
  overNetwork (session.perform call)

/-- The context of the commands of a session. -/
def sessionContext (session : Session) (password : String) (switches : Switches) (fuel : Nat) :
    Shell.Context :=
  { settings :=
      { force := switches.force
        dryRun := switches.dryRun
        veryVerbose := switches.veryVerbose
        zone := session.user.zone
        password := some password }
    user := session.user
    fuel }

/-- Handle the commands of a session, print what is left on the error stack, and
close the session. A session without a first command is interactive. -/
def session (fuel : Nat) (command : Command) : Shell Status := do
  let status ← Shell.runCommands fuel command (decide (command.verb = ""))
  Shell.drain
  let _ ← Shell.call .disconnect
  return status

/-- Open a session and handle its commands. -/
def runSession (options : Options) (home : Option String) (switches : Switches)
    (command : Command) (fuel : Nat) : Program Nat := do
  match ← (openSession options home).run with
  | .error failure => do
      ask (.notify (.notStarted failure))
      return failure.exitCode
  | .ok (opened, password) => do
      let context := sessionContext opened password switches fuel
      let (status, _) ← runShell (perform opened) context (session fuel command)
      return status.exitCode

/-! ## The whole program -/

/-- Print lines of plain output. -/
def printAll : List String → Program Unit
  | [] => pure ()
  | text :: rest => do
      ask (.print (.out text))
      printAll rest

/-- Carry out what a command line gives. -/
def runGiven (environment : String → Option String) (given : Given) (fuel : Nat) :
    Program Nat :=
  let lifted := lift given.words
  let command := Command.ofWords lifted.1
  match offline? command with
  | some program => program
  | none =>
      runSession given.options (environment "HOME") (lifted.2.merge given.switches) command fuel

/-- The whole run. `environment` holds the variables of the process. -/
def run (environment : String → Option String) (arguments : List String) (fuel : Nat) :
    Program Nat := do
  match Invocation.read environment arguments with
  | .error fault => do
      ask (.notify (.usage fault))
      return 2
  | .ok .help => do
      printAll Usage.lines
      return 0
  | .ok (.run given) => runGiven environment given fuel

end GridAdmin.CommandLine
