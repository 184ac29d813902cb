import GridAdmin.Shell.Change
import GridAdmin.Shell.Listing
import GridAdmin.Shell.Offline
import GridAdmin.Shell.Replica

/-!
# Dispatching commands

A command is handled by the handler of its verb. The handler starts with the
status of a success; an error that ends it is reported and its status is
recorded. A command without a verb and the verbs that quit do nothing at all.

## Main definitions

* `Outcome`: what became of a command.
* `Shell.dispatch`: handle one command.
-/

namespace GridAdmin

/-- What became of a command. -/
inductive Outcome where
  /-- The command was at least partly carried out. -/
  | handled
  /-- The session is to end. -/
  | quit
  /-- The command was refused before anything was asked of the service. -/
  | invalid
  /-- There was no command. -/
  | empty
  deriving DecidableEq, Repr

/-- Printed for the verbs of resource groups. -/
def deprecationNote : String :=
  "Resource groups are deprecated.\n"
    ++ "Please investigate the available coordinating resource plugins.\n"
    ++ "(e.g. random, replication, etc.)"

namespace Action

/-- Send the request that a template makes of a command. -/
def sendTemplate (template : Template) (command : Command) : Action Unit := do
  let request := template.render command (← read).settings.zone
  let _ ← Shell.invoke request { fallback := template.fallback }

/-- What a handler does. -/
def handle (handler : Handler) (command : Command) : Action Unit :=
  match handler with
  | .help => Shell.help (command.arg 1)
  | .quit => return ()
  | .listing listing => list listing command
  | .proxied template => sendTemplate template command
  | .offline verb => offline verb command
  | .replica verb => replica verb command
  | .change kind => change kind command
  | .deprecated => Shell.print (.note deprecationNote)

end Action

namespace Shell

/-- Report the error that ended a command, and record its status. -/
def fail (error : ShellError) : Shell Outcome := do
  if error = .notFound then
    print (.out error.message)
    record .success
    return .handled
  else
    record error.status
    print (.commandFailed error)
    return if error.isLocal then .invalid else .handled

/-- Run a handler from the status of a success. -/
def runHandler (handler : Handler) (command : Command) : Shell Outcome := do
  record .success
  match ← (Action.handle handler command).run with
  | .ok () => return .handled
  | .error error => fail error

/-- Handle one command. -/
def dispatch (command : Command) : Shell Outcome := do
  if command.verb = "" then return .empty
  if (← read).settings.veryVerbose then print (.echo command.words)
  match Verb.handler? command.verb with
  | none =>
      print (.note "unrecognized command, try 'help'")
      record .invalidInput
      return .invalid
  | some .quit => return .quit
  | some handler => runHandler handler command

end Shell

end GridAdmin
