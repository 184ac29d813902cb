import GridAdmin.Replica.Selector
import GridAdmin.Shell.Basic
import GridAdmin.Verb

/-!
# Verbs on one replica

Both verbs name a replica by four words and check all their words before
anything is sent. The listing asks one general query, sent on to the zone of
the session's user. The change sends one request with one attribute and the
key that asks for administrator rights.

## Main definitions

* `ReplicaUpdate.ofCommand`: the change that the words of a command ask for.
* `Action.listReplica`, `Action.modifyReplica`: the two verbs.
-/

namespace GridAdmin

/-- Refuse a command with fewer leading words than it needs. -/
def Command.requireWords (command : Command) (count : Nat) : Except ShellError Unit :=
  if command.words.length < count then .error (.invalidArgument .tooFewWords) else .ok ()

/-- The data object and the replica that the words behind the verb name. -/
def Command.selection (command : Command) (count : Nat) :
    Except ShellError (DataObject × Replica) := do
  command.requireWords count
  let object ← DataObject.resolve (command.arg 1) (command.arg 2)
  let replica ← Replica.resolve (command.arg 3) (command.arg 4)
  return (object, replica)

/-- The change that the words of a command ask for. -/
def ReplicaUpdate.ofCommand (command : Command) : Except ShellError ReplicaUpdate := do
  let (object, replica) ← command.selection 7
  match Attribute.modifiable? (command.arg 5) with
  | none => .error (.invalidAttribute (command.arg 5))
  | some key =>
      let attributes := .ofList [(key, command.arg 6), (Attribute.adminKey, "")]
      return { object, replica, attributes }

namespace Action

/-- `ls`: the attributes of a replica. -/
def listReplica (command : Command) : Action Unit := do
  let (object, replica) ← ExceptT.mk (pure (command.selection 5))
  let query := Replica.query object replica
  let context ← read
  if context.settings.veryVerbose then Shell.print (.queryText query)
  let reply ← call (.generalQuery query (some context.user.zone))
  if reply.status = .noRowsFound ∨ (reply.status.isSuccess ∧ reply.rows = []) then
    throw .notFound
  if reply.status.isFailure then
    Shell.drain
    throw (.remoteFailure .replica reply.status)
  Shell.printAll (Replica.rowLines reply.rows)

/-- `modrepl`: change one attribute of a replica. -/
def modifyReplica (command : Command) : Action Unit := do
  let update ← ExceptT.mk (pure (ReplicaUpdate.ofCommand command))
  let status ← call (.modifyReplica update)
  if status ≠ .success then
    Shell.print (.updateFailed status)
    Shell.drain
  Shell.record status

/-- What a verb on one replica does. -/
def replica (verb : ReplicaVerb) (command : Command) : Action Unit :=
  match verb with
  | .list => listReplica command
  | .modify => modifyReplica command

end Action

end GridAdmin
