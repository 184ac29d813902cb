import GridAdmin.Scramble.Password
import GridAdmin.Scramble.Wheel
import GridAdmin.Help
import GridAdmin.Shell.Admin
import GridAdmin.Shell.Catalog
import GridAdmin.Verb

/-!
# Guarded changes

Changes of users, quotas, resources and zones that are more than a
rearrangement of words. Some are refused without a switch or a missing word,
some ask for agreement first, and some send a value in another form than it
was typed: a new password is padded and scrambled, and the blanks of a
resource type are dropped.

The type `rodsadmin` is taken away from nobody who has it in the zone that the
command means. Whenever that cannot be found out, the change is not sent.

## Main definitions

* `Action.refuseAdminDowngrade`: the guard of a change of type.
* `Action.change`: what a guarded verb does.
-/

namespace GridAdmin.Action

/-- Send an administrative request and go on, whatever its outcome. -/
def sendValues (values : List String) : Action Unit := do
  let _ ← Shell.invoke (.ofValues values) {}

/-! ## Users -/

/-- The query for everybody of type `rodsadmin`. -/
def rodsadminQuery : String :=
  "select USER_NAME, USER_ZONE where USER_TYPE = 'rodsadmin'"

/-- A row whose first two columns are this name and this zone. -/
def isRowOf (name zone : String) : List String → Bool
  | first :: second :: _ => decide (first = name ∧ second = zone)
  | _ => false

/-- End the command if the user it names is a `rodsadmin`, or if that cannot be
found out. -/
def refuseAdminDowngrade (target : String) : Action Unit := do
  let (name, zone) ← resolveUser target
  let reply ← call (.generalQuery rodsadminQuery none)
  if reply.status = .noRowsFound then return ()
  if reply.status.isFailure then throw (.remoteFailure .rodsadmin reply.status)
  if reply.rows.any (isRowOf name zone) then throw (.permissionDenied .adminDowngrade)

/-- The password that new passwords are scrambled under. -/
def scrambleKey : Action String := do
  match (← read).settings.password with
  | some password => return password
  | none => readSecret "Enter your current password:"

/-- A new password as it is sent. -/
def scrambledPassword (password key : String) : String :=
  scramble (String.ofList (Password.pad password.toList)) key

/-- `moduser`: change one property of a user. -/
def modifyUser (command : Command) : Action Unit := do
  let target := command.arg 1
  let option := command.arg 2
  let value := command.arg 3
  let sent ←
    if option = "password" then scrambledPassword value <$> scrambleKey
    else if option = "type" ∧ value ≠ "rodsadmin" then do
      refuseAdminDowngrade target
      pure value
    else pure value
  sendValues
    ["modify", "user", target, option, sent, command.arg 4, command.arg 5, command.arg 6]

/-! ## Quotas -/

/-- Whose quota is set. -/
inductive QuotaTarget where
  | user
  | group
  deriving DecidableEq, Repr

/-- The word for a target in a request. -/
def QuotaTarget.kind : QuotaTarget → String
  | .user => "user"
  | .group => "group"

/-- What is said when the name of a target is missing. -/
def QuotaTarget.missingName : QuotaTarget → String
  | .user => "ERROR: missing username parameter"
  | .group => "ERROR: missing group name parameter"

/-- The words that a quota command lacks, each with its own line. -/
def missingQuotaWords (target : QuotaTarget) (command : Command) : List String :=
  ([ (command.arg 1, target.missingName),
     (command.arg 2, "ERROR: missing resource name parameter"),
     (command.arg 3, "ERROR: missing value parameter") ].filter fun word =>
        decide (word.1 = "")).map (·.2)

/-- `suq`, `sgq`: set a quota. -/
def setQuota (target : QuotaTarget) (command : Command) : Action Unit :=
  match missingQuotaWords target command with
  | [] => sendValues ["set-quota", target.kind, command.arg 1, command.arg 2, command.arg 3]
  | lines => refuse (.missingWords lines)

/-! ## Collections and resources -/

/-- `mkdir`: a low-level verb, which explains itself unless it is forced. -/
def makeDir (command : Command) : Action Unit := do
  if (← read).settings.force then
    sendValues ["add", "dir", command.arg 1, command.arg 2]
  else Shell.printAll (Help.usage "mkdir")

/-- Host and path of a resource: what stands before and behind the first colon. -/
def splitLocation (location : String) : String × String :=
  match Text.cutAt ':' location.toList with
  | some (host, path) => (String.ofList host, String.ofList path)
  | none => (location, "")

/-- The lines printed before a resource is made, with the words as typed. -/
def creationSummary (command : Command) : List String :=
  let (host, path) := splitLocation (command.arg 3)
  [ "Creating resource:",
    "Name:\t\t\"" ++ command.arg 1 ++ "\"",
    "Type:\t\t\"" ++ command.arg 2 ++ "\"",
    "Host:\t\t\"" ++ host ++ "\"",
    "Path:\t\t\"" ++ path ++ "\"",
    "Context:\t\"" ++ command.arg 4 ++ "\"" ]

/-- `mkresc`: make a resource. -/
def makeResource (command : Command) : Action Unit := do
  Shell.printAll (creationSummary command)
  sendValues
    [ "add", "resource", command.arg 1, Text.stripBlanks (command.arg 2), command.arg 3,
      command.arg 4, command.arg 5, command.arg 6, command.arg 7, command.arg 8 ]

/-- Printed before a resource is renamed. -/
def renameWarning : String :=
  "If you rename a resource, clients that name it in their environment files and\n"
    ++ "any server configuration or rules that refer to it must be updated by hand.\n"
    ++ "The catalog tables that record the resource name are updated by this command."

/-- Printed before data paths are changed. -/
def dataPathsWarning : String :=
  "This rewrites the physical path of every data object on the resource whose\n"
    ++ "path starts with the old path. Only do this after the files have really been\n"
    ++ "moved, or the catalog will no longer match the storage."

/-- Printed after the path of a resource was changed. -/
def pathHint : String :=
  "Modify resource path was successful.\n"
    ++ "If existing files have been physically moved, you may want to run\n"
    ++ "'strata-admin modrescdatapaths' with the old and new path.\n"
    ++ "See 'strata-admin help modrescdatapaths' for more information."

/-- Printed when there was no unused metadata. -/
def noUnusedMetadata : String :=
  "The return of CAT_SUCCESS_BUT_WITH_NO_INFO in this case means that the\n"
    ++ "SQL succeeded but there were no rows removed; there were no unused\n"
    ++ "AVUs to remove."

/-- Change one property of a resource, whose value is sent in this form. -/
def sendResourceChange (name option value : String) : Action Unit := do
  let status ← Shell.invoke (.ofValues ["modify", "resource", name, option, value]) {}
  if option = "path" ∧ status = .success then Shell.print (.out pathHint)

/-- `modresc`: change one property of a resource. A change of name is asked
about first. -/
def modifyResource (command : Command) : Action Unit := do
  let name := command.arg 1
  let option := command.arg 2
  let value := command.arg 3
  if option = "name" then
    Shell.print (.out renameWarning)
    if ← confirm "Do you really want to modify the resource name? (enter y or yes to do so):" then
      Shell.print (.out "OK, performing the resource rename")
      sendResourceChange name option value
    else Shell.print (.out "Resource rename aborted")
  else if option = "type" then sendResourceChange name option (Text.stripBlanks value)
  else sendResourceChange name option value

/-- `modrescdatapaths`: change the paths of the data on a resource, after
agreement. -/
def modifyResourceDataPaths (command : Command) : Action Unit := do
  Shell.print (.out dataPathsWarning)
  if ← confirm "Are you sure you want to run this command? [y/N]:" then
    Shell.print (.out "OK, performing the resource data paths update")
    sendValues
      [ "modify", "resourcedatapaths", command.arg 1, command.arg 2, command.arg 3,
        command.arg 4 ]

/-- `rmresc`: remove a resource, or only try to. -/
def removeResource (command : Command) : Action Unit := do
  let dryRun := (← read).settings.dryRun
  let request := AdminRequest.ofValues
    [ "rm", "resource", command.arg 1, command.arg 2, command.arg 3, command.arg 4,
      command.arg 5, command.arg 6 ]
  let _ ← Shell.invoke request { dryRun }

/-- `rum`: remove unused metadata. That there was none is a success. -/
def removeUnusedMetadata : Action Unit := do
  let status ← Shell.invoke (.ofValues ["rm", "unusedAVUs"]) {}
  if status = .successWithoutInfo then
    Shell.print (.out noUnusedMetadata)
    Shell.record .success

/-! ## Zones -/

/-- `modzone`: change one property of a zone. A change of the name of the
session's own zone is asked about first and sent as a request of its own. -/
def modifyZone (command : Command) : Action Unit := do
  let zone := command.arg 1
  let option := command.arg 2
  let value := command.arg 3
  if zone = (← read).settings.zone ∧ option = "name" then
    if ← confirm
        "Do you really want to modify the local zone name? (enter y or yes to do so):" then
      Shell.print (.out "OK, performing the local zone rename")
      sendValues ["modify", "localzonename", zone, value]
    else Shell.print (.out "Local zone rename aborted")
  else sendValues ["modify", "zone", zone, option, value]

/-! ## All changes -/

/-- What a guarded verb does. -/
def change (kind : Change) (command : Command) : Action Unit :=
  match kind with
  | .modifyUser => modifyUser command
  | .setUserQuota => setQuota .user command
  | .setGroupQuota => setQuota .group command
  | .makeDir => makeDir command
  | .makeResource => makeResource command
  | .modifyResource => modifyResource command
  | .modifyResourceDataPaths => modifyResourceDataPaths command
  | .removeResource => removeResource command
  | .removeUnusedMetadata => removeUnusedMetadata
  | .modifyZone => modifyZone command

end GridAdmin.Action
