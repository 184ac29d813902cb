import GridAdmin.Service.Call

/-!
# Errors of a command

A command that fails ends with one of these errors; the session goes on. An
error holds its cause, and the wording of every cause is in one function. An
error is *local* when it was found before anything was asked of the service.

## Main definitions

* `ShellError.message`, `ShellError.report`: the wording, without and with causes.
* `ShellError.isLocal`, `ShellError.status`: where an error was found, and what it records.
-/

namespace GridAdmin

/-- What is wrong with the words of a command. -/
inductive ArgumentFault where
  /-- Fewer words than the command needs. -/
  | tooFewWords
  /-- `value` is no number, where the selector `kind` needs one. -/
  | notANumber (kind value : String)
  | unknownObjectKind
  | unknownReplicaKind
  | relativePath
  | rootPath
  | userName
  | missingGroup
  /-- Required words that are missing, each with its own line. -/
  | missingWords (lines : List String)
  | passwordTooLong
  | scrambledPasswordTooLong
  | unreadableTime (text : String)
  | timeForm
  deriving DecidableEq, Repr

/-- The wording of a fault. -/
def ArgumentFault.message : ArgumentFault → String
  | .tooFewWords => "Input arguments do not match expected values."
  | .notANumber kind value => "Invalid input [" ++ value ++ "] for " ++ kind ++ "."
  | .unknownObjectKind => "Invalid data object option specified."
  | .unknownReplicaKind => "Invalid replica option specified."
  | .relativePath => "Provided logical_path must be absolute."
  | .rootPath => "Provided logical_path must name a data object."
  | .userName => "Invalid username format."
  | .missingGroup => "You must specify a group with the lgd command"
  | .missingWords lines => "\n".intercalate lines
  | .passwordTooLong => "Password exceeds maximum length"
  | .scrambledPasswordTooLong => "Scrambled password exceeds maximum length"
  | .unreadableTime text => "Invalid time '" ++ text ++ "', expected YYYY-MM-DD.hh:mm:ss"
  | .timeForm => "ctime needs an integer time, 'now', or 'str <time>'"

/-- Why the shell itself refuses an operation. -/
inductive Denial where
  /-- The catalog does not tell the type of the session's user. -/
  | unknownUserType
  /-- The session's user is no `rodsadmin`. -/
  | needsRodsadmin
  /-- The command would take the type `rodsadmin` away from somebody. -/
  | adminDowngrade
  deriving DecidableEq, Repr

/-- The wording of a denial. -/
def Denial.message : Denial → String
  | .unknownUserType => "Could not determine if user has permission to view information."
  | .needsRodsadmin => "Operation requires rodsadmin level privileges."
  | .adminDowngrade => "Cannot downgrade another rodsadmin user in this zone"

/-- The status recorded for a denial. -/
def Denial.status : Denial → Status
  | .unknownUserType => .invalidUserType
  | .needsRodsadmin => .insufficientPrivilege
  | .adminDowngrade => .notAllowed

/-- What was being looked up when the service answered with a failure. -/
inductive Lookup where
  | localZone
  | simpleQuery
  | replica
  | group
  | delayServer
  | userType
  | rodsadmin
  deriving DecidableEq, Repr

/-- The name of a look-up in messages. -/
def Lookup.name : Lookup → String
  | .localZone => "local zone lookup"
  | .simpleQuery => "simple query"
  | .replica => "replica query"
  | .group => "group query"
  | .delayServer => "delay server lookup"
  | .userType => "user type lookup"
  | .rodsadmin => "rodsadmin lookup"

/-- Why a command ended without doing its work. -/
inductive ShellError where
  | invalidArgument (fault : ArgumentFault)
  /-- The attribute is unknown, or identifies the replica. -/
  | invalidAttribute (name : String)
  | permissionDenied (denial : Denial)
  /-- The look-up matched nothing. This is information and no failure. -/
  | notFound
  | remoteFailure (lookup : Lookup) (status : Status)
  | client (error : ClientError)
  /-- The terminal could not be read; `cause` says why. -/
  | console (cause : String)
  deriving DecidableEq, Repr

namespace ShellError

/-- The message, without what lies underneath. -/
def message : ShellError → String
  | .invalidArgument fault => fault.message
  | .invalidAttribute name => "Invalid attribute specified: " ++ name
  | .permissionDenied denial => denial.message
  | .notFound => "No results found."
  | .remoteFailure lookup status => lookup.name ++ " failed with error " ++ status.text
  | .client error => error.message
  | .console _ => "failed to read from the terminal"

/-- The message followed by its cause. -/
def report : ShellError → String
  | .client error => error.report
  | .console cause => (ShellError.console cause).message ++ ": " ++ cause
  | e => e.message

/-- Found before anything was asked of the service. -/
def isLocal : ShellError → Bool
  | .invalidArgument _ | .invalidAttribute _ | .console _ => true
  | .permissionDenied _ | .notFound | .remoteFailure _ _ | .client _ => false

/-- The status recorded as the outcome of the command. -/
def status : ShellError → Status
  | .invalidArgument _ | .invalidAttribute _ => .invalidInput
  | .permissionDenied denial => denial.status
  | .notFound => .success
  | .remoteFailure _ status => status
  | .client error => error.status
  | .console _ => .unknownError

end ShellError

end GridAdmin
