import GridAdmin.ShellError

/-!
# What the shell prints

Everything that the shell prints is a `Line`. Lines with a meaning of their
own are constructors, so that a statement can speak of "the report that a
command failed" without looking at texts; all other output is `out` or `note`.
A line may hold newlines and then takes several rows on the terminal.

## Main definitions

* `Line.stream`, `Line.text`: where a line goes and what it says.
* `Line.isFailureReport`: the lines that tell of a failed command.
-/

namespace GridAdmin

/-- The two streams of a terminal program. -/
inductive Stream where
  | out
  | err
  deriving DecidableEq, Repr

/-- The calls that an administrative request went through. -/
inductive AdminRoute where
  | general
  /-- The general call was refused, and the user call was tried after it. -/
  | generalThenUser
  deriving DecidableEq, Repr

/-- The name of a route in messages. -/
def AdminRoute.name : AdminRoute → String
  | .general => "general admin"
  | .generalThenUser => "general admin and user admin"

/-- One piece of output. -/
inductive Line where
  /-- Plain output. -/
  | out (text : String)
  /-- A plain remark beside the output. -/
  | note (text : String)
  /-- A command before it runs, in a session that is very verbose. -/
  | echo (words : List String)
  /-- The text of a query, in a session that is very verbose. -/
  | queryText (query : String)
  /-- A diagnostic of the server, at its position on the error stack. -/
  | diagnostic (level : Nat) (message : Diagnostic)
  /-- An administrative request ended without a status. -/
  | adminUnanswered (route : AdminRoute) (error : ClientError)
  /-- An administrative request ended with a failure. -/
  | adminFailed (route : AdminRoute) (status : Status)
  /-- The server found a user name malformed. -/
  | malformedUserName
  /-- The outcome of a removal that was only tried. -/
  | dryRun (resource : String) (status : Status)
  /-- A replica was not changed as asked. -/
  | updateFailed (status : Status)
  /-- A command ended with an error. -/
  | commandFailed (error : ShellError)
  deriving DecidableEq, Repr

namespace Line

/-- Where a line goes. -/
def stream : Line → Stream
  | .out _ | .echo _ | .queryText _ | .dryRun _ _ => .out
  | .note _ | .diagnostic _ _ | .adminUnanswered _ _ | .adminFailed _ _
  | .malformedUserName | .updateFailed _ | .commandFailed _ => .err

/-- What a line says. -/
def text : Line → String
  | .out text | .note text => text
  | .echo words => "executing command: " ++ " ".intercalate words
  | .queryText query => "query:[" ++ query ++ "]"
  | .diagnostic level message => message.line level
  | .adminUnanswered route error => route.name ++ " failed: " ++ error.message
  | .adminFailed route status => route.name ++ " failed with error " ++ status.text
  | .malformedUserName => "Invalid username format."
  | .dryRun resource status =>
      "DRYRUN REMOVING RESOURCE [" ++ resource ++ " - " ++ Status.codeText status.code
        ++ "] :: " ++ if status = .success then "SUCCESS" else "FAILURE"
  | .updateFailed status =>
      "modify replica failed: [" ++ status.name ++ " (" ++ Status.codeText status.code ++ ")]"
  | .commandFailed error => error.report

/-- The line tells of a failed command. -/
def isFailureReport : Line → Bool
  | .adminFailed _ _ | .malformedUserName | .updateFailed _ | .commandFailed _ => true
  | .dryRun _ status => decide (status ≠ .success)
  | .out _ | .note _ | .echo _ | .queryText _ | .diagnostic _ _ | .adminUnanswered _ _ => false

/-- The rows that a line takes on the terminal. -/
def rows (line : Line) : List String :=
  (line.text.toList.splitOn '\n').map String.ofList

end Line

end GridAdmin
