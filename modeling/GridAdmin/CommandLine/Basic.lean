import GridAdmin.CommandLine.Options
import GridAdmin.Gateway.Connector
import GridAdmin.Shell.Basic

/-!
# The program's surroundings

The program talks to a terminal, a clock, the file system and the network.
`CommandLine.interface` holds all of it, and the two interfaces that parts of
the program use, that of the shell and that of the network, are interpreted
into it.

The terminal hands over raw lines, which still end in their line break; the
empty text stands for the end of input.

## Main definitions

* `StartFailure`, `Notice`: what the program says outside of the shell.
* `CommandLine.interface`: the surroundings.
* `CommandLine.answerShell`: the shell's questions, asked of these surroundings.
-/

namespace GridAdmin

namespace CommandLine

/-! ## Notices -/

/-- Why a session does not start. -/
inductive StartFailure where
  | environment (error : ConfigError)
  | client (error : ClientError)
  /-- The password could not be read; `cause` says why. -/
  | password (cause : String)
  /-- The server turned the login down. -/
  | rejected (user : UserIdentity)
  deriving DecidableEq, Repr

namespace StartFailure

/-- The wording of a failure, with its causes. -/
def report : StartFailure → String
  | .environment error => "unable to determine the client environment: " ++ error.report
  | .client error => error.report
  | .password cause => "failed to read password: " ++ cause
  | .rejected user => "login rejected: " ++ (ClientError.authentication user).message

/-- What the program exits with. -/
def exitCode : StartFailure → Nat
  | .rejected _ => 3
  | .environment _ | .client _ | .password _ => 2

end StartFailure

/-- A remark of the program outside of a session. -/
inductive Notice where
  | usage (fault : UsageFault)
  | notStarted (failure : StartFailure)
  /-- A verb that needs no session failed. -/
  | verbFailed (error : ShellError)
  deriving DecidableEq, Repr

/-- What a notice says. -/
def Notice.text : Notice → String
  | .usage fault => "error: " ++ fault.message
  | .notStarted failure => "error: " ++ failure.report
  | .verbFailed error => error.message

/-! ## Interface -/

/-- What the program asks of its surroundings. -/
inductive Query where
  | print (line : Line)
  /-- Say something beside the output. -/
  | notify (notice : Notice)
  /-- One raw line of input after a prompt; empty at the end of input. -/
  | readLine (prompt : String)
  /-- One line of input that is not shown, after a prompt. -/
  | readSecret (prompt : String)
  /-- The current time, in seconds since 1970-01-01. -/
  | clock
  /-- There is a plain file at this path. -/
  | isFile (path : String)
  /-- The text of the file at this path. -/
  | fileText (path : String)
  | network (query : Gateway.Query)
  deriving DecidableEq

/-- The answers. Where reading can fail, the reason is an answer, too. -/
abbrev Query.Answer : Query → Type
  | .print _ | .notify _ => Unit
  | .readLine _ | .readSecret _ | .fileText _ => Except String String
  | .clock => Int
  | .isFile _ => Bool
  | .network query => query.Answer

/-- The surroundings of the program. -/
def interface : Interface := ⟨Query, Query.Answer⟩

/-- A run of the program, or a part of one. -/
abbrev Program (α : Type) : Type := Proc interface α

/-- Ask one question. -/
def ask (query : Query) : Program query.Answer :=
  Proc.query (I := interface) query

/-! ## The network -/

/-- Ask the network. -/
def answerNetwork (query : Gateway.Query) : Program query.Answer :=
  ask (.network query)

/-- A part of the program that uses the network alone. -/
def overNetwork {α : Type} (proc : Proc Gateway.interface α) : Program α :=
  proc.interpret answerNetwork

/-! ## The shell -/

/-- The end of a raw line. -/
def isLineEnd (c : Char) : Bool :=
  c = '\n' || c = '\r'

/-- The line that raw input holds, without its end; `none` at the end of input. -/
def lineOfInput (raw : String) : Option String :=
  if raw = "" then none else some (String.ofList (Text.dropEndWhile isLineEnd raw.toList))

/-- Ask a question of the shell, with `perform` for its calls. -/
def answerShell (perform : (call : Call) → Program (Exchange call)) :
    (query : Shell.Query) → Program query.Answer
  | .print line => ask (.print line)
  | .readLine prompt => do
      let raw ← ask (.readLine prompt)
      return Except.map lineOfInput raw
  | .readSecret prompt => ask (.readSecret prompt)
  | .clock => ask .clock
  | .call call => perform call

/-- Run a step of the shell, with `perform` for its calls. -/
def runShell {α : Type} (perform : (call : Call) → Program (Exchange call))
    (context : Shell.Context) (step : Shell α) : Program (α × Shell.State) :=
  (Shell.toProc step context .initial).interpret (answerShell perform)

end CommandLine

end GridAdmin
