import GridAdmin.LocalTime
import GridAdmin.Help
import GridAdmin.Scramble.Password
import GridAdmin.Scramble.Wheel
import GridAdmin.Shell.Basic
import GridAdmin.Verb

/-!
# Verbs without the service

Scrambling and descrambling a password, converting times, and help need no
session. They use the terminal and the clock only, so they can be run before
anything is connected.

## Main definitions

* `Action.offline`: what such a verb does.
* `Shell.help`: print a usage text.
-/

namespace GridAdmin

namespace Shell

/-- Print the usage text of a topic. -/
def help (topic : String) : Shell Unit :=
  printAll (Help.usage topic)

end Shell

namespace Action

/-! ## Passwords -/

/-- Say that a password is scrambled without a key. -/
def warnOfEmptyKey (key : String) : Action Unit := do
  if key = "" then Shell.print (.out "Warning, scramble key is null")

/-- `spass`: print a password in its scrambled form. -/
def scramblePassword (password key : String) : Action Unit := do
  if Password.isTooLong password then refuse .passwordTooLong
  warnOfEmptyKey key
  Shell.print (.out ("Scrambled form is:" ++ scramble password key))

/-- `dspass`: print the password that a scrambled form stands for. -/
def descramblePassword (scrambled key : String) : Action Unit := do
  if Password.isTooLong scrambled then refuse .scrambledPasswordTooLong
  warnOfEmptyKey key
  Shell.print (.out ("Unscrambled form is:" ++ descramble scrambled key))

/-- One line of input without a prompt; empty at the end of input. -/
def readPlainLine : Action String := do
  return (← readLine "").getD ""

/-- `dspass` without words reads the scrambled form and then the key. -/
def descrambleWords (command : Command) : Action Unit := do
  if command.arg 1 = "" then
    let scrambled ← readPlainLine
    let key ← readPlainLine
    descramblePassword scrambled key
  else descramblePassword (command.arg 1) (command.arg 2)

/-! ## Times -/

/-- What `ctime str` prints for a text: digits as they are, and a readable time
as a catalog time. -/
def catalogTimeOf (text : String) : Except ArgumentFault String :=
  if Text.isDigits text.toList then .ok text
  else
    match LocalTime.read? text.toList with
    | some seconds => .ok (String.ofList (LocalTime.catalogText seconds))
    | none => .error (.unreadableTime text)

/-- What `ctime` prints for a number of seconds without a sign. -/
def localTimeOf (text : String) : Except ArgumentFault String :=
  if Text.isDigits text.toList then
    match Text.readInt64? text.toList with
    | some seconds => .ok (String.ofList (LocalTime.text seconds.toInt))
    | none => .error .timeForm
  else .error .timeForm

/-- Print `title` and the result behind it. -/
def printResult (title : String) : Except ArgumentFault String → Action Unit
  | .ok result => Shell.print (.out (title ++ result))
  | .error fault => refuse fault

/-- `ctime`: convert a time. -/
def convertTime (command : Command) : Action Unit := do
  if command.arg 1 = "now" then
    let now ← (Shell.ask .clock : Shell _)
    printResult "Current time as catalog integer time: "
      (.ok (String.ofList (LocalTime.catalogText now)))
  else if command.arg 1 = "str" then
    printResult "Converted to local catalog integer time: " (catalogTimeOf (command.arg 2))
  else printResult "Converted to local time: " (localTimeOf (command.arg 1))

/-! ## All offline verbs -/

/-- What an offline verb does. -/
def offline (verb : Offline) (command : Command) : Action Unit :=
  match verb with
  | .scramble => scramblePassword (command.arg 1) (command.arg 2)
  | .descramble => descrambleWords command
  | .convertTime => convertTime command

end Action

end GridAdmin
