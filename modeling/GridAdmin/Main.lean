import GridAdmin.CommandLine.Program
import GridAdmin.Gateway.Framing
import Std.Async.DNS
import Std.Async.TCP
import Std.Time.DateTime.Timestamp

/-!
# The executable

Answers the questions of the program from the real terminal, clock, file
system and network, and exits with what the run ends in. Everything that is
decided is decided in `CommandLine.run`.

Requests go over plain TCP connections, one for each. Addresses with the scheme
`https` are refused, because there is no encrypted transport here. Redirections
are not followed either: a response that redirects is handed on as it is, and its
status tells that the request did not succeed. A response that ends early counts
as none, and not as one whose body cannot be decoded.

Nothing is logged. The switches decide on a level (`Switches.logLevel`), but the
messages that a log would hold, beside the output and the exit code, are left out,
and so are the variables that choose among them or set their form.
-/

namespace GridAdmin.Executable

open GridAdmin (Url)
open GridAdmin.CommandLine (Query Program)

/-! ## Failures of the system -/

/-- The reason of a failure. -/
def reason : IO.Error → String
  | .noFileOrDirectory .. => "No such file or directory (os error 2)"
  | .permissionDenied .. => "Permission denied (os error 13)"
  | .inappropriateType .. => "Is a directory (os error 21)"
  | .userError text => text
  | e => toString e

/-- Do something that may fail, and keep the reason. -/
def attempt {α : Type} (action : IO α) : IO (Except String α) := do
  try return .ok (← action)
  catch e => return .error (reason e)

/-! ## Terminal and files -/

/-- Print one line. -/
def printLine (stream : Stream) (text : String) : IO Unit := do
  let handle ← match stream with
    | .out => IO.getStdout
    | .err => IO.getStderr
  handle.putStrLn text
  handle.flush

/-- Read a raw line after a prompt. -/
def promptLine (prompt : String) : IO String := do
  let output ← IO.getStdout
  output.putStr prompt
  output.flush
  (← IO.getStdin).getLine

/-- Read a line from the controlling terminal, which conceals what is typed. -/
def promptSecret (prompt : String) : IO String := do
  let terminal ← IO.FS.Handle.mk "/dev/tty" .readWrite
  terminal.putStr (prompt ++ "\x1b[8m")
  terminal.flush
  let line ← terminal.getLine
  terminal.putStr "\x1b[0m"
  terminal.flush
  return String.ofList (Text.dropEndWhile CommandLine.isLineEnd line.toList)

/-- There is a plain file at a path, perhaps one that may not be read. -/
def isFile (path : String) : IO Bool := do
  try
    discard (IO.FS.readBinFile path)
    return true
  catch
    | .permissionDenied .. => return true
    | _ => return false

/-- The text of a file. -/
def fileText (path : String) : IO String := do
  match String.fromUTF8? (← IO.FS.readBinFile path) with
  | some text => return text
  | none => throw (IO.userError "stream did not contain valid UTF-8")

/-! ## Network -/

/-- A random identifier in the form of a UUID of version 4. -/
def freshIdentifier : IO String := do
  let bytes := (← IO.getRandomBytes 16).toList
  let marked := bytes.mapIdx fun i byte =>
    if i = 6 then byte % 16 + 64 else if i = 8 then byte % 64 + 128 else byte
  let digits := marked.flatMap fun byte =>
    [Nat.digitChar (byte.toNat / 16), Nat.digitChar (byte.toNat % 16)]
  let groups := (digits.mapIdx fun i c => if [8, 12, 16, 20].contains i then ['-', c] else [c])
  return String.ofList groups.flatten

/-- The name or number of a host as a resolver takes it. -/
def hostName (url : Url) : String :=
  match url.authority with
  | none => ""
  | some authority =>
      String.ofList (authority.host.text.filter fun c => !(c = '[' || c = ']'))

/-- Read from a connection to its end. -/
partial def receiveAll (client : Std.Async.TCP.Socket.Client) (sofar : ByteArray) :
    Std.Async.Async ByteArray := do
  match ← client.recv? 65536 with
  | some bytes => receiveAll client (sofar ++ bytes)
  | none => return sofar

/-- The address of a socket. -/
def socketAddress (port : UInt16) : Std.Net.IPAddr → Std.Net.SocketAddress
  | .v4 addr => .v4 { addr, port }
  | .v6 addr => .v6 { addr, port }

/-- Send a request over a connection of its own and read the response. -/
def exchangeWith (request : Gateway.Request) (peer : Std.Net.SocketAddress) :
    Std.Async.Async ByteArray := do
  let client ← Std.Async.TCP.Socket.Client.mk
  client.connect peer
  client.send request.frame.toUTF8
  receiveAll client ByteArray.empty

/-- Try the addresses of a host one after the other. -/
def exchangeWithAny (request : Gateway.Request) :
    List Std.Net.SocketAddress → IO ByteArray
  | [] => throw (IO.userError "no address belongs to the host")
  | [peer] => (exchangeWith request peer).block
  | peer :: rest => do
      try (exchangeWith request peer).block
      catch _ => exchangeWithAny request rest

/-- Send a request and read the response, encrypting nothing and following no
redirection. -/
def exchange (request : Gateway.Request) : IO Gateway.Response := do
  if request.address.scheme = "https".toList then
    throw (IO.userError "there is no encrypted transport")
  let port := (request.address.effectivePort?.getD 80).toUInt16
  let hosts ← (Std.Async.DNS.getAddrInfo (hostName request.address) "").block
  let bytes ← exchangeWithAny request (hosts.toList.map (socketAddress port))
  match Gateway.Response.ofBytes? bytes.toList with
  | some response => return response
  | none => throw (IO.userError "connection closed before message completed")

/-- Wait for a task until a point of time, in milliseconds. -/
partial def waitUntil {α : Type} (deadline : Nat) (task : Task (Except IO.Error α)) : IO α := do
  if ← IO.hasFinished task then IO.ofExcept task.get
  else if deadline ≤ (← IO.monoMsNow) then throw (IO.userError "operation timed out")
  else
    IO.sleep 2
    waitUntil deadline task

/-- Send a request and wait for the response as long as the request allows. -/
def send (request : Gateway.Request) : IO Gateway.Response := do
  let deadline := (← IO.monoMsNow) + request.timeout * 1000
  waitUntil deadline (← IO.asTask (exchange request))

/-! ## Runs -/

/-- Answer a question of the program. -/
def answer : (query : Query) → IO query.Answer
  | .print line => printLine line.stream line.text
  | .notify notice => printLine .err notice.text
  | .readLine prompt => attempt (promptLine prompt)
  | .readSecret prompt => attempt (promptSecret prompt)
  | .clock => return (← Std.Time.Timestamp.now).toSecondsSinceUnixEpoch.val
  | .isFile path => isFile path
  | .fileText path => attempt (fileText path)
  | .network .identifier => freshIdentifier
  | .network (.send request) => attempt (send request)

/-- Run a program; no value when it runs out of fuel. -/
def execute {α : Type} : Program α → IO (Option α)
  | .done value => return some value
  | .exhausted => return none
  | .ask query next => do execute (next (← answer query))

/-- The names of the variables that a run may look up. -/
def variableNames : List String :=
  "HOME" :: CommandLine.Setting.all.map CommandLine.Setting.variableName

/-- The variables of the process. -/
def processVariables : IO (List (String × String)) := do
  let values ← variableNames.mapM fun name => do return (name, ← IO.getEnv name)
  return values.filterMap fun (name, value) => value.map (name, ·)

/-- More rounds than any session lives to see. -/
def fuel : Nat := 1000000000000000000

end GridAdmin.Executable

/-- Run the command line of the process. -/
def main (arguments : List String) : IO UInt32 := do
  let environment ← GridAdmin.Executable.processVariables
  let program := GridAdmin.CommandLine.run (fun name => environment.lookup name) arguments
    GridAdmin.Executable.fuel
  match ← GridAdmin.Executable.execute program with
  | some code => return code.toUInt32
  | none => return 2
