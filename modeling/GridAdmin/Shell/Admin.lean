import GridAdmin.Shell.Basic

/-!
# Administrative requests

A request goes out through the general call. Where the caller allows it, a
request that the general call refuses outright goes out once more, unchanged,
through the user call. Whatever happened, the outcome is reported once and the
error stack is printed after the report.

A removal that is only tried carries a flag in the slot behind the resource's
name, and its outcome is output, not an error.

## Main definitions

* `Shell.send`: send a request and report its outcome.
* `Shell.invoke`: the same, and the outcome becomes the status of the command.
-/

namespace GridAdmin

/-- How a request is sent. -/
structure SendOptions where
  /-- Try the user call when the general call is not allowed. -/
  fallback : Bool := false
  /-- Ask the service to check the request without applying it. -/
  dryRun : Bool := false
  deriving DecidableEq, Repr

/-- The request with the flag that asks for a check only. -/
def AdminRequest.asDryRun (request : AdminRequest) : AdminRequest :=
  Slots.set request 3 "--dryrun"

/-- The request as it is sent. -/
def SendOptions.apply (options : SendOptions) (request : AdminRequest) : AdminRequest :=
  if options.dryRun then request.asDryRun else request

/-- The lines that report the outcome of a request. -/
def reportLines (route : AdminRoute) (request : AdminRequest) (status : Status)
    (options : SendOptions) : List Line :=
  if options.dryRun ∧ Slots.get request 0 = "rm" ∧ Slots.get request 1 = "resource" then
    [.dryRun (Slots.get request 2) status]
  else if status = .invalidUserName then [.malformedUserName]
  else if status.isFailure ∧ status ≠ .successWithoutInfo then
    .adminFailed route status ::
      if status.base = .invalidUserType then
        [.note "See 'lt user_type' for a list of valid user types."]
      else []
  else []

namespace Shell

/-- Print several lines. -/
def printLines : List Line → Shell Unit
  | [] => pure ()
  | line :: rest => do
      print line
      printLines rest

/-- The calls that a request goes through, and how the last of them ended. -/
def route (request : AdminRequest) (options : SendOptions) :
    Shell (AdminRoute × Except ClientError Status) := do
  let result ← call (.generalAdmin request)
  match result with
  | .ok status =>
      if options.fallback ∧ status = .noApiPrivilege then
        return (.generalThenUser, ← call (.userAdmin request))
      else return (.general, .ok status)
  | .error e => return (.general, .error e)

/-- Send a request, report its outcome and print the error stack. -/
def send (request : AdminRequest) (options : SendOptions) : Shell Status := do
  let sent := options.apply request
  let (route, result) ← route sent options
  let status ←
    match result with
    | .ok status => pure status
    | .error e => do
        print (.adminUnanswered route e)
        pure e.status
  printLines (reportLines route sent status options)
  drain
  return status

/-- Send a request; its outcome is the status of the command. -/
def invoke (request : AdminRequest) (options : SendOptions) : Shell Status := do
  let status ← send request options
  record status
  return status

end Shell

end GridAdmin
