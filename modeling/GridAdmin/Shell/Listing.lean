import GridAdmin.Json.Printer
import GridAdmin.Shell.Admin
import GridAdmin.Shell.Catalog
import GridAdmin.Verb

/-!
# Listings

Each listing is one SQL query whose text depends only on which words are
there; the words themselves travel as bind values. Groups are listed by a
general query and the delay server by two configuration options, both for a
`rodsadmin` only.

## Main definitions

* `Listing.usersQuery` and the like: the query of each listing.
* `Action.list`: what a listing verb does.
-/

namespace GridAdmin

/-! ## SQL queries -/

namespace Listing

/-- All users, or the details of one. -/
def usersQuery (name : String) : SimpleQuery :=
  if name = "" then
    .first 1 "select user_name||'#'||zone_name from R_USER_MAIN where user_type_name != 'rodsgroup'" []
  else .first 2 "select * from R_USER_MAIN where user_name=?" [name]

/-- The users of a zone, or the details of one of them. -/
def usersOfZoneQuery (zone user : String) : SimpleQuery :=
  if user = "" then
    .first 1 "select user_name from R_USER_MAIN where zone_name=? and user_type_name != 'rodsgroup'"
      [zone]
  else .first 2 "select * from R_USER_MAIN where user_name=? and zone_name=?" [user, zone]

/-- The token namespaces, the tokens of one, or the details of a token. -/
def tokensQuery (scope name : String) : SimpleQuery :=
  if scope = "" then
    .first 1 "select token_name from R_TOKN_MAIN where token_namespace = 'token_namespace'" []
  else if name = "" then
    .first 1 "select token_name from R_TOKN_MAIN where token_namespace = ?" [scope]
  else
    .first 2 "select * from R_TOKN_MAIN where token_namespace = ? and token_name like ?"
      [scope, name]

/-- All resources, or the details of one. -/
def resourcesQuery (name : String) : SimpleQuery :=
  if name = "" then .first 1 "select resc_name from R_RESC_MAIN" []
  else .first 2 "select * from R_RESC_MAIN where resc_name=?" [name]

/-- All zones, or the details of one. -/
def zonesQuery (name : String) : SimpleQuery :=
  if name = "" then .first 1 "select zone_name from R_ZONE_MAIN" []
  else .first 2 "select * from R_ZONE_MAIN where zone_name=?" [name]

/-- The statement that joins users to their authentication names. -/
def userAuthSql : String :=
  "select user_name, user_auth_name from R_USER_AUTH, R_USER_MAIN "
    ++ "where R_USER_AUTH.user_id = R_USER_MAIN.user_id"

/-- All authentication names, or those of one user, whose zone may be empty. -/
def userAuthQuery : Option (String × String) → SimpleQuery
  | none => .first 1 userAuthSql []
  | some (name, zone) =>
      if zone = "" then .first 1 (userAuthSql ++ " and R_USER_MAIN.user_name=?") [name]
      else
        .first 1 (userAuthSql ++ " and R_USER_MAIN.user_name=? and R_USER_MAIN.zone_name=?")
          [name, zone]

/-- The users of an authentication name. -/
def userAuthNameQuery (name : String) : SimpleQuery :=
  .first 1 (userAuthSql ++ " and R_USER_AUTH.user_auth_name=?") [name]

/-- The statement that selects the quotas on single resources. -/
def resourceQuotaSql : String :=
  "select user_name, R_USER_MAIN.zone_name, resc_name, quota_limit, "
    ++ "quota_over, R_QUOTA_MAIN.modify_ts from R_QUOTA_MAIN, R_USER_MAIN, R_RESC_MAIN "
    ++ "where R_USER_MAIN.user_id = R_QUOTA_MAIN.user_id "
    ++ "and R_RESC_MAIN.resc_id = R_QUOTA_MAIN.resc_id"

/-- The statement that selects the quotas on total usage. -/
def globalQuotaSql : String :=
  "select user_name, R_USER_MAIN.zone_name, quota_limit, quota_over, "
    ++ "R_QUOTA_MAIN.modify_ts from R_QUOTA_MAIN, R_USER_MAIN "
    ++ "where R_USER_MAIN.user_id = R_QUOTA_MAIN.user_id and R_QUOTA_MAIN.resc_id = 0"

/-- The quotas of everybody, or of one user. -/
def quotaQuery (sql : String) : Option (String × String) → SimpleQuery
  | none => .first 2 sql []
  | some (name, zone) =>
      .first 2 (sql ++ " and user_name=? and R_USER_MAIN.zone_name=?") [name, zone]

/-! ## General queries -/

/-- All groups, or the members of one. The name is put between quotes as it is. -/
def groupQuery (group : String) : String :=
  if group = "" then "select USER_NAME where USER_TYPE = 'rodsgroup'"
  else "select USER_NAME, USER_ZONE where USER_TYPE != 'rodsgroup' and "
    ++ columnIs "USER_GROUP_NAME" group

end Listing

/-! ## Actions -/

namespace Action

/-- `lu`: all users, or one, who may be named with a zone. -/
def listUsers (token : String) : Action Unit :=
  match splitUserName? token with
  | none => refuse .userName
  | some (name, zone) =>
      if zone = "" then runQuery (Listing.usersQuery token)
      else runQuery (Listing.usersOfZoneQuery zone name)

/-- `lt`: tokens. The resource types are asked for by an administrative request. -/
def listTokens (scope name : String) : Action Unit := do
  if scope = "resc_type" then
    let _ ← Shell.invoke (.ofValues ["lt", "resc_type"]) {}
  else runQuery (Listing.tokensQuery scope name)

/-- `lua`: authentication names. -/
def listUserAuth (token : String) : Action Unit :=
  if token = "" then runQuery (Listing.userAuthQuery none)
  else
    match splitUserName? token with
    | none => refuse .userName
    | some user => runQuery (Listing.userAuthQuery (some user))

/-- `lg`: groups, or the members of one. -/
def listGroups (group : String) : Action Unit := do
  requireRodsadmin
  if group ≠ "" then Shell.print (.out ("Members of group " ++ group ++ ":"))
  let reply ← call (.generalQuery (Listing.groupQuery group) none)
  if reply.status = .noRowsFound ∨ (reply.status.isSuccess ∧ reply.rows = []) then
    Shell.print (.note "No rows found")
  else if reply.status.isFailure then
    Shell.drain
    throw (.remoteFailure .group reply.status)
  else Shell.printAll (reply.rows.map fun row => "#".intercalate row)

/-- The heading of one of the two quota reports. -/
def quotaHeading (title token : String) : String :=
  if token = "" then title ++ " quotas (if any) for users/groups:"
  else title ++ " quotas (if any) for user/group " ++ token ++ ":"

/-- Run two actions one after the other, whatever becomes of the first. The
first error counts. -/
def both (first second : Action Unit) : Action Unit := do
  let firstResult : Except ShellError Unit ← ExceptT.lift first.run
  let secondResult : Except ShellError Unit ← ExceptT.lift second.run
  match firstResult with
  | .error e => throw e
  | .ok () => ExceptT.mk (pure secondResult)

/-- `lq`: quotas on single resources, then quotas on total usage. -/
def listQuotas (token : String) : Action Unit := do
  let target ← if token = "" then pure none else some <$> resolveUser token
  Shell.print (.out (quotaHeading "Per resource" token))
  both (runQuery (Listing.quotaQuery Listing.resourceQuotaSql target)) do
    Shell.print (.out (quotaHeading "\nGlobal (total usage)" token))
    runQuery (Listing.quotaQuery Listing.globalQuotaSql target)

/-- One option of the delay server. -/
def delayServerOption (option : String) : Action String := do
  let reply ← call (.gridConfiguration "delay_server" option)
  if reply.status.isFailure then
    Shell.print (.note "Failed to get delay server information.")
    throw (.remoteFailure .delayServer reply.status)
  return reply.value

/-- `get_delay_server_info`: leader and successor as JSON. -/
def showDelayServer : Action Unit := do
  requireRodsadmin
  let leader ← delayServerOption "leader"
  let successor ← delayServerOption "successor"
  Shell.print (.out (Json.record
    [("leader", .text leader), ("successor", .text successor)]).indentedText)

/-- What a listing verb does. -/
def list (listing : Listing) (command : Command) : Action Unit :=
  let first := command.arg 1
  let second := command.arg 2
  match listing with
  | .users => listUsers first
  | .usersOfZone => runQuery (Listing.usersOfZoneQuery first second)
  | .tokens => listTokens first second
  | .resources => runQuery (Listing.resourcesQuery first)
  | .zones => runQuery (Listing.zonesQuery first)
  | .groups => listGroups first
  | .groupDetails =>
      if first = "" then refuse .missingGroup else runQuery (Listing.usersQuery first)
  | .userAuth => listUserAuth first
  | .userAuthName => runQuery (Listing.userAuthNameQuery first)
  | .quotas => listQuotas first
  | .delayServer => showDelayServer

end Action

end GridAdmin
