import GridAdmin.Listing.Page
import GridAdmin.Replica.Selector
import GridAdmin.Shell.Basic
import GridAdmin.UserName

/-!
# Look-ups in the catalog

What several commands need to know from the catalog: all pages of an SQL
query, the name of the local zone, and whether the session's user may look at
guarded information.

An SQL query answers in pages. Each page but the last carries a positive
cursor, and the next page is asked for by sending the same query with that
cursor. Nothing bounds the number of pages from outside, so following them
takes fuel.

## Main definitions

* `Action.runQuery`: print all pages of a query.
* `Action.localZone`: the name of the local zone, asked for once.
* `Action.requireRodsadmin`: end the command unless the user is a `rodsadmin`.
-/

namespace GridAdmin

namespace Action

/-! ## Paged queries -/

/-- Print one page. -/
def printPage (page : String) : Action Unit :=
  Shell.printAll (Listing.pageText page)

/-- Print the pages behind the cursor `control`. -/
def followPages : Nat → SimpleQuery → Int32 → Action Unit
  | 0, _, control =>
      if 0 < control then Shell.outOfFuel else return ()
  | fuel + 1, query, control => do
      if 0 < control then
        let next := { query with control }
        let page ← call (.simpleQuery next)
        if page.status = .noRowsFound then return ()
        if page.status.isFailure then throw (.remoteFailure .simpleQuery page.status)
        printPage page.outBuf
        followPages fuel next page.control
      else return ()

/-- Print all pages of a query. An empty answer is no error. -/
def runQuery (query : SimpleQuery) : Action Unit := do
  let reply ← call (.simpleQuery query)
  if reply.status = .noRowsFound then
    Shell.print (.out "No rows found")
  else if reply.status.isFailure then
    Shell.drain
    throw (.remoteFailure .simpleQuery reply.status)
  else
    printPage reply.outBuf
    followPages (← read).fuel query reply.control

/-! ## The local zone -/

/-- The query for the local zone. -/
def localZoneQuery : SimpleQuery :=
  .first 1 "select zone_name from R_ZONE_MAIN where zone_type_name=?" ["local"]

/-- The zone that a page names: its first line, without blanks at the ends. -/
def zoneOfPage (page : String) : String :=
  String.ofList (Text.trim (Text.before '\n' page.toList))

/-- The name of the local zone. It is asked for once and then remembered. -/
def localZone : Action String := do
  match (← get).localZone with
  | some zone => return zone
  | none =>
      let reply ← call (.simpleQuery localZoneQuery)
      if reply.status.isFailure then
        Shell.print (.note "Error getting local zone")
        throw (.remoteFailure .localZone reply.status)
      let zone := zoneOfPage reply.outBuf
      modify fun state => { state with localZone := some zone }
      return zone

/-- The name and the zone of a user token; the local zone if it names none. -/
def resolveUser (token : String) : Action (String × String) := do
  match splitUserName? token with
  | none => refuse .userName
  | some (name, zone) =>
      if zone = "" then return (name, ← localZone) else return (name, zone)

/-! ## The type of the session's user -/

/-- The query for the type of a user. -/
def userTypeQuery (user : UserIdentity) : String :=
  "select USER_TYPE where " ++ columnIs "USER_NAME" user.name ++ " and "
    ++ columnIs "USER_ZONE" user.zone

/-- End the command unless the session's user is a `rodsadmin`. -/
def requireRodsadmin : Action Unit := do
  let reply ← call (.generalQuery (userTypeQuery (← read).user) none)
  if reply.status.isFailure ∧ reply.status ≠ .noRowsFound then
    throw (.remoteFailure .userType reply.status)
  match reply.rows.head?.bind List.head? with
  | none => throw (.permissionDenied .unknownUserType)
  | some userType =>
      if userType = "rodsadmin" then return ()
      else throw (.permissionDenied .needsRodsadmin)

end Action

end GridAdmin
