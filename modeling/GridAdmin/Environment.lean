import GridAdmin.Json.Decode
import GridAdmin.Json.Reader
import GridAdmin.Service.Request
import GridAdmin.Url.Reader

/-!
# The client environment

Where to connect and as whom is told by the command line, and by an
environment file for everything that the command line leaves open. The file is
a JSON record of four settings, each of which may be missing.

The host may be a full address. An address keeps its own port; any other host
is dialled by HTTP at the configured port.

## Main definitions

* `EnvironmentFile.read?`: the settings that a file holds.
* `endpoint`: the address of a host.
* `Overrides.resolve`: the target that settings determine.
-/

namespace GridAdmin

/-! ## The environment file -/

/-- The settings of an environment file. -/
structure EnvironmentFile where
  host : Option String := none
  port : Option UInt16 := none
  user : Option String := none
  zone : Option String := none
  deriving DecidableEq, Repr

namespace EnvironmentFile

/-- The names of the settings in a file. -/
def fieldNames : List String :=
  ["strata_host", "strata_port", "strata_user_name", "strata_zone_name"]

/-- Written as an array, the record must be complete. -/
def isComplete : Json → Bool
  | .array items => decide (items.length = fieldNames.length)
  | _ => true

/-- A setting that may be missing or `null`. -/
def setting? {α : Type} (item : Json → Option α) : Option Json → Option (Option α) :=
  Json.orElse? none (Json.asOption? item)

/-- The settings of a JSON value. -/
def ofJson? (value : Json) : Option EnvironmentFile := do
  if !isComplete value then none
  let [host, port, user, zone] ← value.asRecord? fieldNames | none
  let host ← setting? Json.asText? host
  let port ← setting? Json.asUInt16? port
  let user ← setting? Json.asText? user
  let zone ← setting? Json.asText? zone
  some { host, port, user, zone }

/-- The settings that the text of a file holds. -/
def read? (text : String) : Option EnvironmentFile :=
  (Json.read? text).bind ofJson?

end EnvironmentFile

/-! ## Settings -/

/-- A setting that must come from somewhere. -/
inductive RequiredSetting where
  | host
  | user
  | zone
  deriving DecidableEq, Repr

/-- The name of a setting in messages. -/
def RequiredSetting.name : RequiredSetting → String
  | .host => "host"
  | .user => "user name"
  | .zone => "zone"

/-- The option that gives a setting on the command line. -/
def RequiredSetting.option : RequiredSetting → String
  | .host => "host"
  | .user => "user"
  | .zone => "zone"

/-- Why there is no target. -/
inductive ConfigError where
  /-- The environment file cannot be read; `cause` says why. -/
  | unreadable (path cause : String)
  | unparsable (path : String)
  | missing (setting : RequiredSetting)
  | endpoint (error : UrlError)
  deriving DecidableEq, Repr

namespace ConfigError

/-- The message, without its cause. -/
def message : ConfigError → String
  | .unreadable path _ => "failed to read environment file " ++ path
  | .unparsable path => "failed to parse environment file " ++ path
  | .missing setting =>
      "no " ++ setting.name ++ " configured; pass --" ++ setting.option
        ++ " or set it in the environment file"
  | .endpoint _ => "invalid server address"

/-- The message followed by its cause. -/
def report (e : ConfigError) : String :=
  match e with
  | .unreadable _ cause => e.message ++ ": " ++ cause
  | .unparsable _ => e.message ++ ": not a JSON record of settings"
  | .missing _ => e.message
  | .endpoint error => e.message ++ ": " ++ error.message

end ConfigError

/-- The settings of the command line. -/
structure Overrides where
  host : Option String := none
  port : Option UInt16 := none
  user : Option String := none
  zone : Option String := none
  /-- How long to wait for an answer, in seconds. -/
  timeout : Nat
  deriving DecidableEq, Repr

/-- Where to connect and as whom. -/
structure Target where
  baseUrl : Url
  user : UserIdentity
  /-- How long to wait for an answer, in seconds. -/
  timeout : Nat
  deriving DecidableEq, Repr

/-- The port that is dialled when no setting names one. -/
def defaultPort : UInt16 := 1247

/-- The address of a host, which may be a full address itself. -/
def endpoint (host : String) (port : UInt16) : Except UrlError Url :=
  if Text.contains host "://" then do
    let url ← Url.read host.toList
    if url.port?.isSome then return url
    else
      match url.withPort? port.toNat with
      | some url => return url
      | none => throw .port
  else Url.read ("http://".toList ++ host.toList ++ ':' :: Text.natText port.toNat)

/-- The value of a setting: the command line counts before the file. -/
def required (setting : RequiredSetting) (override fromFile : Option String) :
    Except ConfigError String :=
  match override.or fromFile with
  | some value => .ok value
  | none => .error (.missing setting)

/-- The target that the settings of the command line and of a file determine. -/
def Overrides.resolve (overrides : Overrides) (file : EnvironmentFile) :
    Except ConfigError Target := do
  let host ← required .host overrides.host file.host
  let name ← required .user overrides.user file.user
  let zone ← required .zone overrides.zone file.zone
  match endpoint host ((overrides.port.or file.port).getD defaultPort) with
  | .ok baseUrl => return { baseUrl, user := { name, zone }, timeout := overrides.timeout }
  | .error e => throw (.endpoint e)

end GridAdmin
