import GridAdmin.CommandLine.Switch
import GridAdmin.Environment

/-!
# Options of the command line

Options stand in front of the command. A setting takes a value, attached to it
by `=` or as the next word; a switch takes none, and letters may share one
sign. No option may be repeated. A word that is no known option starts the
command, and from there on every word belongs to it; a `--` in front of the
command ends the options and is taken out.

A known option never serves as the value of a setting, but any other word does,
whatever sign it begins with.

Settings that are not given are looked up in the environment of the process.
Each value is checked when it is taken, so a bad value is refused even where no
command would need it.

## Main definitions

* `Options`, `Options.take`: checked settings.
* `Word.ofText`: what a word in front of the command is.
* `Invocation.read`: the options, the switches and the words of the command.
* `Options.complete`: options with the gaps filled from the environment.
-/

namespace GridAdmin.CommandLine

/-! ## Settings -/

/-- An option with a value. -/
inductive Setting where
  | host
  | port
  | user
  | zone
  | password
  | environmentFile
  | timeout
  deriving DecidableEq, Repr

namespace Setting

/-- All settings. -/
def all : List Setting :=
  [.host, .port, .user, .zone, .password, .environmentFile, .timeout]

/-- The name of a setting behind `--`. -/
def longName : Setting → String
  | .host => "host"
  | .port => "port"
  | .user => "user"
  | .zone => "zone"
  | .password => "password"
  | .environmentFile => "environment-file"
  | .timeout => "timeout"

/-- The environment variable that stands in for a setting. -/
def variableName : Setting → String
  | .host => "STRATA_HOST"
  | .port => "STRATA_PORT"
  | .user => "STRATA_USER"
  | .zone => "STRATA_ZONE"
  | .password => "STRATA_PASSWORD"
  | .environmentFile => "STRATA_ENVIRONMENT_FILE"
  | .timeout => "STRATA_HTTP_TIMEOUT_SECS"

end Setting

/-- Why a command line is refused. -/
inductive UsageFault where
  | repeatedSetting (setting : Setting)
  | repeatedSwitch (switch : Switch)
  | missingValue (setting : Setting)
  | badValue (setting : Setting) (value : String)
  /-- An option without a value got one. -/
  | unwantedValue (name value : String)
  deriving DecidableEq, Repr

/-- The wording of a fault. -/
def UsageFault.message : UsageFault → String
  | .repeatedSetting setting => "--" ++ setting.longName ++ " is given more than once"
  | .repeatedSwitch switch => "--" ++ switch.longName ++ " is given more than once"
  | .missingValue setting => "--" ++ setting.longName ++ " needs a value"
  | .badValue setting value =>
      "'" ++ value ++ "' is no valid value for --" ++ setting.longName
  | .unwantedValue name value => "--" ++ name ++ " takes no value, but '" ++ value ++ "' is given"

/-- Settings whose values are checked. -/
structure Options where
  host : Option String := none
  port : Option UInt16 := none
  user : Option String := none
  zone : Option String := none
  password : Option String := none
  environmentFile : Option String := none
  /-- In seconds. -/
  timeout : Option Nat := none
  deriving DecidableEq, Repr

/-- A number of 16 bits, perhaps with a sign. -/
def readPort? (text : String) : Option UInt16 :=
  ((Text.readInt? text.toList).bind (Text.within? 0 65535)).map fun i => UInt16.ofNat i.toNat

/-- A number of 64 bits, perhaps with a plus sign. -/
def readSeconds? (text : String) : Option Nat :=
  let digits := if text.toList.head? = some '+' then text.toList.drop 1 else text.toList
  ((Text.readNat? digits).bind fun n => Text.within? 0 18446744073709551615 n).map Int.toNat

/-- The name of a file, which is never empty. -/
def readFileName? (text : String) : Option String :=
  if text = "" then none else some text

namespace Options

/-- The setting is given. -/
def has (options : Options) : Setting → Bool
  | .host => options.host.isSome
  | .port => options.port.isSome
  | .user => options.user.isSome
  | .zone => options.zone.isSome
  | .password => options.password.isSome
  | .environmentFile => options.environmentFile.isSome
  | .timeout => options.timeout.isSome

/-- The options with the value of one setting; `none` for a bad value. -/
def put? (options : Options) (value : String) : Setting → Option Options
  | .host => some { options with host := some value }
  | .port => (readPort? value).map fun port => { options with port := some port }
  | .user => some { options with user := some value }
  | .zone => some { options with zone := some value }
  | .password => some { options with password := some value }
  | .environmentFile =>
      (readFileName? value).map fun file => { options with environmentFile := some file }
  | .timeout => (readSeconds? value).map fun n => { options with timeout := some n }

/-- Take the value of a setting that is not given yet. -/
def take (options : Options) (setting : Setting) (value : String) : Except UsageFault Options :=
  if options.has setting then .error (.repeatedSetting setting)
  else
    match options.put? value setting with
    | some options => .ok options
    | none => .error (.badValue setting value)

/-- Fill one gap from the environment. -/
def fill (environment : String → Option String) (options : Options) (setting : Setting) :
    Except UsageFault Options :=
  if options.has setting then .ok options
  else
    match environment setting.variableName with
    | some value => options.take setting value
    | none => .ok options

/-- Fill all gaps from the environment. -/
def complete (options : Options) (environment : String → Option String) :
    Except UsageFault Options :=
  Setting.all.foldlM (fill environment) options

/-- How long to wait for an answer when no setting tells, in seconds. -/
def defaultTimeout : Nat := 10

/-- What the options say about the target. -/
def overrides (options : Options) : Overrides :=
  { host := options.host
    port := options.port
    user := options.user
    zone := options.zone
    timeout := options.timeout.getD defaultTimeout }

end Options

/-! ## Words in front of the command -/

/-- An option without a value. -/
inductive Flag where
  | switch (switch : Switch)
  | help
  deriving DecidableEq, Repr

/-- The flag of a letter. -/
def Flag.ofLetter? (letter : Char) : Option Flag :=
  if letter = 'h' then some .help
  else (Switch.all.find? fun switch => switch.letter? = some letter).map .switch

/-- The flag of a long name. -/
def Flag.ofName? (name : String) : Option Flag :=
  if name = "help" then some .help
  else (Switch.all.find? fun switch => switch.longName = name).map .switch

/-- What a word in front of the command is. -/
inductive Word where
  /-- A bare `--`. -/
  | separator
  | setting (setting : Setting) (attached : Option String)
  /-- One flag by its name, or some by their letters. -/
  | flags (flags : List Flag)
  /-- A flag with a value, which it must not have. -/
  | overfull (name value : String)
  /-- No option. -/
  | plain
  deriving DecidableEq, Repr

namespace Word

/-- A word behind `--`: an option by its name. -/
def ofLong (rest : List Char) : Word :=
  let name := String.ofList (Text.before '=' rest)
  let attached := (Text.cutAt '=' rest).map fun cut => String.ofList cut.2
  match Setting.all.find? fun setting => setting.longName = name with
  | some known => .setting known attached
  | none =>
      match Flag.ofName? name with
      | none => .plain
      | some flag =>
          match attached with
          | some value => .overfull name value
          | none => .flags [flag]

/-- A word behind `-`: flags by their letters, all of which must be known. -/
def ofShort (letters : List Char) : Word :=
  match letters.mapM Flag.ofLetter? with
  | some [] | none => .plain
  | some known => .flags known

/-- What a word is. -/
def ofText (word : String) : Word :=
  match word.toList with
  | ['-', '-'] => .separator
  | '-' :: '-' :: rest => ofLong rest
  | '-' :: rest => ofShort rest
  | _ => .plain

end Word

/-! ## Command lines -/

/-- What a command line gives: options, switches in front of the command, and
the words of the command as they stand. -/
structure Given where
  options : Options := {}
  switches : Switches := {}
  words : List String := []
  deriving DecidableEq, Repr

/-- What a command line asks for. -/
inductive Invocation where
  /-- A description of the options. -/
  | help
  | run (given : Given)
  deriving DecidableEq, Repr

namespace Invocation

/-- Turn flags on; `none` when they ask for help. -/
def turnOn (switches : Switches) : List Flag → Except UsageFault (Option Switches)
  | [] => .ok (some switches)
  | .help :: _ => .ok none
  | .switch switch :: rest =>
      if switches.isOn switch then .error (.repeatedSwitch switch)
      else turnOn (switches.turnOn switch) rest

/-- Refuse a setting that is still waiting for its value. -/
def noneWaiting : Option Setting → Except UsageFault Unit
  | none => .ok ()
  | some setting => .error (.missingValue setting)

/-- Read words in front of the command, where `waiting` is the setting that the
next word may be the value of. -/
def readWords (given : Given) (waiting : Option Setting) :
    List String → Except UsageFault Invocation
  | [] => do
      noneWaiting waiting
      return .run given
  | word :: rest =>
      match Word.ofText word with
      | .separator => do
          noneWaiting waiting
          return .run { given with words := rest }
      | .setting setting attached => do
          noneWaiting waiting
          match attached with
          | none => readWords given (some setting) rest
          | some value =>
              let options ← given.options.take setting value
              readWords { given with options } none rest
      | .flags flags => do
          noneWaiting waiting
          match ← turnOn given.switches flags with
          | none => return .help
          | some switches => readWords { given with switches } none rest
      | .overfull name value => do
          noneWaiting waiting
          throw (.unwantedValue name value)
      | .plain =>
          match waiting with
          | some setting => do
              let options ← given.options.take setting word
              readWords { given with options } none rest
          | none => .ok (.run { given with words := word :: rest })

/-- What a command line asks for. The environment fills the gaps of its options. -/
def read (environment : String → Option String) (arguments : List String) :
    Except UsageFault Invocation := do
  match ← readWords {} none arguments with
  | .help => return .help
  | .run given =>
      let options ← given.options.complete environment
      return .run { given with options }

end Invocation

end GridAdmin.CommandLine
