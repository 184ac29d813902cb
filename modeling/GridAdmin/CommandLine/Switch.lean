/-!
# Switches

Four switches hold for a whole session. They may stand in front of the command
and also between its words: every word behind the verb that spells a switch is
lifted out of the command, up to the first bare `--`, which is taken out itself
and ends the lifting.

## Main definitions

* `Switches.turnOn`, `Switches.merge`: sets of switches.
* `lift`: the words of a command without its switches, and the switches.
* `Switches.logLevel`: how much is logged.
-/

namespace GridAdmin.CommandLine

/-- A switch of a session. -/
inductive Switch where
  /-- Low-level verbs may run. -/
  | force
  /-- Removals of resources are only tried. -/
  | dryRun
  | verbose
  /-- Commands and queries are shown before they run. -/
  | veryVerbose
  deriving DecidableEq, Repr

/-- All switches. -/
def Switch.all : List Switch := [.force, .dryRun, .verbose, .veryVerbose]

/-- The long spelling of a switch. -/
def Switch.longName : Switch → String
  | .force => "force"
  | .dryRun => "dryrun"
  | .verbose => "verbose"
  | .veryVerbose => "very-verbose"

/-- The letter of a switch, if it has one. -/
def Switch.letter? : Switch → Option Char
  | .force => some 'f'
  | .dryRun => none
  | .verbose => some 'v'
  | .veryVerbose => some 'V'

/-- The spellings of a switch, signs included. -/
def Switch.spellings (switch : Switch) : List String :=
  ("--" ++ switch.longName) ::
    match switch.letter? with
    | some letter => [String.ofList ['-', letter]]
    | none => []

/-- The switch that a word spells. -/
def Switch.ofWord? (word : String) : Option Switch :=
  Switch.all.find? fun switch => switch.spellings.contains word

/-- The switches that are on. -/
structure Switches where
  force : Bool := false
  dryRun : Bool := false
  verbose : Bool := false
  veryVerbose : Bool := false
  deriving DecidableEq, Repr

namespace Switches

/-- The switch is on. -/
def isOn (switches : Switches) : Switch → Bool
  | .force => switches.force
  | .dryRun => switches.dryRun
  | .verbose => switches.verbose
  | .veryVerbose => switches.veryVerbose

/-- Turn a switch on. -/
def turnOn (switches : Switches) : Switch → Switches
  | .force => { switches with force := true }
  | .dryRun => { switches with dryRun := true }
  | .verbose => { switches with verbose := true }
  | .veryVerbose => { switches with veryVerbose := true }

/-- The switches that are on in one of two sets. -/
def merge (first second : Switches) : Switches :=
  { force := first.force || second.force
    dryRun := first.dryRun || second.dryRun
    verbose := first.verbose || second.verbose
    veryVerbose := first.veryVerbose || second.veryVerbose }

theorem isOn_turnOn (switches : Switches) (switch other : Switch) :
    (switches.turnOn switch).isOn other = (decide (other = switch) || switches.isOn other) := by
  cases switch <;> cases other <;> rfl

theorem isOn_merge (first second : Switches) (switch : Switch) :
    (first.merge second).isOn switch = (first.isOn switch || second.isOn switch) := by
  cases switch <;> rfl

/-- The least weight of a message that is logged. Logging itself is left out. -/
def logLevel (switches : Switches) : String :=
  if switches.veryVerbose then "trace" else if switches.verbose then "debug" else "warn"

end Switches

/-! ## Lifting -/

/-- The word that ends the lifting of switches. -/
def separator : String := "--"

/-- Lift switches out of the words behind the verb. -/
def liftBehindVerb : List String → List String × Switches
  | [] => ([], {})
  | word :: rest =>
      if word = separator then (rest, {})
      else
        let lifted := liftBehindVerb rest
        match Switch.ofWord? word with
        | some switch => (lifted.1, lifted.2.turnOn switch)
        | none => (word :: lifted.1, lifted.2)

/-- Lift switches out of the words of a command. Its first word always stays. -/
def lift : List String → List String × Switches
  | [] => ([], {})
  | verb :: rest =>
      let lifted := liftBehindVerb rest
      (verb :: lifted.1, lifted.2)

end GridAdmin.CommandLine
