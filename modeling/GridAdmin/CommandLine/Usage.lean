import GridAdmin.CommandLine.Options

/-!
# The description of the options

What the program prints when it is asked for help by an option. The text is
built from the tables of settings and switches, so it names all of them.
-/

namespace GridAdmin.CommandLine.Usage

/-- The line of a setting. -/
def settingLine (setting : Setting) : String :=
  "      --" ++ setting.longName ++ " <VALUE>  [env: " ++ setting.variableName ++ "]"

/-- The letter of a switch in front of its name. -/
def letterColumn (switch : Switch) : String :=
  match switch.letter? with
  | some letter => "  " ++ String.ofList ['-', letter] ++ ", "
  | none => "      "

/-- What a switch does. -/
def explanation : Switch → String
  | .force => "run low-level verbs such as mkdir"
  | .dryRun => "check resource removal without applying it"
  | .verbose => "log what is done"
  | .veryVerbose => "echo each command and generated query"

/-- The line of a switch. -/
def switchLine (switch : Switch) : String :=
  letterColumn switch ++ "--" ++ switch.longName ++ "  " ++ explanation switch

/-- The description. -/
def lines : List String :=
  ["Administrative shell for a Strata zone", "",
    "Usage: strata-admin [OPTIONS] [COMMAND]...", "", "Options:"]
    ++ Setting.all.map settingLine ++ Switch.all.map switchLine
    ++ ["  -h, --help  print this description"]

end GridAdmin.CommandLine.Usage
