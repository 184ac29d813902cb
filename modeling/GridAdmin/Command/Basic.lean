import GridAdmin.Slots

/-!
# Commands

A command is a row of twenty tokens. The first is the verb, the others are
its positional arguments, and unused tokens are empty. Words past the
twentieth are dropped when a command is built.
-/

namespace GridAdmin

/-- Number of tokens of a command. -/
def Command.width : Nat := 20

/-- A verb and its positional arguments. -/
abbrev Command := Slots Command.width

namespace Command

/-- The command with these words as its leading tokens. -/
def ofWords (words : List String) : Command :=
  Slots.ofWords words

/-- What the end of input stands for. -/
def quit : Command := ofWords ["quit"]

/-- The token at `index`; empty when unused or past the end. -/
def arg (command : Command) (index : Nat) : String :=
  Slots.get command index

/-- The token that selects the handler. -/
def verb (command : Command) : String :=
  command.arg 0

/-- The leading tokens up to the first empty one. -/
def words (command : Command) : List String :=
  Slots.leading command

theorem verb_quit : quit.verb = "quit" := rfl

end Command

end GridAdmin
