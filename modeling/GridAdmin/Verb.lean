import GridAdmin.Command.Basic
import GridAdmin.Service.Request

/-!
# Verbs

The verb of a command selects a handler from a table. Most verbs are no more
than a rearrangement of their tokens into one administrative request; such a
verb is described by a template, which says for each slot of the request where
its text comes from. The other verbs are named by what they do.

## Main results

* `Verb.mem_table_of_handler?`: the handler of a verb is the one of its row.
* `Template.get_render`: what each slot of a rendered request holds.
-/

namespace GridAdmin

/-! ## Templates -/

/-- Where the text of a slot comes from. -/
inductive Source where
  | literal (text : String)
  /-- The token of the command at this index. -/
  | token (index : Nat)
  | nothing
  /-- The zone of the client environment. -/
  | sessionZone
  deriving DecidableEq, Repr

/-- The text of a slot. -/
def Source.text (command : Command) (zone : String) : Source → String
  | .literal text => text
  | .token index => command.arg index
  | .nothing => ""
  | .sessionZone => zone

/-- The layout of a request that a verb maps to. -/
structure Template where
  /-- The sources of the leading slots; further slots stay empty. -/
  leading : List Source
  /-- Try the older form of the request when the general one is not allowed. -/
  fallback : Bool := false
  deriving DecidableEq, Repr

namespace Template

/-- The source of the slot at `index`. -/
def source (template : Template) (index : Nat) : Source :=
  template.leading[index]?.getD .nothing

/-- The request for a command. -/
def render (template : Template) (command : Command) (zone : String) : AdminRequest :=
  .ofValues (template.leading.map fun source => source.text command zone)

theorem get_render (template : Template) (command : Command) (zone : String) {index : Nat}
    (hSlot : index < AdminRequest.width) :
    Slots.get (template.render command zone) index
      = (template.source index).text command zone := by
  rw [render, AdminRequest.ofValues, Slots.get_ofWords, if_pos hSlot, List.getElem?_map, source]
  cases template.leading[index]? <;> rfl

end Template

/-! ## Handlers -/

/-- Listings of the catalog. -/
inductive Listing where
  | users
  | usersOfZone
  | tokens
  | resources
  | zones
  | groups
  | groupDetails
  | userAuth
  | userAuthName
  | quotas
  | delayServer
  deriving DecidableEq, Repr

/-- Changes that need more than one request, or that are refused, asked about or
rearranged depending on their words. -/
inductive Change where
  | modifyUser
  | setUserQuota
  | setGroupQuota
  | makeDir
  | makeResource
  | modifyResource
  | modifyResourceDataPaths
  | removeResource
  | removeUnusedMetadata
  | modifyZone
  deriving DecidableEq, Repr

/-- Verbs that are answered without the service. -/
inductive Offline where
  | scramble
  | descramble
  | convertTime
  deriving DecidableEq, Repr

/-- Verbs on a single replica. -/
inductive ReplicaVerb where
  | list
  | modify
  deriving DecidableEq, Repr

/-- What a verb does. -/
inductive Handler where
  | help
  | quit
  | listing (kind : Listing)
  | proxied (template : Template)
  | offline (verb : Offline)
  | replica (verb : ReplicaVerb)
  | change (kind : Change)
  | deprecated
  deriving DecidableEq, Repr

/-! ## The table -/

namespace Verb

open Source in
/-- A layout of literals and of tokens behind them. -/
def arranged (words : List String) (tokens : List Nat) : List Source :=
  words.map literal ++ tokens.map token

open Source in
/-- Every verb with its handler. -/
def table : List (String × Handler) :=
  [ ("help", .help),
    ("h", .help),
    ("quit", .quit),
    ("q", .quit),
    ("lu", .listing .users),
    ("luz", .listing .usersOfZone),
    ("lt", .listing .tokens),
    ("lr", .listing .resources),
    ("ls", .replica .list),
    ("lz", .listing .zones),
    ("lg", .listing .groups),
    ("lgd", .listing .groupDetails),
    ("lrg", .deprecated),
    ("mkuser", .proxied
      { leading := [literal "add", literal "user", token 1, token 2, nothing, token 3, token 4,
          token 5] }),
    ("moduser", .change .modifyUser),
    ("aua", .proxied
      { leading := [literal "modify", literal "user", token 1, literal "addAuth", token 2,
          token 3, token 4, token 5] }),
    ("rua", .proxied
      { leading := [literal "modify", literal "user", token 1, literal "rmAuth", token 2,
          token 3, token 4, token 5] }),
    ("rpp", .proxied
      { leading := [literal "modify", literal "user", token 1, literal "rmPamPw", token 2,
          token 3, token 4, token 5] }),
    ("lua", .listing .userAuth),
    ("luan", .listing .userAuthName),
    ("cu", .proxied { leading := [literal "calculate-usage"] }),
    ("suq", .change .setUserQuota),
    ("sgq", .change .setGroupQuota),
    ("lq", .listing .quotas),
    ("mkdir", .change .makeDir),
    ("mkresc", .change .makeResource),
    ("addchildtoresc", .proxied { leading := arranged ["add", "childtoresc"] [1, 2, 3] }),
    ("rmchildfromresc", .proxied { leading := arranged ["rm", "childfromresc"] [1, 2] }),
    ("modrescdatapaths", .change .modifyResourceDataPaths),
    ("modresc", .change .modifyResource),
    ("mkzone", .proxied { leading := arranged ["add", "zone"] [1, 2, 3, 4] }),
    ("modzone", .change .modifyZone),
    ("modzonecollacl", .proxied { leading := arranged ["modify", "zonecollacl"] [1, 2, 3] }),
    ("rmzone", .proxied { leading := arranged ["rm", "zone"] [1] }),
    ("mkgroup", .proxied
      { leading := [literal "add", literal "user", token 1, literal "rodsgroup"] }),
    ("rmgroup", .proxied
      { leading := [literal "rm", literal "user", token 1, sessionZone] }),
    ("atg", .proxied
      { leading := [literal "modify", literal "group", token 1, literal "add", token 2, token 3],
        fallback := true }),
    ("rfg", .proxied
      { leading := [literal "modify", literal "group", token 1, literal "remove", token 2,
          token 3],
        fallback := true }),
    ("atrg", .deprecated),
    ("rfrg", .deprecated),
    ("rmresc", .change .removeResource),
    ("rmdir", .proxied { leading := arranged ["rm", "dir"] [1, 2, 3, 4, 5, 6] }),
    ("rmuser", .proxied { leading := arranged ["rm", "user"] [1, 2, 3, 4, 5, 6] }),
    ("at", .proxied { leading := arranged ["add", "token"] [1, 2, 3, 4, 5, 6] }),
    ("rt", .proxied { leading := arranged ["rm", "token"] [1, 2, 3, 4, 5, 6] }),
    ("spass", .offline .scramble),
    ("dspass", .offline .descramble),
    ("ctime", .offline .convertTime),
    ("rum", .change .removeUnusedMetadata),
    ("asq", .proxied { leading := arranged ["add", "specificQuery"] [1, 2] }),
    ("rsq", .proxied { leading := arranged ["rm", "specificQuery"] [1] }),
    ("modrepl", .replica .modify),
    ("get_delay_server_info", .listing .delayServer),
    ("set_delay_server", .proxied { leading := arranged ["set_delay_server"] [1] }) ]

/-- All verbs, in the order of the table. -/
def names : List String := table.map (·.1)

/-- The handler of a verb. -/
def handler? (verb : String) : Option Handler :=
  (table.find? fun entry => decide (entry.1 = verb)).map (·.2)

theorem mem_table_of_handler? {verb : String} {handler : Handler}
    (hHandler : handler? verb = some handler) : (verb, handler) ∈ table := by
  simp only [handler?, Option.map_eq_some_iff] at hHandler
  obtain ⟨entry, hFind, rfl⟩ := hHandler
  have hVerb : entry.1 = verb := by simpa using List.find?_some hFind
  simpa [← hVerb] using List.mem_of_find?_eq_some hFind

end Verb

end GridAdmin
