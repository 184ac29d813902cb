import GridAdmin.Proofs.Shell.Phases
import GridAdmin.Shell.Dispatch

/-!
# What each verb may ask of the service

`Change.Requests` lists the administrative requests of the guarded changes, each
with the condition under which it is sent: a switch of the session, the words of
the command, or an agreement that was typed before.  `Handler.Calls` adds the
requests of the templates and the look-ups, so that it covers every verb.

The tokens of a command are typed freely and stand in these layouts as they are.
That one verb cannot produce the guarded slots of another has to follow from the
literal slots alone.

## Main definitions

* `Shell.AgreedTo`: the terminal agreed to a prompt.
* `Handler.MayAct`, `Handler.MayCall`: the acts and the calls of a handler behind what
  was typed.
-/

namespace GridAdmin

namespace Shell

/-! ## Agreement -/

/-- The only answers of the terminal that agree. -/
def IsAgreement (answer : Except String (Option String)) : Prop :=
  answer = .ok (some "y") ∨ answer = .ok (some "yes")

/-- The terminal agreed to this prompt. -/
def AgreedTo (prompt : String) (events : List Event) : Prop :=
  ∃ answer, IsAgreement answer ∧ (⟨Query.readLine prompt, answer⟩ : Event) ∈ events

/-- Whatever line the terminal was asked for, it agreed. -/
def AlwaysAgreed (events : List Event) : Prop :=
  ∀ prompt answer, (⟨Query.readLine prompt, answer⟩ : Event) ∈ events → IsAgreement answer

theorem agreedTo_answer {prompt : String} {answer : Except String (Option String)}
    (hAnswer : IsAgreement answer) : AgreedTo prompt [⟨Query.readLine prompt, answer⟩] :=
  ⟨answer, hAnswer, List.mem_singleton.mpr rfl⟩

theorem AgreedTo.append_left {prompt : String} {events rest : List Event}
    (hAgreed : AgreedTo prompt events) : AgreedTo prompt (events ++ rest) := by
  obtain ⟨answer, hAnswer, hEvent⟩ := hAgreed
  exact ⟨answer, hAnswer, List.mem_append_left rest hEvent⟩

theorem AgreedTo.append_right {prompt : String} {events rest : List Event}
    (hAgreed : AgreedTo prompt rest) : AgreedTo prompt (events ++ rest) := by
  obtain ⟨answer, hAnswer, hEvent⟩ := hAgreed
  exact ⟨answer, hAnswer, List.mem_append_right events hEvent⟩

@[simp] theorem alwaysAgreed_append_iff {events rest : List Event} :
    AlwaysAgreed (events ++ rest) ↔ AlwaysAgreed events ∧ AlwaysAgreed rest := by
  constructor
  · intro hAll
    constructor
    · intro prompt answer hEvent
      exact hAll prompt answer (List.mem_append_left rest hEvent)
    · intro prompt answer hEvent
      exact hAll prompt answer (List.mem_append_right events hEvent)
  · rintro ⟨hEvents, hRest⟩ prompt answer hEvent
    rcases List.mem_append.mp hEvent with hFirst | hSecond
    · exact hEvents prompt answer hFirst
    · exact hRest prompt answer hSecond

theorem alwaysAgreed_answer {prompt : String} {answer : Except String (Option String)}
    (hAnswer : IsAgreement answer) : AlwaysAgreed [⟨Query.readLine prompt, answer⟩] := by
  intro other otherAnswer hEvent
  cases List.mem_singleton.mp hEvent
  exact hAnswer

/-- Where no line was asked for, nothing was declined. -/
theorem alwaysAgreed_of_asks {events : List Event}
    (hAsks : Asks (fun query => ∀ prompt, query ≠ .readLine prompt) events) :
    AlwaysAgreed events := by
  intro prompt answer hEvent
  exact absurd rfl (hAsks _ hEvent prompt)

theorem alwaysAgreed_nil : AlwaysAgreed [] :=
  alwaysAgreed_of_asks asks_nil

theorem alwaysAgreed_shown {lines : List Line} : AlwaysAgreed (shown lines) :=
  alwaysAgreed_of_asks (asks_shown fun _ _ => nofun)

end Shell

open Shell (Event Context Settings AgreedTo AlwaysAgreed Act Allows)

/-! ## Requests -/

/-- Asked before a resource is renamed. -/
def renamePrompt : String :=
  "Do you really want to modify the resource name? (enter y or yes to do so):"

/-- Asked before data paths are changed. -/
def dataPathsPrompt : String :=
  "Are you sure you want to run this command? [y/N]:"

/-- Asked before the local zone is renamed. -/
def zoneRenamePrompt : String :=
  "Do you really want to modify the local zone name? (enter y or yes to do so):"

/-- The requests of a change, sent behind the events `before` on the terminal. -/
inductive Change.Requests (settings : Settings) (command : Command) (before : List Event) :
    Change → AdminRequest → Prop where
  | modifyUser (value : String) :
      Requests settings command before .modifyUser
        (.ofValues ["modify", "user", command.arg 1, command.arg 2, value, command.arg 4,
          command.arg 5, command.arg 6])
  | setUserQuota :
      Requests settings command before .setUserQuota
        (.ofValues ["set-quota", "user", command.arg 1, command.arg 2, command.arg 3])
  | setGroupQuota :
      Requests settings command before .setGroupQuota
        (.ofValues ["set-quota", "group", command.arg 1, command.arg 2, command.arg 3])
  | makeDir (hForce : settings.force = true) :
      Requests settings command before .makeDir
        (.ofValues ["add", "dir", command.arg 1, command.arg 2])
  | makeResource :
      Requests settings command before .makeResource
        (.ofValues ["add", "resource", command.arg 1, Text.stripBlanks (command.arg 2),
          command.arg 3, command.arg 4, command.arg 5, command.arg 6, command.arg 7,
          command.arg 8])
  | modifyResource (value : String) (hOption : command.arg 2 ≠ "name") :
      Requests settings command before .modifyResource
        (.ofValues ["modify", "resource", command.arg 1, command.arg 2, value])
  | renameResource (hOption : command.arg 2 = "name") (hAgreed : AgreedTo renamePrompt before) :
      Requests settings command before .modifyResource
        (.ofValues ["modify", "resource", command.arg 1, command.arg 2, command.arg 3])
  | modifyResourceDataPaths (hAgreed : AgreedTo dataPathsPrompt before) :
      Requests settings command before .modifyResourceDataPaths
        (.ofValues ["modify", "resourcedatapaths", command.arg 1, command.arg 2,
          command.arg 3, command.arg 4])
  | removeResource :
      Requests settings command before .removeResource
        (SendOptions.apply { dryRun := settings.dryRun }
          (.ofValues ["rm", "resource", command.arg 1, command.arg 2, command.arg 3,
            command.arg 4, command.arg 5, command.arg 6]))
  | removeUnusedMetadata :
      Requests settings command before .removeUnusedMetadata (.ofValues ["rm", "unusedAVUs"])
  | modifyZone (hOther : ¬(command.arg 1 = settings.zone ∧ command.arg 2 = "name")) :
      Requests settings command before .modifyZone
        (.ofValues ["modify", "zone", command.arg 1, command.arg 2, command.arg 3])
  | renameLocalZone (hLocal : command.arg 1 = settings.zone ∧ command.arg 2 = "name")
      (hAgreed : AgreedTo zoneRenamePrompt before) :
      Requests settings command before .modifyZone
        (.ofValues ["modify", "localzonename", command.arg 1, command.arg 3])

/-- How the requests of a change are sent. -/
def Change.sendOptions (settings : Settings) : Change → SendOptions
  | .removeResource => { dryRun := settings.dryRun }
  | .modifyUser | .setUserQuota | .setGroupQuota | .makeDir | .makeResource | .modifyResource
  | .modifyResourceDataPaths | .removeUnusedMetadata | .modifyZone => {}

/-- The status that a change records for the status of its request: that there was no
unused metadata is a success. -/
def Change.settle : Change → Status → Status
  | .removeUnusedMetadata, status => if status = .successWithoutInfo then .success else status
  | _, status => status

/-- What a handler may do behind the events `before` on the terminal. -/
inductive Handler.Acts (settings : Settings) (command : Command) (before : List Event) :
    Handler → Act → Prop where
  | template (template : Template) :
      Acts settings command before (.proxied template)
        (.send (template.render command settings.zone) { fallback := template.fallback } id)
  | resourceTypes :
      Acts settings command before (.listing .tokens)
        (.send (.ofValues ["lt", "resc_type"]) {} id)
  | listing (listing : Listing) {c : Call} (hLookUp : c.IsLookUp) :
      Acts settings command before (.listing listing) (.lookUp c)
  | listReplica (query : String) (zoneHint : Option String) :
      Acts settings command before (.replica .list) (.lookUp (.generalQuery query zoneHint))
  | modifyReplica {update : ReplicaUpdate}
      (hUpdate : ReplicaUpdate.ofCommand command = .ok update) :
      Acts settings command before (.replica .modify) (.update update)
  | change {kind : Change} {request : AdminRequest}
      (hRequest : kind.Requests settings command before request) :
      Acts settings command before (.change kind)
        (.send request (kind.sendOptions settings) kind.settle)
  | localZone :
      Acts settings command before (.change .modifyUser)
        (.lookUp (.simpleQuery Action.localZoneQuery))
  | rodsadmins :
      Acts settings command before (.change .modifyUser)
        (.lookUp (.generalQuery Action.rodsadminQuery none))

/-- The acts of a handler, none of them behind a line that did not agree. -/
def Handler.MayAct (settings : Settings) (command : Command) (handler : Handler)
    (before : List Event) (act : Act) : Prop :=
  AlwaysAgreed before ∧ handler.Acts settings command before act

/-- The calls of a handler, none of them behind a line that did not agree. -/
def Handler.MayCall (settings : Settings) (command : Command) (handler : Handler)
    (before : List Event) : Call → Prop :=
  Allows (handler.MayAct settings command before)

theorem Handler.Acts.first {settings : Settings} {command : Command} {handler : Handler}
    {act : Act} (hActs : handler.Acts settings command [] act) :
    handler.MayAct settings command [] act :=
  ⟨Shell.alwaysAgreed_nil, hActs⟩

end GridAdmin
