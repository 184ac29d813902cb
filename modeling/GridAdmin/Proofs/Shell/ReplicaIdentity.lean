import GridAdmin.Proofs.Shell.ExitCode

/-!
# The identity of replicas

An update of a replica overwrites attributes in the catalog.  Six attributes say which
replica is meant, and overwriting one of those would move the entry to another replica.
One verb sends updates, and its words go through four checks first: there are enough of
them, they name a data object, they name a replica, and they name an attribute that may
be changed.

The attributes travel as a map, beside the key that asks for administrator rights.  No
attribute is known under that key, so neither of the two entries takes the other's place.

## Main definitions

* `Command.NamesChange`: the words name a replica and an attribute that may be changed.
* `Shell.ProtectsIdentity`: what a command has to do with updates of replicas.

## Main results

* `AttributeMap.entries_ofList_perm`: a map keeps all entries with different keys.
* `ReplicaUpdate.ofCommand_eq_ok_iff`: which commands ask for an update.
* `session_protectsIdentity`: no command of a session changes what identifies a replica.
-/

namespace GridAdmin

/-! ## Maps of attributes -/

namespace AttributeMap

variable {key value : String} {entries : List (String × String)}

/-- A new key is added, and nothing is lost. -/
private theorem insertEntry_perm (hNew : key ∉ entries.map (·.1)) :
    (insertEntry key value entries).Perm ((key, value) :: entries) := by
  induction entries with
  | nil => exact .refl _
  | cons entry rest ih =>
      rw [List.map_cons, List.mem_cons, not_or] at hNew
      obtain ⟨hOther, hRest⟩ := hNew
      unfold insertEntry
      by_cases hBelow : key < entry.1
      · rw [if_pos hBelow]
      · rw [if_neg hBelow, if_neg hOther]
        exact ((ih hRest).cons entry).trans (.swap _ _ _)

/-- Entries with new and different keys are all added. -/
private theorem entries_foldl_insert_perm {older : AttributeMap}
    (hDistinct : (older.entries ++ entries).Pairwise fun x y => x.1 ≠ y.1) :
    (entries.foldl (fun map entry => map.insert entry.1 entry.2) older).entries.Perm
      (older.entries ++ entries) := by
  induction entries generalizing older with
  | nil =>
      rw [List.append_nil]
      exact .refl _
  | cons entry rest ih =>
      have hNew : entry.1 ∉ older.entries.map (·.1) := by
        intro hOld
        obtain ⟨other, hOther, hSame⟩ := List.mem_map.mp hOld
        have hApart := (List.pairwise_append.mp hDistinct).2.2 other hOther entry
        exact hApart List.mem_cons_self hSame
      have hInsert : (older.insert entry.1 entry.2).entries.Perm (entry :: older.entries) :=
        insertEntry_perm hNew
      have hMoved : (older.entries ++ entry :: rest).Perm
          ((older.insert entry.1 entry.2).entries ++ rest) :=
        List.perm_middle.trans (hInsert.symm.append_right rest)
      rw [List.foldl_cons]
      exact (ih (hMoved.pairwise hDistinct fun hApart => Ne.symm hApart)).trans hMoved.symm

/-- Entries with different keys are all kept. -/
theorem entries_ofList_perm (hDistinct : entries.Pairwise fun x y => x.1 ≠ y.1) :
    (ofList entries).entries.Perm entries :=
  entries_foldl_insert_perm hDistinct

end AttributeMap

/-! ## Attributes that may be changed -/

/-- The attributes that may be changed are the known ones that identify no replica. -/
private theorem Attribute.modifiable?_eq_some_iff {column key : String} :
    modifiable? column = some key
      ↔ ∃ a ∈ all, a.column = column ∧ a.column ∉ identifying ∧ a.key = key := by
  have hTable : ∀ a ∈ all, modifiable? a.column
      = if a.column ∈ identifying then none else some a.key := by
    decide +kernel
  constructor
  · intro hKey
    obtain ⟨a, hKnown, rfl, -, -⟩ := mem_of_modifiable? hKey
    rw [hTable a hKnown] at hKey
    by_cases hIdentifies : a.column ∈ identifying
    · rw [if_pos hIdentifies] at hKey
      cases hKey
    · rw [if_neg hIdentifies] at hKey
      exact ⟨a, hKnown, rfl, hIdentifies, Option.some.inj hKey⟩
  · rintro ⟨a, hKnown, rfl, hFree, rfl⟩
    rw [hTable a hKnown, if_neg hFree]

/-- The keys of the attributes that identify a replica. -/
def Attribute.identifyingKeys : List String :=
  ["collId", "dataId", "dataMapId", "dataName", "resc_hier", "rescName"]

private theorem Attribute.key_not_mem_identifyingKeys {a : Attribute} (hKnown : a ∈ all)
    (hFree : a.column ∉ identifying) : a.key ∉ identifyingKeys := by
  have hTable : ∀ a ∈ all, a.column ∉ identifying → a.key ∉ identifyingKeys := by
    decide +kernel
  exact hTable a hKnown hFree

/-! ## Commands that ask for an update -/

/-- The words of the command name a replica, and an attribute that may be changed. -/
structure Command.NamesChange (command : Command) (object : DataObject) (replica : Replica)
    (a : Attribute) : Prop where
  words : 7 ≤ command.words.length
  object : DataObject.resolve (command.arg 1) (command.arg 2) = .ok object
  replica : Replica.resolve (command.arg 3) (command.arg 4) = .ok replica
  known : a ∈ Attribute.all
  column : a.column = command.arg 5
  free : a.column ∉ Attribute.identifying

/-- The attributes that a change sends. -/
def Command.changedAttributes (command : Command) (a : Attribute) : AttributeMap :=
  .ofList [(a.key, command.arg 6), (Attribute.adminKey, "")]

theorem Command.entries_changedAttributes {command : Command} {a : Attribute}
    (hKnown : a ∈ Attribute.all) :
    (command.changedAttributes a).entries.Perm
      [(a.key, command.arg 6), (Attribute.adminKey, "")] := by
  apply AttributeMap.entries_ofList_perm
  have hKey : a.key ∈ Attribute.keys := List.mem_map.mpr ⟨a, hKnown, rfl⟩
  have hOther : a.key ≠ Attribute.adminKey := by
    intro hSame
    rw [hSame] at hKey
    exact Attribute.adminKey_not_mem_keys hKey
  simpa using hOther

private theorem Command.requireWords_eq_ok_iff {command : Command} {count : Nat} :
    command.requireWords count = .ok () ↔ count ≤ command.words.length := by
  unfold requireWords
  by_cases hFew : command.words.length < count
  · rw [if_pos hFew]
    exact ⟨nofun, fun hEnough => absurd hFew (Nat.not_lt.mpr hEnough)⟩
  · rw [if_neg hFew]
    exact ⟨fun _ => Nat.not_lt.mp hFew, fun _ => rfl⟩

/-- A composed check passes exactly if both parts do. -/
theorem ok_of_bind_iff {α β : Type} {check : Except ShellError α}
    {rest : α → Except ShellError β} {result : β} :
    (check >>= rest) = .ok result ↔ ∃ value, check = .ok value ∧ rest value = .ok result := by
  cases check with
  | error e => exact ⟨nofun, fun ⟨_, hCheck, _⟩ => nomatch hCheck⟩
  | ok value =>
      exact ⟨fun hRest => ⟨value, rfl, hRest⟩, fun ⟨_, hCheck, hRest⟩ => by
        cases hCheck
        exact hRest⟩

theorem Command.selection_eq_ok_iff {command : Command} {count : Nat} {object : DataObject}
    {replica : Replica} :
    command.selection count = .ok (object, replica) ↔ count ≤ command.words.length ∧
      DataObject.resolve (command.arg 1) (command.arg 2) = .ok object ∧
      Replica.resolve (command.arg 3) (command.arg 4) = .ok replica := by
  unfold selection
  simp only [ok_of_bind_iff]
  constructor
  · rintro ⟨⟨⟩, hWords, ownObject, hObject, ownReplica, hReplica, hPair⟩
    cases hPair
    exact ⟨requireWords_eq_ok_iff.mp hWords, hObject, hReplica⟩
  · rintro ⟨hWords, hObject, hReplica⟩
    exact ⟨(), requireWords_eq_ok_iff.mpr hWords, object, hObject, replica, hReplica, rfl⟩

/-- The words that ask for an update, and what they ask for. -/
theorem ReplicaUpdate.ofCommand_eq_ok_iff {command : Command} {update : ReplicaUpdate} :
    ofCommand command = .ok update ↔ ∃ object replica a,
      command.NamesChange object replica a ∧
        update = ⟨object, replica, command.changedAttributes a⟩ := by
  unfold ofCommand
  rw [ok_of_bind_iff]
  constructor
  · rintro ⟨⟨object, replica⟩, hSelection, hRest⟩
    obtain ⟨hWords, hObject, hReplica⟩ := Command.selection_eq_ok_iff.mp hSelection
    cases hKey : Attribute.modifiable? (command.arg 5) with
    | none =>
        simp only [hKey] at hRest
        cases hRest
    | some key =>
        simp only [hKey] at hRest
        obtain ⟨a, hKnown, hColumn, hFree, rfl⟩ := Attribute.modifiable?_eq_some_iff.mp hKey
        cases hRest
        exact ⟨object, replica, a, ⟨hWords, hObject, hReplica, hKnown, hColumn, hFree⟩, rfl⟩
  · rintro ⟨object, replica, a, hNames, rfl⟩
    have hKey : Attribute.modifiable? (command.arg 5) = some a.key :=
      Attribute.modifiable?_eq_some_iff.mpr ⟨a, hNames.known, hNames.column, hNames.free, rfl⟩
    refine ⟨(object, replica), ?_, ?_⟩
    · exact Command.selection_eq_ok_iff.mpr ⟨hNames.words, hNames.object, hNames.replica⟩
    · simp only [hKey]
      rfl

theorem ShellError.IsWordFault.status_eq {e : ShellError} (hFault : e.IsWordFault) :
    e.status = .invalidInput := by
  cases e with
  | invalidArgument fault => rfl
  | invalidAttribute name => rfl
  | _ => exact hFault.elim

/-! ## The verb that sends updates -/

namespace Action

variable {context : Shell.Context} {state : Shell.State} {command : Command}

/-- Words that ask for no update end the command before anything happens. -/
private theorem ensures_modifyReplica_of_error {e : ShellError}
    (hError : ReplicaUpdate.ofCommand command = .error e) :
    (modifyReplica command).Ensures context state fun events last =>
      events = [] ∧ last = some (.error e, state) := by
  unfold modifyReplica
  rw [ensures_bind, ensures_result, hError]
  exact ⟨rfl, rfl⟩

/-- An update that is asked for is sent, and nothing else is. -/
private theorem ensures_modifyReplica_of_ok {update : ReplicaUpdate}
    (hUpdate : ReplicaUpdate.ofCommand command = .ok update) :
    (modifyReplica command).Ensures context state fun events _ =>
      Shell.callsIn events = [.modifyReplica update] := by
  have hOnly : ∀ (exchange : Exchange (.modifyReplica update)) lines,
      Shell.callsIn (⟨Shell.Query.call (.modifyReplica update), exchange⟩ :: Shell.shown lines)
        = [.modifyReplica update] := by
    intro exchange lines
    rw [Shell.callsIn_cons_call, Shell.callsIn_of_noCall Shell.noCall_shown]
  unfold modifyReplica
  rw [ensures_bind, ensures_result, hUpdate]
  dsimp only
  rw [ensures_bind, ensures_call]
  rintro ⟨pushed, e | status⟩
  · exact hOnly ⟨pushed, .error e⟩ []
  · by_cases hStatus : status = .success
    · simpa [hStatus] using hOnly ⟨pushed, .ok status⟩ []
    · simpa [hStatus, Shell.shown_cons]
        using hOnly ⟨pushed, .ok status⟩
          (.updateFailed status :: Shell.stackLines 0 (state.push pushed).stack)

end Action

namespace Shell

section Dispatches

variable {context : Context} {state : State} {command : Command} {events : List Event}
  {ended? : Option (Outcome × State)}

/-- The dispatch of the verb that sends updates. -/
theorem DispatchTrace.update (hTrace : DispatchTrace context state command events ended?)
    (hVerb : command.verb = "modrepl") :
    (∀ update, ReplicaUpdate.ofCommand command = .ok update →
      callsIn events = [.modifyReplica update]) ∧
    ∀ e, ReplicaUpdate.ofCommand command = .error e →
      NoCall events ∧ ended? = some (.invalid, { state with lastStatus := .invalidInput }) := by
  obtain ⟨body, last, hBody, rfl, rfl⟩ :=
    hTrace.of_handler (Verb.handler?_modrepl.mpr hVerb) nofun
  constructor
  · intro update hUpdate
    rw [callsIn_dispatched, Action.ensures_modifyReplica_of_ok hUpdate body last hBody]
  · intro e hError
    obtain ⟨rfl, rfl⟩ := Action.ensures_modifyReplica_of_error hError body last hBody
    have hFault := ReplicaUpdate.isWordFault_of_ofCommand hError
    refine ⟨?_, ?_⟩
    · simp only [NoCall, asks_append_iff]
      exact ⟨⟨noCall_echoed, asks_nil⟩, noCall_shown⟩
    · rw [endOf, failureOutcome_eq_invalid_iff.mpr hFault.isLocal, hFault.status_eq]

/-- No other verb sends updates. -/
private theorem DispatchTrace.verb_of_update
    (hTrace : DispatchTrace context state command events ended?)
    {update : ReplicaUpdate} (hCall : Call.modifyReplica update ∈ callsIn events) :
    command.verb = "modrepl" := by
  obtain ⟨exchange, hEvent⟩ := mem_callsIn_iff.mp hCall
  obtain ⟨before, after, hEvents⟩ := List.append_of_mem hEvent
  obtain ⟨handler, first, middle, hHandler, -, ⟨act, hAct, hMakes⟩, -⟩ := hTrace.call_split hEvents
  cases hMakes with
  | lookUp =>
      cases hAct.2 with
      | listing _ hLookUp => exact hLookUp.elim
  | update update => exact hAct.2.verb_eq_modrepl hHandler

/-! ## Commands and sessions -/

/-- What a command has to do with updates of replicas. -/
structure ProtectsIdentity (d : Dispatched) : Prop where
  /-- An update is sent exactly for the one verb, with words that name a change. -/
  updates_iff : (∃ update, Call.modifyReplica update ∈ callsIn d.events) ↔
    d.command.verb = "modrepl" ∧
      ∃ object replica a, d.command.NamesChange object replica a
  /-- Then it is the only call, for the replica that the words name, with the value for the
  attribute and the key that asks for administrator rights. -/
  update : ∀ object replica a, d.command.verb = "modrepl" →
    d.command.NamesChange object replica a →
      ∃ attributes, callsIn d.events = [.modifyReplica ⟨object, replica, attributes⟩] ∧
        attributes.entries.Perm [(a.key, d.command.arg 6), (Attribute.adminKey, "")]
  /-- No update names an attribute that identifies a replica. -/
  keys : ∀ update, Call.modifyReplica update ∈ callsIn d.events →
    ∀ entry ∈ update.attributes.entries, entry.1 ∉ Attribute.identifyingKeys
  /-- With other words the verb is refused. -/
  refused : d.command.verb = "modrepl" →
    (∀ object replica a, ¬d.command.NamesChange object replica a) →
      NoCall d.events ∧
        d.ended? = some (.invalid, { d.before with lastStatus := .invalidInput })

/-- An update that is sent is the one that the words ask for. -/
private theorem DispatchTrace.namesChange_of_update
    (hTrace : DispatchTrace context state command events ended?) {update : ReplicaUpdate}
    (hCall : Call.modifyReplica update ∈ callsIn events) :
    command.verb = "modrepl" ∧ ∃ object replica a, command.NamesChange object replica a ∧
      update = ⟨object, replica, command.changedAttributes a⟩ := by
  have hVerb := hTrace.verb_of_update hCall
  obtain ⟨hSent, hRefused⟩ := hTrace.update hVerb
  refine ⟨hVerb, ?_⟩
  cases hResult : ReplicaUpdate.ofCommand command with
  | error e =>
      rw [callsIn_of_noCall (hRefused e hResult).1] at hCall
      cases hCall
  | ok own =>
      rw [hSent own hResult, List.mem_singleton] at hCall
      cases hCall
      exact ReplicaUpdate.ofCommand_eq_ok_iff.mp hResult

/-- A change that is named is sent. -/
private theorem DispatchTrace.update_of_namesChange
    (hTrace : DispatchTrace context state command events ended?)
    (hVerb : command.verb = "modrepl") {object : DataObject} {replica : Replica} {a : Attribute}
    (hNames : command.NamesChange object replica a) :
    callsIn events = [.modifyReplica ⟨object, replica, command.changedAttributes a⟩] :=
  (hTrace.update hVerb).1 _
    (ReplicaUpdate.ofCommand_eq_ok_iff.mpr ⟨object, replica, a, hNames, rfl⟩)

private theorem Command.key_of_mem_changedAttributes {command : Command} {a : Attribute}
    (hKnown : a ∈ Attribute.all) (hFree : a.column ∉ Attribute.identifying)
    {entry : String × String} (hEntry : entry ∈ (command.changedAttributes a).entries) :
    entry.1 ∉ Attribute.identifyingKeys := by
  have hTwo := (Command.entries_changedAttributes hKnown).mem_iff.mp hEntry
  rcases List.mem_cons.mp hTwo with rfl | hLast
  · exact Attribute.key_not_mem_identifyingKeys hKnown hFree
  · rw [List.mem_singleton.mp hLast]
    decide

/-- Whatever is typed and whatever is answered: no command of a session sends an update
that changes what identifies a replica. -/
theorem session_protectsIdentity {dispatched : List Dispatched}
    (hSession : Session context state dispatched) : ∀ d ∈ dispatched, ProtectsIdentity d := by
  intro d hMem
  have hTrace := dispatchTrace_of_trace (hSession.forall_isTrace d hMem)
  refine ⟨⟨?_, ?_⟩, ?_, ?_, ?_⟩
  · rintro ⟨update, hCall⟩
    obtain ⟨hVerb, object, replica, a, hNames, -⟩ := hTrace.namesChange_of_update hCall
    exact ⟨hVerb, object, replica, a, hNames⟩
  · rintro ⟨hVerb, object, replica, a, hNames⟩
    rw [hTrace.update_of_namesChange hVerb hNames]
    exact ⟨_, List.mem_singleton.mpr rfl⟩
  · intro object replica a hVerb hNames
    exact ⟨_, hTrace.update_of_namesChange hVerb hNames,
      Command.entries_changedAttributes hNames.known⟩
  · intro update hCall entry hEntry
    obtain ⟨-, object, replica, a, hNames, rfl⟩ := hTrace.namesChange_of_update hCall
    exact Command.key_of_mem_changedAttributes hNames.known hNames.free hEntry
  · intro hVerb hOther
    cases hResult : ReplicaUpdate.ofCommand d.command with
    | error e => exact (hTrace.update hVerb).2 e hResult
    | ok update =>
        obtain ⟨object, replica, a, hNames, -⟩ := ReplicaUpdate.ofCommand_eq_ok_iff.mp hResult
        exact absurd hNames (hOther object replica a)

end Dispatches

/-! ## Two updates -/

namespace TwoUpdates

def context : Context :=
  { settings := { zone := "tempZone" }, user := ⟨"rods", "tempZone"⟩, fuel := 1 }

/-- A change of a comment. -/
def comment : Command :=
  .ofWords ["modrepl", "logical_path", "/tempZone//home/./a", "replica_number", "-1",
    "DATA_COMMENTS", "old"]

/-- A change of a name. -/
def rename : Command :=
  .ofWords ["modrepl", "data_id", "10042", "resource_hierarchy", "demoResc", "DATA_NAME", "b"]

/-- Both commands, one after the other. -/
def dispatched : List Dispatched :=
  dispatchAll Rehearsal.handler context [comment, rename] State.initial
    { terminal := {}, service := {} }

end TwoUpdates

open TwoUpdates in
/-- The first is sent, and the second is refused. -/
theorem protectsIdentity_of_rename : ∃ first second, dispatched = [first, second] ∧
    (∃ attributes, callsIn first.events = [.modifyReplica
        ⟨.atPath "/tempZone/home/a", .numbered (-1), attributes⟩] ∧
      attributes.entries.Perm [("dataComments", "old"), ("irodsAdmin", "")]) ∧
    NoCall second.events ∧
      second.ended? = some (.invalid, { second.before with lastStatus := .invalidInput }) := by
  have hAll := session_protectsIdentity (session_dispatchAll context Rehearsal.handler
    [comment, rename] State.initial { terminal := {}, service := {} })
  refine ⟨_, _, rfl, ?_, ?_⟩
  · refine (hAll _ (List.mem_cons_self ..)).update _ _
      ⟨"DATA_COMMENTS", "dataComments", false⟩ rfl ?_
    exact ⟨by decide, rfl, rfl, by decide, rfl, by decide⟩
  · refine (hAll _ (List.mem_cons_of_mem _ (List.mem_cons_self ..))).refused rfl ?_
    intro object replica a hNames
    have hColumn : a.column = "DATA_NAME" := hNames.column
    have hFree := hNames.free
    rw [hColumn] at hFree
    exact hFree (by decide)

end Shell

end GridAdmin
