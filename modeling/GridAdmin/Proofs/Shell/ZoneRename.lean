import GridAdmin.Proofs.Shell.Downgrade

/-!
# The downgrade guard after a rename of the local zone

The name of the local zone is remembered once it is known, and a rename of the
local zone does not make the shell forget it.  So after a rename the guard of a
bare name still looks for the user in the old zone, if that was remembered when
the rename was sent; only a session that had not asked for the local zone before
looks for the user in the new one.

What the guard does after a rename is therefore decided by the list of
`rodsadmin`s under the zone that was remembered.  A user who is listed under the
new name only is protected exactly if no zone was remembered.

## Main results

* `Session.zone_after_rename`: which zone the guard uses after a rename.
* `noGeneralAdmin_after_rename_iff`: when a change of type is held back.
* `admin_downgraded_after_rename`: a listed `rodsadmin` whose type is changed.
-/

namespace GridAdmin

open Shell (Context State Event Dispatched Session NamesZone LearnsZone)

section Sessions

variable {context : Context} {state : State} {token zone newZone : String}
  {events : List Event} {reply : GeneralReply} {pushed : List Diagnostic}

/-! ## Renames and what the service says afterwards -/

/-- The command renamed the local zone, and the service answered with success. -/
structure RenamesLocalZone (settings : Shell.Settings) (newZone : String) (d : Dispatched) :
    Prop where
  verb : d.command.verb = "modzone"
  zone : d.command.arg 1 = settings.zone
  option : d.command.arg 2 = "name"
  value : d.command.arg 3 = newZone
  succeeded : ∃ pushed,
    (⟨Shell.Query.call (.generalAdmin
        (.ofValues ["modify", "localzonename", settings.zone, newZone])),
      ⟨pushed, .ok .success⟩⟩ : Event) ∈ d.events

/-- Whenever the service was asked for the local zone, it named this one. -/
def NamesOnly (zone : String) (events : List Event) : Prop :=
  ∀ exchange, (⟨Shell.Query.call localZoneCall, exchange⟩ : Event) ∈ events →
    ∃ reply, exchange.result = .ok reply ∧ reply.status.isFailure = false ∧
      Action.zoneOfPage reply.outBuf = zone

theorem NamesOnly.eq (hOnly : NamesOnly newZone events) (hNames : NamesZone events zone) :
    zone = newZone := by
  obtain ⟨pushed, reply, hEvent, -, rfl⟩ := hNames
  obtain ⟨named, hNamed, -, hZone⟩ := hOnly _ hEvent
  cases hNamed
  exact hZone

/-- A rename of a zone does not ask for the local zone. -/
private theorem not_namesZone_of_modzone {d : Dispatched} (hVerb : d.command.verb = "modzone")
    (hTrace : d.IsTrace context) : ¬NamesZone d.events zone := by
  rintro ⟨pushed, reply, hEvent, -⟩
  obtain ⟨before, after, hEvents⟩ := List.append_of_mem hEvent
  obtain ⟨handler, first, middle, hHandler, -, hCall, -⟩ :=
    (Shell.dispatchTrace_of_trace hTrace).call_split hEvents
  have hModzone : Verb.handler? "modzone" = some (.change .modifyZone) := by decide +kernel
  rw [hVerb, hModzone] at hHandler
  cases hHandler
  obtain ⟨act, ⟨-, hActs⟩, hMakes⟩ := hCall
  cases hActs
  cases hMakes

private theorem Shell.NamesZone.exists_mem {dispatched : List Dispatched}
    (hNames : NamesZone (dispatched.flatMap Dispatched.events) zone) :
    ∃ d ∈ dispatched, NamesZone d.events zone := by
  obtain ⟨pushed, reply, hEvent, hReply⟩ := hNames
  obtain ⟨d, hMem, hOwn⟩ := List.mem_flatMap.mp hEvent
  exact ⟨d, hMem, pushed, reply, hOwn, hReply⟩

/-- The zone remembered at a command after a rename is the one that was remembered
when the rename was dispatched; if there was none, it is the new name or still
unknown. -/
theorem zone_after_rename {earlier between later : List Dispatched}
    {renamed changed : Dispatched}
    (hSession : Session context state (earlier ++ renamed :: (between ++ changed :: later)))
    (hRename : renamed.command.verb = "modzone")
    (hBetween : ∀ d ∈ between, NamesOnly newZone d.events) :
    changed.before.localZone = renamed.before.localZone
      ∨ renamed.before.localZone = none ∧ changed.before.localZone = some newZone := by
  have hTrace := hSession.forall_isTrace renamed (by simp)
  obtain ⟨-, hFrom⟩ := hSession.learnsZone
  have hOn : Session context renamed.before ((renamed :: between) ++ changed :: later) := hFrom
  rcases hOn.learnsZone.1 with hSame | ⟨hUnknown, zone, hNames, hKnown⟩
  · exact Or.inl hSame
  · obtain ⟨d, hMem, hOwn⟩ := hNames.exists_mem
    rcases List.mem_cons.mp hMem with rfl | hLater
    · exact absurd hOwn (not_namesZone_of_modzone hRename hTrace)
    · rw [(hBetween d hLater).eq hOwn] at hKnown
      exact Or.inr ⟨hUnknown, hKnown⟩

/-! ## What the guard does -/

private theorem splitUserName?_of_bare (hBare : '#' ∉ token.toList) :
    splitUserName? token = some (token, "") := by
  unfold splitUserName?
  rw [Text.cutAt_eq_none_iff.mpr hBare]

/-- A bare name is looked for in the remembered zone, or in the one that the service
names. -/
private theorem Resolves.zone_of_bare {name : String} {after : State}
    (hResolves : Resolves token state events (.ok (name, zone)) after)
    (hBare : '#' ∉ token.toList) (hOnly : NamesOnly newZone events) :
    name = token ∧ zone = state.localZone.getD newZone := by
  obtain ⟨own, hSplit, hZone⟩ := hResolves.effectiveZone
  rw [splitUserName?_of_bare hBare] at hSplit
  cases hSplit
  refine ⟨rfl, ?_⟩
  rcases hZone with ⟨hOwn, -⟩ | ⟨-, hKnown | ⟨hUnknown, hNames⟩⟩
  · exact absurd rfl hOwn
  · rw [hKnown]
    rfl
  · rw [hUnknown, hOnly.eq hNames]
    rfl

/-- The guard of a change of type, and whether the change is sent behind it. -/
private theorem TypeChange.guarded {settings : Shell.Settings} {command : Command}
    {ended? : Option (Outcome × State)} (hType : TypeChange settings command state events ended?)
    (hReply : (⟨Shell.Query.call rodsadminCall, ⟨pushed, .ok reply⟩⟩ : Event) ∈ events) :
    ∃ body result middle tail,
      Guarded (command.arg 1) { state with lastStatus := .success } body result middle ∧
        (⟨Shell.Query.call rodsadminCall, ⟨pushed, .ok reply⟩⟩ : Event) ∈ body ∧
        events = Shell.echoed settings command ++ body ++ tail ∧
        (NoGeneralAdmin events ↔ result ≠ .ok ()) := by
  -- The query is neither the echo nor what follows the guard, so it lies in between.
  have hBetween : ∀ {body tail}, events = Shell.echoed settings command ++ body ++ tail →
      Shell.Asks (fun query => query ≠ .call rodsadminCall) tail →
      (⟨Shell.Query.call rodsadminCall, ⟨pushed, .ok reply⟩⟩ : Event) ∈ body := by
    rintro body tail rfl hTail
    rcases List.mem_append.mp hReply with hFront | hBehind
    · rcases List.mem_append.mp hFront with hEcho | hBody
      · exact absurd rfl (Shell.noCall_echoed _ hEcho rodsadminCall)
      · exact hBody
    · exact absurd rfl (hTail _ hBehind)
  have hShown : ∀ lines, Shell.Asks (fun query => query ≠ .call rodsadminCall)
      (Shell.shown lines) := fun lines => Shell.asks_shown fun line => nofun
  cases hType with
  | refused hGuarded =>
      refine ⟨_, _, _, _, hGuarded, hBetween rfl (hShown _), rfl, ?_⟩
      exact ⟨fun _ => nofun, fun _ => hGuarded.noGeneralAdmin_refused⟩
  | sent hGuarded exchange lines =>
      refine ⟨_, _, _, _, hGuarded, hBetween rfl ?_, rfl, ?_⟩
      · exact List.forall_mem_cons.mpr ⟨nofun, hShown lines⟩
      · refine ⟨fun hNone => ?_, fun hRefused => absurd rfl hRefused⟩
        refine absurd ⟨typeRequest command, rfl⟩ (hNone ⟨.call (.generalAdmin _), exchange⟩ ?_)
        simp

/-- A change of type of a bare name is held back exactly if the answer does not clear
the name in the zone that is remembered. -/
private theorem TypeChange.noGeneralAdmin_iff {settings : Shell.Settings} {command : Command}
    {ended? : Option (Outcome × State)}
    (hType : TypeChange settings command state events ended?)
    (hBare : '#' ∉ (command.arg 1).toList) (hOnly : NamesOnly newZone events)
    (hReply : (⟨Shell.Query.call rodsadminCall, ⟨pushed, .ok reply⟩⟩ : Event) ∈ events) :
    NoGeneralAdmin events
      ↔ ¬ClearingReply (command.arg 1) (state.localZone.getD newZone) reply := by
  obtain ⟨body, result, middle, tail, hGuarded, hInBody, rfl, hSent⟩ := hType.guarded hReply
  obtain ⟨name, zone, first, rest, after, hResolves, rfl, rfl⟩ := hGuarded.verdict_of_mem hInBody
  have hFirst : NamesOnly newZone first := fun exchange hEvent => hOnly exchange (by simp [hEvent])
  obtain ⟨rfl, rfl⟩ := hResolves.zone_of_bare hBare hFirst
  rw [hSent, ne_eq, downgradeVerdict_ok_iff]
  simp

/-- A reply that is no failure clears everybody whom it does not list. -/
private theorem not_clearingReply_iff {name : String} (hOk : reply.status.isFailure = false) :
    ¬ClearingReply name zone reply ↔ ∃ row ∈ reply.rows, Lists name zone row := by
  have hRows : reply.status ≠ .noRowsFound := by
    intro hNone
    rw [hNone] at hOk
    cases hOk
  simp [ClearingReply, hRows, hOk]

/-- The downgrade guard after a rename of the local zone. Suppose the local zone was
renamed in a session, the service names the new zone from then on, and a type other
than `rodsadmin` is later asked for a user who is named without a zone and whom the
answer lists as a `rodsadmin` of the new zone. The change is held back exactly if
the zone that was remembered when the rename was dispatched, if there was one, has
the user listed too. -/
theorem noGeneralAdmin_after_rename_iff {earlier between later : List Dispatched}
    {renamed changed : Dispatched}
    (hSession : Session context state (earlier ++ renamed :: (between ++ changed :: later)))
    (hRename : RenamesLocalZone context.settings newZone renamed)
    (hLater : ∀ d ∈ between ++ [changed], NamesOnly newZone d.events)
    (hChange : changed.command.ChangesType) (hBare : '#' ∉ (changed.command.arg 1).toList)
    (hReply : (⟨Shell.Query.call rodsadminCall, ⟨pushed, .ok reply⟩⟩ : Event) ∈ changed.events)
    (hOk : reply.status.isFailure = false)
    (hListed : ∃ row ∈ reply.rows, Lists (changed.command.arg 1) newZone row) :
    NoGeneralAdmin changed.events
      ↔ ∀ zone, renamed.before.localZone = some zone →
          ∃ row ∈ reply.rows, Lists (changed.command.arg 1) zone row := by
  have hTrace := Shell.dispatchTrace_of_trace (hSession.forall_isTrace changed (by simp))
  have hZone : changed.before.localZone.getD newZone
      = renamed.before.localZone.getD newZone := by
    rcases zone_after_rename hSession hRename.verb
        (fun d hMem => hLater d (List.mem_append_left _ hMem)) with hSame | ⟨hUnknown, hKnown⟩
    · rw [hSame]
    · rw [hUnknown, hKnown]
      rfl
  rw [(hChange.typeChange hTrace).noGeneralAdmin_iff hBare (hLater changed (by simp)) hReply,
    not_clearingReply_iff hOk, hZone]
  cases renamed.before.localZone with
  | none =>
      constructor
      · intro _ zone hZone
        cases hZone
      · intro _
        exact hListed
  | some known =>
      constructor
      · intro hRow zone hZone
        cases hZone
        exact hRow
      · intro hAll
        exact hAll known rfl

end Sessions

/-! ## A session with a remembered zone -/

namespace RememberedZone

/-- A change of type, asked for before and after the rename. -/
def downgrade : Command :=
  .ofWords ["moduser", "ops", "type", "rodsuser"]

/-- A service that has `ops` move from the old zone to the new one, and a terminal
that agrees. -/
def surroundings : Rehearsal where
  terminal := { lines := [.ok (some "y")] }
  service :=
    { simpleQuery := Script.push [] "zone_type_name"
        { reply := some ⟨.success, "tempZone\n", 0⟩ }
      generalQuery := Script.push
        (Script.push [] "USER_TYPE = 'rodsadmin'"
          { reply := some ⟨.success, [["ops", "tempZone"]]⟩ })
        "USER_TYPE = 'rodsadmin'" { reply := some ⟨.success, [["ops", "newZone"]]⟩ } }

/-- The session's own zone is the one that is renamed. -/
def context : Context :=
  { settings := { zone := "tempZone" }, user := ⟨"rods", "tempZone"⟩, fuel := 1 }

/-- Before the rename the guard looks up the local zone and holds the change back. -/
def before : Dispatched where
  command := downgrade
  before := State.initial
  events :=
    [⟨.call localZoneCall, ⟨[], .ok ⟨.success, "tempZone\n", 0⟩⟩⟩,
      ⟨.call rodsadminCall, ⟨[], .ok ⟨.success, [["ops", "tempZone"]]⟩⟩⟩,
      ⟨.print (.commandFailed (.permissionDenied .adminDowngrade)), ()⟩]
  ended? := some (.handled,
    { lastStatus := .notAllowed, localZone := some "tempZone", stack := [] })

/-- The rename is agreed to and succeeds. -/
def renamed : Dispatched where
  command := .ofWords ["modzone", "tempZone", "name", "newZone"]
  before := { lastStatus := .notAllowed, localZone := some "tempZone", stack := [] }
  events :=
    [⟨.readLine zoneRenamePrompt, .ok (some "y")⟩,
      ⟨.print (.out "OK, performing the local zone rename"), ()⟩,
      ⟨.call (.generalAdmin (.ofValues ["modify", "localzonename", "tempZone", "newZone"])),
        ⟨[], .ok .success⟩⟩]
  ended? := some (.handled,
    { lastStatus := .success, localZone := some "tempZone", stack := [] })

/-- After the rename the change is sent, although `ops` is listed in the new zone. -/
def changed : Dispatched where
  command := downgrade
  before := { lastStatus := .success, localZone := some "tempZone", stack := [] }
  events :=
    [⟨.call rodsadminCall, ⟨[], .ok ⟨.success, [["ops", "newZone"]]⟩⟩⟩,
      ⟨.call (.generalAdmin (typeRequest downgrade)), ⟨[], .ok .success⟩⟩]
  ended? := some (.handled,
    { lastStatus := .success, localZone := some "tempZone", stack := [] })

private theorem session :
    Session context State.initial ([before] ++ renamed :: ([] ++ changed :: [])) := by
  have hRun : Shell.dispatchAll Rehearsal.handler context
      [downgrade, renamed.command, downgrade] State.initial surroundings
        = [before] ++ renamed :: ([] ++ changed :: []) := by
    rfl
  rw [← hRun]
  exact Shell.session_dispatchAll context Rehearsal.handler _ State.initial surroundings

end RememberedZone

open RememberedZone in
/-- The guard looks for `ops` in the zone that was remembered, and the `rodsadmin` of
the new zone loses the type. -/
theorem admin_downgraded_after_rename : ¬NoGeneralAdmin changed.events := by
  have hRename : RenamesLocalZone RememberedZone.context.settings "newZone" renamed :=
    ⟨rfl, rfl, rfl, rfl, [], by simp [renamed, RememberedZone.context]⟩
  have hLater : ∀ d ∈ [] ++ [changed], NamesOnly "newZone" d.events := by
    intro d hMem exchange hEvent
    rw [List.mem_singleton.mp hMem] at hEvent
    rcases List.mem_cons.mp hEvent with hQuery | hRest
    · cases hQuery
    · cases List.mem_singleton.mp hRest
  have hChange : changed.command.ChangesType := ⟨rfl, rfl, by decide⟩
  have hListed : ∃ row ∈ [["ops", "newZone"]], Lists "ops" "newZone" row :=
    ⟨_, List.mem_singleton.mpr rfl, rfl, rfl⟩
  have hGuard := noGeneralAdmin_after_rename_iff RememberedZone.session hRename hLater hChange
    (by decide) List.mem_cons_self rfl hListed
  intro hNone
  obtain ⟨row, hRow, -, hZone⟩ := hGuard.mp hNone "tempZone" rfl
  rw [List.mem_singleton.mp hRow] at hZone
  exact absurd hZone (by decide)

end GridAdmin
