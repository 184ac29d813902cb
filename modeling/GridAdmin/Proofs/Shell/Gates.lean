import GridAdmin.Proofs.Shell.Dispatched
import GridAdmin.Rehearsal

/-!
# The gates of a session

Four kinds of administrative requests are gated.  Collections are made only with
the switch that allows low-level verbs; removals of resources are marked as tries
where the session asks for it; renames of resources and of the local zone and
changes of data paths are agreed to first; and the name of the session's own zone
is never changed by the plain request for zones.

Most requests are kept off the gates by their first two slots, which are literal
in every layout.  The table of verbs is checked for this once, by a decidable
property of its templates, so that what is typed into the other slots does not
matter.

## Main results

* `guardedHeads_not_proxied`: no template starts like a gated request.
* `respectsGates_of_mayCall`: every verb respects the gates.
* `session_respectsGates`: every request of every session respects the gates.
-/

namespace GridAdmin

open Shell (Event Context State Settings AgreedTo AlwaysAgreed)

/-! ## Gates -/

/-- The request that a call carries to the service. -/
def Call.request? : Call → Option AdminRequest
  | .generalAdmin request | .userAdmin request => some request
  | .simpleQuery _ | .generalQuery _ _ | .modifyReplica _ | .gridConfiguration _ _
  | .disconnect => none

private theorem Call.IsLookUp.request?_eq_none {c : Call} (hLookUp : c.IsLookUp) :
    c.request? = none := by
  cases c with
  | generalAdmin request => exact hLookUp.elim
  | userAdmin request => exact hLookUp.elim
  | _ => rfl

namespace AdminRequest

/-- The first two slots are these words. -/
def StartsWith (request : AdminRequest) (first second : String) : Prop :=
  Slots.get request 0 = first ∧ Slots.get request 1 = second

/-- What has to be agreed to before this request is sent. -/
inductive NeedsAgreement (request : AdminRequest) : String → Prop where
  | renameResource (hStart : request.StartsWith "modify" "resource")
      (hName : Slots.get request 3 = "name") : NeedsAgreement request renamePrompt
  | modifyDataPaths (hStart : request.StartsWith "modify" "resourcedatapaths") :
      NeedsAgreement request dataPathsPrompt
  | renameLocalZone (hStart : request.StartsWith "modify" "localzonename") :
      NeedsAgreement request zoneRenamePrompt

/-- The request, sent behind these events, respects all gates of the session. -/
structure RespectsGates (settings : Settings) (before : List Event) (request : AdminRequest) :
    Prop where
  force : settings.force = false → ¬request.StartsWith "add" "dir"
  dryRun : settings.dryRun = true → request.StartsWith "rm" "resource" →
    Slots.get request 3 = "--dryrun"
  agreed : ∀ prompt, request.NeedsAgreement prompt → AgreedTo prompt before
  ownZone : ¬(request.StartsWith "modify" "zone" ∧ Slots.get request 2 = settings.zone ∧
    Slots.get request 3 = "name")

/-- The first two slots of all gated requests. -/
def guardedHeads : List (String × String) :=
  [("add", "dir"), ("rm", "resource"), ("modify", "resource"), ("modify", "resourcedatapaths"),
    ("modify", "localzonename"), ("modify", "zone")]

variable {settings : Settings} {command : Command} {before : List Event}
  {request : AdminRequest}

/-- The gates concern requests with certain first slots only. -/
theorem respectsGates_of_start
    (hStart : ∀ head ∈ guardedHeads, ¬request.StartsWith head.1 head.2) :
    request.RespectsGates settings before where
  force := fun _ => hStart ("add", "dir") (by simp [guardedHeads])
  dryRun := fun _ hRemove => absurd hRemove (hStart ("rm", "resource") (by simp [guardedHeads]))
  agreed := by
    intro prompt hNeeds
    cases hNeeds with
    | renameResource hRename hName =>
        exact absurd hRename (hStart ("modify", "resource") (by simp [guardedHeads]))
    | modifyDataPaths hPaths =>
        exact absurd hPaths (hStart ("modify", "resourcedatapaths") (by simp [guardedHeads]))
    | renameLocalZone hZone =>
        exact absurd hZone (hStart ("modify", "localzonename") (by simp [guardedHeads]))
  ownZone := fun hZone => hStart ("modify", "zone") (by simp [guardedHeads]) hZone.1

private theorem RespectsGates.surround (hGates : request.RespectsGates settings before)
    (first last : List Event) : request.RespectsGates settings (first ++ before ++ last) where
  force := hGates.force
  dryRun := hGates.dryRun
  agreed := fun prompt hNeeds => (hGates.agreed prompt hNeeds).append_right.append_left
  ownZone := hGates.ownZone

private theorem needsAgreement_iff {prompt : String} :
    request.NeedsAgreement prompt
      ↔ (request.StartsWith "modify" "resource" ∧ Slots.get request 3 = "name" ∧
          prompt = renamePrompt)
        ∨ (request.StartsWith "modify" "resourcedatapaths" ∧ prompt = dataPathsPrompt)
        ∨ (request.StartsWith "modify" "localzonename" ∧ prompt = zoneRenamePrompt) := by
  constructor
  · rintro (⟨hStart, hName⟩ | hStart | hStart)
    · exact Or.inl ⟨hStart, hName, rfl⟩
    · exact Or.inr (Or.inl ⟨hStart, rfl⟩)
    · exact Or.inr (Or.inr ⟨hStart, rfl⟩)
  · rintro (⟨hStart, hName, rfl⟩ | ⟨hStart, rfl⟩ | ⟨hStart, rfl⟩)
    · exact .renameResource hStart hName
    · exact .modifyDataPaths hStart
    · exact .renameLocalZone hStart

@[simp] theorem get_ofValues (values : List String) (index : Nat) :
    Slots.get (ofValues values) index = if index < 10 then values[index]?.getD "" else "" :=
  Slots.get_ofWords values index

@[simp] theorem get_asDryRun (request : AdminRequest) (index : Nat) :
    Slots.get request.asDryRun index
      = if index = 3 then "--dryrun" else Slots.get request index := by
  have hIn : 3 < width := by decide
  simp [asDryRun, Slots.get_set, hIn]

end AdminRequest

/-! ## Templates -/

/-- Some command gives the slot this text. -/
def Source.mayBe (text : String) : Source → Bool
  | .literal other => decide (other = text)
  | .token _ | .sessionZone => true
  | .nothing => decide (text = "")

private theorem Source.mayBe_text (command : Command) (zone : String) (source : Source) :
    source.mayBe (source.text command zone) = true := by
  cases source <;> simp [mayBe, text]

/-- No command gives the template a gated start. -/
def Template.isOffGates (template : Template) : Bool :=
  AdminRequest.guardedHeads.all fun head =>
    !((template.source 0).mayBe head.1 && (template.source 1).mayBe head.2)

/-- The literal slots keep all templates of the table off the gates. -/
theorem guardedHeads_not_proxied :
    ∀ entry ∈ Verb.table, ∀ template, entry.2 = .proxied template →
      template.isOffGates = true := by
  have hTable : (Verb.table.all fun entry =>
      match entry.2 with
      | .proxied template => template.isOffGates
      | .help | .quit | .listing _ | .offline _ | .replica _ | .change _ | .deprecated =>
          true) = true := by
    decide +kernel
  intro entry hEntry template hTemplate
  have hChecked := List.all_eq_true.mp hTable entry hEntry
  rw [hTemplate] at hChecked
  exact hChecked

private theorem Template.not_startsWith {template : Template} (hOff : template.isOffGates = true)
    (command : Command) (zone : String) :
    ∀ head ∈ AdminRequest.guardedHeads,
      ¬(template.render command zone).StartsWith head.1 head.2 := by
  rintro head hHead ⟨hFirst, hSecond⟩
  rw [get_render template command zone (by decide)] at hFirst hSecond
  have hAll := List.all_eq_true.mp hOff head hHead
  rw [← hFirst, ← hSecond, Source.mayBe_text, Source.mayBe_text] at hAll
  cases hAll

/-! ## Verbs -/

/-- All calls of a sent request carry the request itself. -/
private theorem Shell.Act.Makes.eq_of_request? {sent request : AdminRequest} {options : SendOptions}
    {settle : Status → Status} {c : Call} (hMakes : (Act.send sent options settle).Makes c)
    (hRequest : c.request? = some request) : sent = request := by
  cases hMakes <;> exact Option.some.inj hRequest

variable {settings : Settings} {command : Command} {before : List Event} {kind : Change}
  {handler : Handler} {request : AdminRequest}

/-- The requests of the guarded changes respect the gates. -/
private theorem Change.Requests.respectsGates
    (hRequest : kind.Requests settings command before request) :
    request.RespectsGates settings before := by
  cases hRequest with
  | makeDir hForce =>
      constructor
      · intro hOff
        rw [hForce] at hOff
        cases hOff
      all_goals simp [AdminRequest.StartsWith, AdminRequest.needsAgreement_iff]
  | modifyResource value hOption =>
      constructor
      all_goals simp [AdminRequest.StartsWith, AdminRequest.needsAgreement_iff, hOption]
  | renameResource hOption hAgreed =>
      constructor
      all_goals simp [AdminRequest.StartsWith, AdminRequest.needsAgreement_iff, hAgreed]
  | modifyResourceDataPaths hAgreed =>
      constructor
      all_goals simp [AdminRequest.StartsWith, AdminRequest.needsAgreement_iff, hAgreed]
  | removeResource =>
      cases hDryRun : settings.dryRun with
      | true =>
          constructor
          all_goals simp [AdminRequest.StartsWith, AdminRequest.needsAgreement_iff,
            SendOptions.apply]
      | false =>
          constructor
          all_goals simp [AdminRequest.StartsWith, AdminRequest.needsAgreement_iff,
            SendOptions.apply, hDryRun]
  | modifyZone hOther =>
      constructor
      all_goals simp [AdminRequest.StartsWith, AdminRequest.needsAgreement_iff]
      exact fun hZone hName => hOther ⟨hZone, hName⟩
  | renameLocalZone hLocal hAgreed =>
      constructor
      all_goals simp [AdminRequest.StartsWith, AdminRequest.needsAgreement_iff, hAgreed]
  | _ =>
      refine AdminRequest.respectsGates_of_start ?_
      simp [AdminRequest.guardedHeads, AdminRequest.StartsWith]

/-- Every administrative request of every verb respects the gates. -/
theorem respectsGates_of_mayCall {verb : String} {c : Call}
    (hHandler : Verb.handler? verb = some handler)
    (hCall : handler.MayCall settings command before c) (hRequest : c.request? = some request) :
    request.RespectsGates settings before := by
  have hTemplate : ∀ template, handler = .proxied template →
      (template.render command settings.zone).RespectsGates settings before := by
    rintro template rfl
    have hOff := guardedHeads_not_proxied _ (Verb.mem_table_of_handler? hHandler) template rfl
    exact AdminRequest.respectsGates_of_start (template.not_startsWith hOff command settings.zone)
  obtain ⟨act, ⟨-, hActs⟩, hMakes⟩ := hCall
  cases hActs with
  | template template =>
      cases hMakes.eq_of_request? hRequest
      exact hTemplate template rfl
  | resourceTypes =>
      cases hMakes.eq_of_request? hRequest
      refine AdminRequest.respectsGates_of_start ?_
      simp [AdminRequest.guardedHeads, AdminRequest.StartsWith]
  | change hChange =>
      cases hMakes.eq_of_request? hRequest
      exact hChange.respectsGates
  | listing listing hLookUp =>
      cases hMakes
      rw [hLookUp.request?_eq_none] at hRequest
      cases hRequest
  | listReplica query zoneHint =>
      cases hMakes
      cases hRequest
  | modifyReplica hUpdate =>
      cases hMakes
      cases hRequest
  | localZone =>
      cases hMakes
      cases hRequest
  | rodsadmins =>
      cases hMakes
      cases hRequest

/-! ## Sessions -/

namespace Shell

variable {context : Context} {state : State}

/-- In any session, each administrative request respects its gate by what happened
before it in the same dispatch, and in that dispatch no question of the terminal
was answered by anything but an agreement: not by another line, not by the end of
input, not by a failure to read. -/
theorem session_respectsGates {dispatched : List Dispatched}
    (hSession : Session context state dispatched) :
    ∀ d ∈ dispatched, ∀ before c exchange after request,
      d.events = before ++ ⟨Query.call c, exchange⟩ :: after → c.request? = some request →
        request.RespectsGates context.settings before ∧ AlwaysAgreed d.events := by
  intro d hMem before c exchange after request hEvents hRequest
  have hTrace := dispatchTrace_of_trace (hSession.forall_isTrace d hMem)
  obtain ⟨handler, first, middle, hHandler, rfl, hCall, hAgreed⟩ := hTrace.call_split hEvents
  have hGates := respectsGates_of_mayCall hHandler hCall hRequest
  refine ⟨?_, hAgreed⟩
  exact hGates.surround (echoed context.settings d.command) middle

/-- A resource that is renamed after `yes` was typed. -/
theorem respectsGates_of_typed_yes :
    AdminRequest.RespectsGates { zone := "tempZone" }
        [⟨Query.print (.out Action.renameWarning), ()⟩,
          ⟨Query.readLine renamePrompt, .ok (some "yes")⟩,
          ⟨Query.print (.out "OK, performing the resource rename"), ()⟩]
        (.ofValues ["modify", "resource", "demo", "name", "archive"])
      ∧ AlwaysAgreed
        [⟨Query.print (.out Action.renameWarning), ()⟩,
          ⟨Query.readLine renamePrompt, .ok (some "yes")⟩,
          ⟨Query.print (.out "OK, performing the resource rename"), ()⟩,
          ⟨Query.call (.generalAdmin (.ofValues
            ["modify", "resource", "demo", "name", "archive"])), ⟨[], .ok .success⟩⟩] := by
  have hSession := session_dispatchAll
    { settings := { zone := "tempZone" }, user := ⟨"rods", "tempZone"⟩, fuel := 1 }
    Rehearsal.handler [.ofWords ["modresc", "demo", "name", "archive"]] State.initial
    { terminal := { lines := [.ok (some "yes")] }, service := {} }
  exact session_respectsGates hSession _ List.mem_cons_self
    [⟨Query.print (.out Action.renameWarning), ()⟩,
      ⟨Query.readLine renamePrompt, .ok (some "yes")⟩,
      ⟨Query.print (.out "OK, performing the resource rename"), ()⟩]
    (.generalAdmin (.ofValues ["modify", "resource", "demo", "name", "archive"]))
    ⟨[], .ok .success⟩ [] _ rfl rfl

end Shell

end GridAdmin
