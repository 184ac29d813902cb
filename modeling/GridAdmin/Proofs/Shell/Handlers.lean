import GridAdmin.Proofs.Shell.Requests

/-!
# The handlers, one by one

Each handler is gone through once, and the outcome is that it has the phases of a
command and does no more than `Handler.Acts` lists.  Everything that is said later
about the calls of a session, about refused commands, about the error stack and the
status of a command follows from `phased_handle`, and the text of a handler is not
opened for it again.

## Main results

* `Action.phased_confirm_bind`: what is asked about only follows an agreement.
* `Action.phased_handle`: every handler has the phases of a command.
-/

namespace GridAdmin

open Shell (Event Context Settings AgreedTo AlwaysAgreed Act Conclusion)

variable {context : Context} {command : Command}

namespace Action

/-! ## Asking for agreement -/

theorem ensures_confirm {prompt : String} {state : Shell.State}
    {post : List Event → Option (Except ShellError Bool × Shell.State) → Prop} :
    (confirm prompt).Ensures context state post
      ↔ ∀ answer : Except String (Option String),
          post [⟨Shell.Query.readLine prompt, answer⟩]
            (some (match answer with
              | .ok line => .ok (decide (line = some "y" ∨ line = some "yes"))
              | .error cause => .error (.console cause), state)) := by
  unfold confirm readLine
  rw [ensures_bind, ensures_bind, ensures_lift]
  refine (Shell.ensures_ask (.readLine prompt)).trans (forall_congr' fun answer => ?_)
  rcases answer with cause | line
  · simp
  · simp

theorem uses_confirm {prompt : String} (hPrompt : prompt ≠ Shell.commandPrompt) :
    UsesQuiet context (confirm prompt) :=
  uses_bind (uses_readLine hPrompt) fun _ => uses_pure _

/-- Only an agreement leads on to what was asked about. -/
theorem phased_confirm_bind {β : Type} {acts : List Event → Act → Prop} {prompt : String}
    {rest : Bool → Action β} (hPrompt : prompt ≠ Shell.commandPrompt)
    (hYes : ∀ answer, Shell.IsAgreement answer →
      Concludes (acts [⟨Shell.Query.readLine prompt, answer⟩]) context (rest true))
    (hNo : UsesQuiet context (rest false)) : Phased acts context (confirm prompt >>= rest) := by
  refine phased_bind (uses_confirm hPrompt) fun state => ?_
  rw [ensures_confirm]
  rintro (cause | line) agreed after hEnd
  · cases hEnd
  · obtain ⟨rfl, -⟩ : decide (line = some "y" ∨ line = some "yes") = agreed ∧ state = after := by
      simpa using hEnd
    by_cases hAgree : line = some "y" ∨ line = some "yes"
    · have hAnswer : Shell.IsAgreement (.ok line) := hAgree.imp (congrArg _) (congrArg _)
      rw [decide_eq_true hAgree]
      exact phased_of_concludes (hYes (.ok line) hAnswer)
    · rw [decide_eq_false hAgree]
      exact phased_of_quiet hNo

/-! ## Listings -/

end Action

section Texts

variable {user : UserIdentity}

theorem Listing.usersQuery_isListing {name : String} :
    (Call.simpleQuery (usersQuery name)).isListing user = true := by
  unfold usersQuery
  split <;> rfl

theorem Listing.usersOfZoneQuery_isListing {zone name : String} :
    (Call.simpleQuery (usersOfZoneQuery zone name)).isListing user = true := by
  unfold usersOfZoneQuery
  split <;> rfl

private theorem Listing.tokensQuery_isListing {scope name : String} :
    (Call.simpleQuery (tokensQuery scope name)).isListing user = true := by
  unfold tokensQuery
  split
  · rfl
  · split <;> rfl

private theorem Listing.resourcesQuery_isListing {name : String} :
    (Call.simpleQuery (resourcesQuery name)).isListing user = true := by
  unfold resourcesQuery
  split <;> rfl

private theorem Listing.zonesQuery_isListing {name : String} :
    (Call.simpleQuery (zonesQuery name)).isListing user = true := by
  unfold zonesQuery
  split <;> rfl

theorem Listing.userAuthQuery_isListing {target : Option (String × String)} :
    (Call.simpleQuery (userAuthQuery target)).isListing user = true := by
  unfold userAuthQuery
  split
  · rfl
  · split <;> rfl

theorem Listing.resourceQuota_isListing {target : Option (String × String)} :
    (Call.simpleQuery (quotaQuery resourceQuotaSql target)).isListing user = true := by
  cases target <;> rfl

theorem Listing.globalQuota_isListing {target : Option (String × String)} :
    (Call.simpleQuery (quotaQuery globalQuotaSql target)).isListing user = true := by
  cases target <;> rfl

/-- The queries for groups are told from the checks by their first words. -/
theorem Listing.groupQuery_isListing {group : String} :
    (Call.generalQuery (groupQuery group) none).isListing user = true := by
  have hText : ∀ first second : String, first.toList ≠ second.toList → first ≠ second :=
    fun first second hList hText => hList (congrArg String.toList hText)
  have hType : groupQuery group ≠ Action.userTypeQuery user := by
    refine hText _ _ ?_
    unfold groupQuery Action.userTypeQuery
    split <;> simp
  have hAdmins : groupQuery group ≠ Action.rodsadminQuery := by
    refine hText _ _ ?_
    unfold groupQuery Action.rodsadminQuery
    split <;> simp
  simp [Call.isListing, hType, hAdmins]

end Texts

namespace Action

section Listings

variable {lookUps : Call → Prop}

theorem inquires_query (hLookUp : ∀ c : Call, c.IsLookUp → lookUps c) {query : SimpleQuery}
    (hListing : (Call.simpleQuery query).isListing context.user = true) :
    Inquires lookUps context (runQuery query) :=
  inquires_runQuery hListing fun control => hLookUp (.simpleQuery { query with control }) trivial

/-- Groups that are rejected have the error stack printed before the command ends. -/
theorem inquires_listGroups
    (hGeneral : ∀ query zoneHint, lookUps (.generalQuery query zoneHint)) {group : String} :
    Inquires lookUps context (listGroups group) := by
  have hReply : ∀ reply, (Call.generalQuery (Listing.groupQuery group) none).rejectsListing
      context.user (.ok reply) = reply.status.isRejection := by
    intro reply
    simp [Call.rejectsListing, Listing.groupQuery_isListing]
  refine uses_bind (inquires_requireRodsadmin (hGeneral _ _)) fun _ => ?_
  refine uses_when (fun _ => inquires_print rfl) ?_
  refine inquires_listing (hGeneral _ _) trivial (fun reply hRejected => ?_)
    fun reply hKept => ?_
  · rw [hReply] at hRejected
    have hFailure := (Status.isRejection_iff.mp hRejected).1
    exact ⟨.group, reply.status, hFailure, by
      rw [if_neg (Status.not_empty_of_isRejection hRejected), if_pos hFailure]⟩
  · rw [hReply] at hKept
    refine uses_ite (fun _ => inquires_print rfl) fun hAnswer => ?_
    refine uses_ite (fun hFailure => ?_) fun _ => inquires_printAll
    have hRows : reply.status ≠ .noRowsFound := fun hNone => hAnswer (Or.inl hNone)
    rw [Status.isRejection_iff.mpr ⟨hFailure, hRows⟩] at hKept
    cases hKept

private theorem inquires_delayServerOption {option : String}
    (hOption : lookUps (.gridConfiguration "delay_server" option)) :
    Inquires lookUps context (delayServerOption option) := by
  refine uses_bind (inquires_call hOption trivial fun _ => rfl) fun reply => ?_
  refine uses_ite (fun hFailure => ?_) fun _ => uses_pure _
  refine uses_bind (inquires_print rfl) fun _ => ?_
  exact uses_bind (inquires_remoteFailure hFailure) fun _ => uses_pure _

theorem inquires_showDelayServer
    (hGeneral : ∀ query zoneHint, lookUps (.generalQuery query zoneHint))
    (hOption : ∀ scope option, lookUps (.gridConfiguration scope option)) :
    Inquires lookUps context showDelayServer := by
  refine uses_bind (inquires_requireRodsadmin (hGeneral _ _)) fun _ => ?_
  refine uses_bind (inquires_delayServerOption (hOption _ _)) fun leader => ?_
  exact uses_bind (inquires_delayServerOption (hOption _ _)) fun successor => inquires_print rfl

/-- Both reports of quotas, once it is known whose they are. -/
theorem inquires_quotaReports (hLookUp : ∀ c : Call, c.IsLookUp → lookUps c) {token : String}
    {target : Option (String × String)} :
    Inquires lookUps context (do
      liftM (Shell.print (.out (quotaHeading "Per resource" token)))
      both (runQuery (Listing.quotaQuery Listing.resourceQuotaSql target)) do
        liftM (Shell.print (.out (quotaHeading "\nGlobal (total usage)" token)))
        runQuery (Listing.quotaQuery Listing.globalQuotaSql target)) :=
  uses_bind (inquires_print rfl) fun _ =>
    uses_both (fun _ => ⟨id, id⟩) (inquires_query hLookUp Listing.resourceQuota_isListing)
      (uses_bind (inquires_print rfl) fun _ =>
        inquires_query hLookUp Listing.globalQuota_isListing)

end Listings

/-! ## Refused words -/

section Refused

variable {α β : Type} {acts : List Event → Act → Prop}

theorem phased_refuse {fault : ArgumentFault} :
    Phased acts context (refuse fault : Action α) :=
  phased_of_quiet (uses_refuse rfl)

/-- Nothing follows an action that only refuses. -/
theorem phased_refused_bind {action : Action α} {rest : α → Action β} (fault : ArgumentFault)
    (hRefused : ∀ state, action.Ensures context state fun events last =>
      events = [] ∧ last = some (.error (.invalidArgument fault), state)) :
    Phased acts context (action >>= rest) := by
  have hFail : Shell.Effect.IsQuiet (.fail (.invalidArgument fault)) := rfl
  intro state
  rw [ensures_bind]
  refine (hRefused state).mono ?_
  rintro events last ⟨rfl, rfl⟩
  exact .quiet (.stop hFail (.fail _ state fun _ => nofun))

theorem resolveUser_of_none {token : String} (hSplit : splitUserName? token = none) :
    resolveUser token = refuse .userName := by
  unfold resolveUser
  rw [hSplit]

end Refused

/-! ## Phases of listings -/

section Listings

variable {acts : List Event → Act → Prop}
  (hLookUp : ∀ c : Call, c.IsLookUp → acts [] (.lookUp c))

include hLookUp

theorem phased_query {query : SimpleQuery}
    (hListing : (Call.simpleQuery query).isListing context.user = true) :
    Phased acts context (runQuery query) :=
  phased_of_inquires (inquires_query hLookUp hListing)

private theorem phased_listUsers {token : String} : Phased acts context (listUsers token) := by
  unfold listUsers
  cases splitUserName? token with
  | none => exact phased_refuse
  | some user =>
      exact phased_ite (fun _ => phased_query hLookUp Listing.usersQuery_isListing)
        fun _ => phased_query hLookUp Listing.usersOfZoneQuery_isListing

private theorem phased_listUserAuth {token : String} :
    Phased acts context (listUserAuth token) := by
  unfold listUserAuth
  refine phased_ite (fun _ => phased_query hLookUp Listing.userAuthQuery_isListing) fun _ => ?_
  cases splitUserName? token with
  | none => exact phased_refuse
  | some user => exact phased_query hLookUp Listing.userAuthQuery_isListing

private theorem phased_listTokens {scope name : String}
    (hTypes : acts [] (.send (.ofValues ["lt", "resc_type"]) {} id)) :
    Phased acts context (listTokens scope name) :=
  phased_ite (fun _ => phased_of_concludes (concludes_invoke hTypes))
    fun _ => phased_query hLookUp Listing.tokensQuery_isListing

/-- A malformed name is refused before the first report. -/
private theorem phased_listQuotas {token : String} : Phased acts context (listQuotas token) := by
  unfold listQuotas
  by_cases hToken : token = ""
  · simp only [hToken, if_true]
    exact phased_of_inquires (uses_bind (uses_pure none) fun target =>
      inquires_quotaReports hLookUp)
  · simp only [hToken, if_false]
    cases hSplit : splitUserName? token with
    | none =>
        refine phased_refused_bind .userName fun state => ?_
        rw [resolveUser_of_none hSplit, ensures_map, ensures_refuse]
        exact ⟨rfl, rfl⟩
    | some user =>
        exact phased_of_inquires (uses_bind
          (uses_map (inquires_resolveUser hSplit (hLookUp _ trivial)))
          fun target => inquires_quotaReports hLookUp)

end Listings

/-- A listing looks things up; the resource types are an administrative request. -/
private theorem phased_list {acts : List Event → Act → Prop} {listing : Listing}
    (hLookUp : ∀ c : Call, c.IsLookUp → acts [] (.lookUp c))
    (hTypes : listing = .tokens → acts [] (.send (.ofValues ["lt", "resc_type"]) {} id)) :
    Phased acts context (list listing command) := by
  cases listing with
  | users => exact phased_listUsers hLookUp
  | usersOfZone => exact phased_query hLookUp Listing.usersOfZoneQuery_isListing
  | tokens => exact phased_listTokens hLookUp (hTypes rfl)
  | resources => exact phased_query hLookUp Listing.resourcesQuery_isListing
  | zones => exact phased_query hLookUp Listing.zonesQuery_isListing
  | groups =>
      exact phased_of_inquires (inquires_listGroups fun query zoneHint =>
        hLookUp (.generalQuery query zoneHint) trivial)
  | groupDetails =>
      exact phased_ite (fun _ => phased_refuse)
        fun _ => phased_query hLookUp Listing.usersQuery_isListing
  | userAuth => exact phased_listUserAuth hLookUp
  | userAuthName => exact phased_query hLookUp rfl
  | quotas => exact phased_listQuotas hLookUp
  | delayServer =>
      exact phased_of_inquires (inquires_showDelayServer
        (fun query zoneHint => hLookUp (.generalQuery query zoneHint) trivial)
        fun scope option => hLookUp (.gridConfiguration scope option) trivial)

/-! ## Verbs without the service -/

theorem uses_showQuiet {line : Line} (hPlain : line.isPlain = true) :
    UsesQuiet context (liftM (Shell.print line)) :=
  uses_lift (Shell.uses_print hPlain)

theorem uses_showAllQuiet {texts : List String} :
    UsesQuiet context (liftM (Shell.printAll texts)) :=
  uses_lift (Shell.uses_printAll fun _ => rfl)

theorem uses_warnOfEmptyKey {key : String} : UsesQuiet context (warnOfEmptyKey key) :=
  uses_ite (fun _ => uses_showQuiet rfl) fun _ => uses_pure ()

private theorem uses_scramblePassword {password key : String} :
    UsesQuiet context (scramblePassword password key) :=
  uses_when (fun _ => uses_refuse rfl) (uses_bind uses_warnOfEmptyKey fun _ => uses_showQuiet rfl)

private theorem uses_descramblePassword {scrambled key : String} :
    UsesQuiet context (descramblePassword scrambled key) :=
  uses_when (fun _ => uses_refuse rfl) (uses_bind uses_warnOfEmptyKey fun _ => uses_showQuiet rfl)

private theorem uses_descrambleWords : UsesQuiet context (descrambleWords command) := by
  have hPrompt : "" ≠ Shell.commandPrompt := by decide
  have hPlain : UsesQuiet context readPlainLine :=
    uses_bind (uses_readLine hPrompt) fun _ => uses_pure _
  exact uses_ite
    (fun _ => uses_bind hPlain fun _ => uses_bind hPlain fun _ => uses_descramblePassword)
    fun _ => uses_descramblePassword

private theorem uses_printResult {title : String} {result : Except ArgumentFault String} :
    UsesQuiet context (printResult title result) := by
  cases result with
  | ok text => exact uses_showQuiet rfl
  | error fault => exact uses_refuse rfl

private theorem uses_convertTime : UsesQuiet context (convertTime command) :=
  uses_ite
    (fun _ => uses_bind (uses_lift (Shell.uses_readClock trivial)) fun _ => uses_printResult)
    fun _ => uses_ite (fun _ => uses_printResult) fun _ => uses_printResult

theorem uses_offline {verb : Offline} : UsesQuiet context (offline verb command) := by
  cases verb with
  | scramble => exact uses_scramblePassword
  | descramble => exact uses_descrambleWords
  | convertTime => exact uses_convertTime

end Action

/-! ## Verbs on one replica -/

private theorem DataObject.isWordFault_of_resolve {kind value : String} {e : ShellError}
    (hError : DataObject.resolve kind value = .error e) : e.IsWordFault := by
  unfold DataObject.resolve at hError
  split at hError
  · split at hError <;> cases hError
    trivial
  · split at hError <;> cases hError <;> trivial
  · cases hError
    trivial

private theorem Replica.isWordFault_of_resolve {kind value : String} {e : ShellError}
    (hError : Replica.resolve kind value = .error e) : e.IsWordFault := by
  unfold Replica.resolve at hError
  split at hError
  · split at hError <;> cases hError
    trivial
  · cases hError
  · cases hError
    trivial

/-- Where a composed check failed. -/
theorem error_of_bind {α β : Type} {check : Except ShellError α} {rest : α → Except ShellError β}
    {e : ShellError} (hError : (check >>= rest) = .error e) :
    check = .error e ∨ ∃ value, check = .ok value ∧ rest value = .error e := by
  cases check with
  | error cause =>
      have hSame : (Except.error cause : Except ShellError β) = .error e := hError
      cases hSame
      exact Or.inl rfl
  | ok value => exact Or.inr ⟨value, rfl, hError⟩

private theorem Command.isWordFault_of_requireWords {command : Command} {count : Nat}
    {e : ShellError}
    (hError : command.requireWords count = .error e) : e.IsWordFault := by
  unfold Command.requireWords at hError
  split at hError <;> cases hError
  trivial

theorem Command.isWordFault_of_selection {command : Command} {count : Nat} {e : ShellError}
    (hError : command.selection count = .error e) : e.IsWordFault := by
  unfold Command.selection at hError
  rcases error_of_bind hError with hWords | ⟨_, -, hRest⟩
  · exact isWordFault_of_requireWords hWords
  rcases error_of_bind hRest with hObject | ⟨object, -, hRest⟩
  · exact DataObject.isWordFault_of_resolve hObject
  rcases error_of_bind hRest with hReplica | ⟨replica, -, hPair⟩
  · exact Replica.isWordFault_of_resolve hReplica
  · cases hPair

theorem ReplicaUpdate.isWordFault_of_ofCommand {command : Command} {e : ShellError}
    (hError : ReplicaUpdate.ofCommand command = .error e) : e.IsWordFault := by
  unfold ReplicaUpdate.ofCommand at hError
  rcases error_of_bind hError with hSelection | ⟨⟨object, replica⟩, -, hRest⟩
  · exact Command.isWordFault_of_selection hSelection
  cases hKey : Attribute.modifiable? (command.arg 5) with
  | none =>
      simp only [hKey] at hRest
      cases hRest
      trivial
  | some key =>
      simp only [hKey] at hRest
      cases hRest

namespace Action

/-- An entry that is rejected has the error stack printed before the command ends. -/
private theorem phased_listReplica {acts : List Event → Act → Prop}
    (hGeneral : ∀ query zoneHint, acts [] (.lookUp (.generalQuery query zoneHint))) :
    Phased acts context (listReplica command) := by
  refine phased_result_bind (fun _ => Command.isWordFault_of_selection) fun selected _ => ?_
  obtain ⟨object, replica⟩ := selected
  have hReply : ∀ reply, (Call.generalQuery (Replica.query object replica)
      (some context.user.zone)).rejectsListing context.user (.ok reply)
        = reply.status.isRejection := fun _ => rfl
  refine phased_of_inquires (uses_read_bind ?_)
  refine uses_when (fun _ => inquires_print rfl) ?_
  refine inquires_listing (hGeneral _ _) trivial (fun reply hRejected => ?_)
    fun reply hKept => ?_
  · rw [hReply] at hRejected
    have hFailure := (Status.isRejection_iff.mp hRejected).1
    refine ⟨.replica, reply.status, hFailure, ?_⟩
    rw [if_neg (Status.not_empty_of_isRejection hRejected), if_pos hFailure]
    rfl
  · rw [hReply] at hKept
    refine uses_ite (fun _ => ?_) fun hAnswer => ?_
    · exact inquires_throw_bind rfl (Or.inl rfl)
    refine uses_ite (fun hFailure => ?_) fun _ => inquires_printAll
    have hRows : reply.status ≠ .noRowsFound := fun hNone => hAnswer (Or.inl hNone)
    rw [Status.isRejection_iff.mpr ⟨hFailure, hRows⟩] at hKept
    cases hKept

/-- An update is answered with a status, which is reported unless it is a success. -/
private theorem phased_modifyReplica {acts : List Event → Act → Prop}
    (hUpdate : ∀ update, ReplicaUpdate.ofCommand command = .ok update →
      acts [] (.update update)) :
    Phased acts context (modifyReplica command) := by
  refine phased_result_bind (fun _ => ReplicaUpdate.isWordFault_of_ofCommand) fun update hOk => ?_
  refine phased_of_concludes fun state => ?_
  rw [ensures_bind, ensures_call]
  rintro ⟨pushed, e | status⟩
  · exact Conclusion.remote (.unanswered (hUpdate update hOk) pushed e)
  · by_cases hStatus : status = .success
    · subst hStatus
      have hEnd : Conclusion (acts []) state _ _ := .updated (hUpdate update hOk) pushed
      simpa [endingOf] using hEnd.remote
    · have hEnd : Conclusion (acts []) state _ _ :=
        .rejected (hUpdate update hOk) pushed hStatus
      simpa [hStatus, endingOf, Shell.State.push, Shell.shown_cons] using hEnd.remote

/-! ## Changes -/

section Changes

variable {settings : Settings}

/-- What a change may do behind the events of its quiet part. -/
abbrev changeActs (settings : Settings) (command : Command) (kind : Change) :
    List Event → Act → Prop :=
  (Handler.change kind).MayAct settings command

/-- The request of a change that records what it is answered. -/
theorem concludes_sendValues {kind : Change} {before : List Event} {values : List String}
    (hPlainly : kind.sendOptions settings = {}) (hSettle : kind.settle = id)
    (hAgreed : AlwaysAgreed before)
    (hRequest : kind.Requests settings command before (.ofValues values)) :
    Concludes (changeActs settings command kind before) context (sendValues values) := by
  refine concludes_invoke ⟨hAgreed, ?_⟩
  have hAct := Handler.Acts.change hRequest
  rw [hPlainly, hSettle] at hAct
  exact hAct

/-- A change that sends one request at once. -/
theorem phased_sendValues {kind : Change} {values : List String}
    (hPlainly : kind.sendOptions settings = {}) (hSettle : kind.settle = id)
    (hRequest : kind.Requests settings command [] (.ofValues values)) :
    Phased (changeActs settings command kind) context (sendValues values) :=
  phased_of_concludes (concludes_sendValues hPlainly hSettle Shell.alwaysAgreed_nil hRequest)

private theorem inquires_refuseAdminDowngrade {lookUps : Call → Prop} {token name zone : String}
    (hSplit : splitUserName? token = some (name, zone))
    (hZone : lookUps (.simpleQuery localZoneQuery))
    (hQuery : lookUps (.generalQuery rodsadminQuery none)) :
    Inquires lookUps context (refuseAdminDowngrade token) := by
  refine uses_bind (inquires_resolveUser hSplit hZone) fun user => ?_
  refine uses_bind (inquires_call hQuery trivial fun reply => ?_) fun reply => ?_
  · simp [Call.rejectsListing, Call.isListing]
  refine uses_ite (fun _ => uses_pure ()) fun _ => ?_
  refine uses_when (fun hFailure => inquires_remoteFailure hFailure) ?_
  exact uses_ite (fun _ => inquires_throw rfl (Or.inr rfl)) fun _ => uses_pure ()

private theorem uses_scrambleKey : UsesQuiet context scrambleKey := by
  refine uses_read_bind ?_
  cases context.settings.password with
  | some password => exact uses_pure password
  | none => exact uses_readSecret trivial

/-- No line is typed for agreement while the key is found. -/
private theorem ensures_scrambleKey_agreed {state : Shell.State} :
    scrambleKey.Ensures context state fun events _ => AlwaysAgreed events := by
  unfold scrambleKey
  rw [ensures_bind, ensures_read]
  cases hPassword : context.settings.password with
  | some password =>
      simp only [hPassword]
      exact ensures_pure.mpr Shell.alwaysAgreed_nil
  | none =>
      have hSecret : ∀ answer, AlwaysAgreed
          [⟨Shell.Query.readSecret "Enter your current password:", answer⟩] :=
        fun answer => Shell.alwaysAgreed_of_asks (Shell.asks_singleton fun _ => nofun)
      simp only [hPassword]
      unfold readSecret
      rw [ensures_bind, ensures_lift]
      refine (Shell.ensures_ask (.readSecret _)).mpr fun answer => ?_
      rcases answer with cause | line
      · exact ensures_throw.mpr (hSecret _)
      · exact ensures_pure.mpr (hSecret _)

/-- A password may be typed first, and the type of a user is looked up first. -/
private theorem phased_modifyUser :
    Phased (changeActs settings command .modifyUser) context (modifyUser command) := by
  have hSend : ∀ value before, AlwaysAgreed before →
      Concludes (changeActs settings command .modifyUser before) context (sendValues
        ["modify", "user", command.arg 1, command.arg 2, value, command.arg 4, command.arg 5,
          command.arg 6]) :=
    fun value before hAgreed => concludes_sendValues rfl rfl hAgreed (.modifyUser value)
  refine phased_ite (fun _ => ?_) fun _ => phased_ite (fun _ => ?_) fun _ => ?_
  · refine phased_bind (uses_map uses_scrambleKey) fun state => ?_
    rw [ensures_map]
    refine ensures_scrambleKey_agreed.mono fun events last hAgreed value after _ => ?_
    refine phased_of_concludes (hSend value (events ++ []) ?_)
    exact Shell.alwaysAgreed_append_iff.mpr ⟨hAgreed, Shell.alwaysAgreed_nil⟩
  · cases hSplit : splitUserName? (command.arg 1) with
    | none =>
        refine phased_refused_bind .userName fun state => ?_
        unfold refuseAdminDowngrade
        rw [resolveUser_of_none hSplit, ensures_bind, ensures_refuse]
        exact ⟨rfl, rfl⟩
    | some user =>
        refine phased_of_concludes (concludes_bind (inquires_refuseAdminDowngrade hSplit
          (Handler.Acts.first .localZone) (Handler.Acts.first .rodsadmins)) fun _ => ?_)
        exact concludes_bind (uses_pure _) fun _ => hSend _ [] Shell.alwaysAgreed_nil
  · exact phased_of_concludes (concludes_bind (uses_pure _) fun _ =>
      hSend _ [] Shell.alwaysAgreed_nil)

private theorem phased_setQuota {target : QuotaTarget} {kind : Change}
    (hPlainly : kind.sendOptions settings = {}) (hSettle : kind.settle = id)
    (hRequest : kind.Requests settings command []
      (.ofValues ["set-quota", target.kind, command.arg 1, command.arg 2, command.arg 3])) :
    Phased (changeActs settings command kind) context (setQuota target command) := by
  unfold setQuota
  cases missingQuotaWords target command with
  | nil => exact phased_sendValues hPlainly hSettle hRequest
  | cons line rest => exact phased_refuse

/-- Without the switch only the help text is printed. -/
private theorem phased_makeDir :
    Phased (changeActs context.settings command .makeDir) context (makeDir command) :=
  phased_read_bind (phased_ite (fun hForce => phased_sendValues rfl rfl (.makeDir hForce))
    fun _ => phased_of_quiet uses_showAllQuiet)

private theorem phased_makeResource :
    Phased (changeActs settings command .makeResource) context (makeResource command) :=
  phased_of_concludes (concludes_bind inquires_printAll fun _ =>
    concludes_sendValues rfl rfl Shell.alwaysAgreed_nil .makeResource)

/-- The hint about paths stands behind the report. -/
private theorem concludes_sendResourceChange {before : List Event} {name option value : String}
    (hAgreed : AlwaysAgreed before)
    (hRequest : Change.modifyResource.Requests settings command before
      (.ofValues ["modify", "resource", name, option, value])) :
    Concludes (changeActs settings command .modifyResource before) context
      (sendResourceChange name option value) := by
  refine concludes_invoke_bind ⟨hAgreed, .change hRequest⟩ fun status after hStatus => ?_
  subst hStatus
  by_cases hHint : option = "path" ∧ after.lastStatus = .success
  · rw [if_pos hHint]
    exact ensures_lift.mpr (Shell.ensures_print.mpr ⟨[.out pathHint], (), by simp [Line.isPlain],
      rfl, rfl⟩)
  · rw [if_neg hHint]
    exact ensures_pure.mpr ⟨[], (), nofun, rfl, rfl⟩

/-- A change of name is sent after an agreement only. -/
private theorem phased_modifyResource :
    Phased (changeActs settings command .modifyResource) context (modifyResource command) := by
  refine phased_ite (fun hName => phased_print_bind rfl ?_) fun hName => ?_
  · refine phased_confirm_bind (by decide) (fun answer hAnswer => ?_) (uses_showQuiet rfl)
    refine concludes_bind (inquires_print rfl) fun _ => concludes_sendResourceChange ?_ ?_
    · exact Shell.alwaysAgreed_append_iff.mpr
        ⟨Shell.alwaysAgreed_shown, Shell.alwaysAgreed_answer hAnswer⟩
    · exact .renameResource hName (Shell.agreedTo_answer hAnswer).append_right
  · have hSend : ∀ value, Concludes
        (changeActs settings command .modifyResource []) context
        (sendResourceChange (command.arg 1) (command.arg 2) value) := fun value =>
      concludes_sendResourceChange Shell.alwaysAgreed_nil (.modifyResource value hName)
    exact phased_of_concludes (concludes_ite (fun _ => hSend _) fun _ => hSend _)

private theorem phased_modifyResourceDataPaths :
    Phased (changeActs settings command .modifyResourceDataPaths) context
      (modifyResourceDataPaths command) := by
  refine phased_print_bind rfl
    (phased_confirm_bind (by decide) (fun answer hAnswer => ?_) (uses_pure ()))
  refine concludes_bind (inquires_print rfl) fun _ => concludes_sendValues rfl rfl ?_ ?_
  · exact Shell.alwaysAgreed_append_iff.mpr
      ⟨Shell.alwaysAgreed_shown, Shell.alwaysAgreed_answer hAnswer⟩
  · exact .modifyResourceDataPaths (Shell.agreedTo_answer hAnswer).append_right

private theorem phased_removeResource :
    Phased (changeActs context.settings command .removeResource) context
      (removeResource command) :=
  phased_read_bind (phased_of_concludes
    (concludes_invoke (Handler.Acts.change .removeResource).first))

/-- That there was nothing to remove is said behind the report, and is a success. -/
private theorem phased_removeUnusedMetadata :
    Phased (changeActs settings command .removeUnusedMetadata) context removeUnusedMetadata := by
  refine phased_of_concludes (concludes_invoke_bind
    (Handler.Acts.change .removeUnusedMetadata).first fun status after hStatus => ?_)
  subst hStatus
  by_cases hNone : after.lastStatus = .successWithoutInfo
  · simp only [hNone, if_true]
    refine ensures_bind.mpr (ensures_lift.mpr (Shell.ensures_print.mpr ?_))
    refine ensures_lift.mpr (Shell.ensures_record.mpr ?_)
    exact ⟨[.out noUnusedMetadata], (), by simp [Line.isPlain], rfl, by simp [Change.settle]⟩
  · rw [if_neg hNone]
    exact ensures_pure.mpr ⟨[], (), nofun, rfl, by simp [Change.settle, hNone]⟩

/-- The local zone is renamed after an agreement only, and by a request of its
own. -/
private theorem phased_modifyZone :
    Phased (changeActs context.settings command .modifyZone) context (modifyZone command) := by
  refine phased_read_bind (phased_ite (fun hLocal => ?_) fun hOther => ?_)
  · refine phased_confirm_bind (by decide) (fun answer hAnswer => ?_) (uses_showQuiet rfl)
    refine concludes_bind (inquires_print rfl) fun _ => concludes_sendValues rfl rfl ?_ ?_
    · exact Shell.alwaysAgreed_answer hAnswer
    · exact .renameLocalZone hLocal (Shell.agreedTo_answer hAnswer)
  · exact phased_sendValues rfl rfl (.modifyZone hOther)

private theorem phased_change {kind : Change} :
    Phased (changeActs context.settings command kind) context (change kind command) := by
  cases kind with
  | modifyUser => exact phased_modifyUser
  | setUserQuota => exact phased_setQuota rfl rfl .setUserQuota
  | setGroupQuota => exact phased_setQuota rfl rfl .setGroupQuota
  | makeDir => exact phased_makeDir
  | makeResource => exact phased_makeResource
  | modifyResource => exact phased_modifyResource
  | modifyResourceDataPaths => exact phased_modifyResourceDataPaths
  | removeResource => exact phased_removeResource
  | removeUnusedMetadata => exact phased_removeUnusedMetadata
  | modifyZone => exact phased_modifyZone

end Changes

/-! ## All handlers -/

/-- Every handler stays on the terminal first, and then does what it may do. -/
theorem phased_handle {handler : Handler} :
    Phased (handler.MayAct context.settings command) context (handle handler command) := by
  cases handler with
  | help => exact phased_of_quiet uses_showAllQuiet
  | quit => exact phased_of_quiet (uses_pure ())
  | listing listing =>
      refine phased_list (fun c hLookUp => (Handler.Acts.listing listing hLookUp).first) ?_
      rintro rfl
      exact Handler.Acts.first .resourceTypes
  | proxied template =>
      exact phased_read_bind (phased_of_concludes
        (concludes_invoke (Handler.Acts.template template).first))
  | offline verb => exact phased_of_quiet uses_offline
  | replica verb =>
      cases verb with
      | list =>
          exact phased_listReplica fun query zoneHint =>
            (Handler.Acts.listReplica query zoneHint).first
      | modify =>
          exact phased_modifyReplica fun update hUpdate =>
            (Handler.Acts.modifyReplica hUpdate).first
  | change kind => exact phased_change
  | deprecated => exact phased_of_quiet (uses_showQuiet rfl)

end Action

end GridAdmin
