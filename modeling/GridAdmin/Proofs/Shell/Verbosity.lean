import GridAdmin.Proofs.CommandLine.OfflineVerbs
import GridAdmin.Proofs.Shell.ExitCode

/-!
# What a very verbose session adds

A very verbose session shows each command before it runs, and the listing of a replica
shows its query as well.  That is all it may do: whoever turns the switch on to watch a
session must not watch another session.  So the statement here compares two runs, with the
switch on and with it off, and everything but the lines that are shown has to be the same.

The two runs are compared as programs, before anything is answered.  A step is `Oblivious`
when the switch makes no difference to its program, and this passes through all the ways
in which steps are put together.  Every handler is oblivious except the listing of a
replica, and there the query is the first thing that is printed.  Hence a dispatched command
is the same program in both sessions, with the added lines in front of it.

A connection and a console know nothing of what is printed, and `Peers` is what they
are.  In front of them the same program takes the same course.

## Main definitions

* `Shell.Oblivious`, `Action.Oblivious`: the switch makes no difference.
* `Shell.verboseLines`: the lines that a very verbose session adds to a command.
* `Shell.Peers`: a connection and a console.

## Main results

* `Action.oblivious_handle`: the handlers that overlook the switch.
* `Shell.toProc_dispatch_setVeryVerbose`: a dispatched command with the switch on and off.
* `Shell.veryVerbose_only_shows`: the same session, with lines added in front of its commands.
-/

namespace GridAdmin

namespace Shell

/-- The same session, very verbose or not. -/
def Context.setVeryVerbose (context : Context) (on : Bool) : Context :=
  { context with settings := { context.settings with veryVerbose := on } }

/-! ## Steps that overlook the switch -/

/-- The step is the same program whether the session is very verbose or not. -/
def Oblivious {α : Type} (step : Shell α) : Prop :=
  ∀ context state on, toProc step (context.setVeryVerbose on) state = toProc step context state

section Steps

variable {α β : Type}

theorem oblivious_pure (value : α) : Oblivious (pure value) :=
  fun _ _ _ => rfl

theorem oblivious_bind {step : Shell α} {rest : α → Shell β} (hStep : Oblivious step)
    (hRest : ∀ value, Oblivious (rest value)) : Oblivious (step >>= rest) := by
  intro context state on
  rw [toProc_bind, toProc_bind, hStep context state on]
  congr 1
  funext ended
  exact hRest ended.1 context ended.2 on

theorem oblivious_ite {c : Prop} [Decidable c] {first second : Shell α}
    (hFirst : Oblivious first) (hSecond : Oblivious second) :
    Oblivious (if c then first else second) := by
  split
  · exact hFirst
  · exact hSecond

theorem oblivious_ask (query : Query) : Oblivious (ask query) :=
  fun _ _ _ => rfl

theorem oblivious_get : Oblivious (get : Shell State) :=
  fun _ _ _ => rfl

theorem oblivious_modify (change : State → State) : Oblivious (modify change : Shell PUnit) :=
  fun _ _ _ => rfl

theorem oblivious_outOfFuel : Oblivious (outOfFuel : Shell α) :=
  fun _ _ _ => rfl

theorem oblivious_print (line : Line) : Oblivious (print line) :=
  oblivious_ask (.print line)

theorem oblivious_printAll (texts : List String) : Oblivious (printAll texts) := by
  induction texts with
  | nil => exact oblivious_pure ()
  | cons text rest ih => exact oblivious_bind (oblivious_print _) fun _ => ih

theorem oblivious_printLines (lines : List Line) : Oblivious (printLines lines) := by
  induction lines with
  | nil => exact oblivious_pure ()
  | cons line rest ih => exact oblivious_bind (oblivious_print _) fun _ => ih

theorem oblivious_printDiagnostics (level : Nat) (stack : ErrorStack) :
    Oblivious (printDiagnostics level stack) := by
  induction stack generalizing level with
  | nil => exact oblivious_pure ()
  | cons diagnostic rest ih => exact oblivious_bind (oblivious_print _) fun _ => ih (level + 1)

theorem oblivious_drain : Oblivious drain :=
  oblivious_bind oblivious_get fun state =>
    oblivious_bind (oblivious_printDiagnostics 0 state.stack) fun _ => oblivious_modify _

theorem oblivious_record (status : Status) : Oblivious (record status) :=
  oblivious_modify _

theorem oblivious_call (c : Call) : Oblivious (call c) :=
  oblivious_bind (oblivious_ask (.call c)) fun _ =>
    oblivious_bind (oblivious_modify _) fun _ => oblivious_pure _

theorem oblivious_route (request : AdminRequest) (options : SendOptions) :
    Oblivious (route request options) := by
  refine oblivious_bind (oblivious_call _) fun result => ?_
  cases result with
  | error e => exact oblivious_pure _
  | ok status =>
      exact oblivious_ite (oblivious_bind (oblivious_call _) fun _ => oblivious_pure _)
        (oblivious_pure _)

theorem oblivious_send (request : AdminRequest) (options : SendOptions) :
    Oblivious (send request options) := by
  refine oblivious_bind (oblivious_route _ _) fun routed => ?_
  have hReport : ∀ status, Oblivious (do
      printLines (reportLines routed.1 (options.apply request) status options)
      drain
      return status) := fun status =>
    oblivious_bind (oblivious_printLines _) fun _ =>
      oblivious_bind oblivious_drain fun _ => oblivious_pure status
  obtain ⟨route, e | status⟩ := routed
  · exact oblivious_bind (oblivious_print _) fun _ =>
      oblivious_bind (oblivious_pure e.status) hReport
  · exact oblivious_bind (oblivious_pure status) hReport

theorem oblivious_invoke (request : AdminRequest) (options : SendOptions) :
    Oblivious (invoke request options) :=
  oblivious_bind (oblivious_send _ _) fun _ =>
    oblivious_bind (oblivious_record _) fun _ => oblivious_pure _

theorem oblivious_fail (e : ShellError) : Oblivious (fail e) :=
  oblivious_ite
    (oblivious_bind (oblivious_print _) fun _ =>
      oblivious_bind (oblivious_record _) fun _ => oblivious_pure _)
    (oblivious_bind (oblivious_record _) fun _ =>
      oblivious_bind (oblivious_print _) fun _ => oblivious_pure _)

end Steps

end Shell

namespace Action

open Shell (Context Oblivious)

/-! ## Actions that overlook the switch -/

/-- The action is the same program whether the session is very verbose or not. -/
def Oblivious {α : Type} (action : Action α) : Prop :=
  Shell.Oblivious action.run

section Rules

variable {α β : Type}

theorem oblivious_pure (value : α) : Oblivious (pure value) :=
  Shell.oblivious_pure _

theorem oblivious_throw (e : ShellError) : Oblivious (throw e : Action α) :=
  Shell.oblivious_pure _

theorem oblivious_refuse (fault : ArgumentFault) : Oblivious (refuse fault : Action α) :=
  oblivious_throw _

theorem oblivious_result (result : Except ShellError α) :
    Oblivious (ExceptT.mk (pure result) : Action α) :=
  Shell.oblivious_pure _

theorem oblivious_bind {action : Action α} {rest : α → Action β} (hAction : Oblivious action)
    (hRest : ∀ value, Oblivious (rest value)) : Oblivious (action >>= rest) := by
  refine @Shell.oblivious_bind _ _ action.run (ExceptT.bindCont rest) hAction fun result => ?_
  cases result with
  | ok value => exact hRest value
  | error e => exact Shell.oblivious_pure _

theorem oblivious_map {action : Action α} (f : α → β) (hAction : Oblivious action) :
    Oblivious (f <$> action) := by
  rw [map_eq_pure_bind]
  exact oblivious_bind hAction fun _ => oblivious_pure _

theorem oblivious_ite {c : Prop} [Decidable c] {first second : Action α}
    (hFirst : Oblivious first) (hSecond : Oblivious second) :
    Oblivious (if c then first else second) := by
  split
  · exact hFirst
  · exact hSecond

/-- What follows an `if` without an alternative follows both of its ways. -/
theorem oblivious_when {c : Prop} [Decidable c] {body : Action α} {rest : Action β}
    (hBody : Oblivious body) (hRest : Oblivious rest) :
    Oblivious (if c then (body >>= fun _ => rest) else rest) :=
  oblivious_ite (oblivious_bind hBody fun _ => hRest) hRest

theorem oblivious_lift {step : Shell α} (hStep : Shell.Oblivious step) :
    Oblivious (liftM step : Action α) :=
  Shell.oblivious_bind hStep fun value =>
    Shell.oblivious_pure (Except.ok value : Except ShellError α)

theorem oblivious_print (line : Line) : Oblivious (liftM (Shell.print line) : Action Unit) :=
  oblivious_lift (Shell.oblivious_print line)

theorem oblivious_printAll (texts : List String) :
    Oblivious (liftM (Shell.printAll texts) : Action Unit) :=
  oblivious_lift (Shell.oblivious_printAll texts)

/-- What reads the session overlooks the switch if it reads something else of it. -/
theorem oblivious_read_bind {rest : Context → Action β}
    (hSame : ∀ (context : Context) on, rest (context.setVeryVerbose on) = rest context)
    (hRest : ∀ context, Oblivious (rest context)) : Oblivious (read >>= rest) := by
  intro context state on
  show Shell.toProc (rest (context.setVeryVerbose on)).run (context.setVeryVerbose on) state
    = Shell.toProc (rest context).run context state
  rw [hSame]
  exact hRest context context state on

theorem oblivious_call (c : Call) : Oblivious (call c) := by
  refine oblivious_bind (oblivious_lift (Shell.oblivious_call c)) fun result => ?_
  cases result with
  | ok reply => exact oblivious_pure _
  | error e => exact oblivious_throw _

theorem oblivious_readLine (prompt : String) : Oblivious (readLine prompt) := by
  refine oblivious_bind (oblivious_lift (Shell.oblivious_ask (.readLine prompt))) fun answer => ?_
  rcases answer with cause | line
  · exact oblivious_throw _
  · exact oblivious_pure line

theorem oblivious_readSecret (prompt : String) : Oblivious (readSecret prompt) := by
  refine oblivious_bind (oblivious_lift (Shell.oblivious_ask (.readSecret prompt)))
    fun answer => ?_
  rcases answer with cause | line
  · exact oblivious_throw _
  · exact oblivious_pure line

theorem oblivious_confirm (prompt : String) : Oblivious (confirm prompt) :=
  oblivious_bind (oblivious_readLine prompt) fun _ => oblivious_pure _

theorem oblivious_both {first second : Action Unit} (hFirst : Oblivious first)
    (hSecond : Oblivious second) : Oblivious (both first second) := by
  refine oblivious_bind (oblivious_lift hFirst) fun firstResult => ?_
  refine oblivious_bind (oblivious_lift hSecond) fun secondResult => ?_
  cases firstResult with
  | ok value => exact oblivious_result _
  | error e => exact oblivious_throw _

end Rules

/-! ## Look-ups -/

theorem oblivious_followPages (fuel : Nat) (query : SimpleQuery) (control : Int32) :
    Oblivious (followPages fuel query control) := by
  induction fuel generalizing query control with
  | zero => exact oblivious_ite (oblivious_lift Shell.oblivious_outOfFuel) (oblivious_pure ())
  | succ fuel ih =>
      refine oblivious_ite (oblivious_bind (oblivious_call _) fun page => ?_) (oblivious_pure ())
      refine oblivious_ite (oblivious_pure ()) (oblivious_when (oblivious_throw _) ?_)
      exact oblivious_bind (oblivious_printAll _) fun _ => ih _ page.control

theorem oblivious_runQuery (query : SimpleQuery) : Oblivious (runQuery query) := by
  refine oblivious_bind (oblivious_call _) fun reply => ?_
  refine oblivious_ite (oblivious_print _) (oblivious_ite ?_ ?_)
  · exact oblivious_bind (oblivious_lift Shell.oblivious_drain) fun _ => oblivious_throw _
  · exact oblivious_bind (oblivious_printAll _) fun _ =>
      oblivious_read_bind (fun _ _ => rfl) fun _ => oblivious_followPages _ _ _

theorem oblivious_localZone : Oblivious localZone := by
  refine oblivious_bind (oblivious_lift Shell.oblivious_get) fun state => ?_
  cases state.localZone with
  | some zone => exact oblivious_pure zone
  | none =>
      refine oblivious_bind (oblivious_call _) fun reply => oblivious_ite ?_ ?_
      · exact oblivious_bind (oblivious_print _) fun _ =>
          oblivious_bind (oblivious_throw _) fun _ => oblivious_bind
            (oblivious_lift (Shell.oblivious_modify _)) fun _ => oblivious_pure _
      · exact oblivious_bind (oblivious_lift (Shell.oblivious_modify _)) fun _ => oblivious_pure _

theorem oblivious_resolveUser (token : String) : Oblivious (resolveUser token) := by
  unfold resolveUser
  split
  · exact oblivious_refuse _
  · exact oblivious_ite (oblivious_bind oblivious_localZone fun _ => oblivious_pure _)
      (oblivious_pure _)

theorem oblivious_requireRodsadmin : Oblivious requireRodsadmin := by
  refine oblivious_read_bind (fun _ _ => rfl) fun context => ?_
  refine oblivious_bind (oblivious_call _) fun reply => oblivious_when (oblivious_throw _) ?_
  cases reply.rows.head?.bind List.head? with
  | none => exact oblivious_throw _
  | some userType => exact oblivious_ite (oblivious_pure ()) (oblivious_throw _)

/-! ## Listings -/

private theorem oblivious_listUsers (token : String) : Oblivious (listUsers token) := by
  unfold listUsers
  split
  · exact oblivious_refuse _
  · exact oblivious_ite (oblivious_runQuery _) (oblivious_runQuery _)

private theorem oblivious_listTokens (scope name : String) : Oblivious (listTokens scope name) :=
  oblivious_ite
    (oblivious_bind (oblivious_lift (Shell.oblivious_invoke _ _)) fun _ => oblivious_pure ())
    (oblivious_runQuery _)

private theorem oblivious_listUserAuth (token : String) : Oblivious (listUserAuth token) := by
  refine oblivious_ite (oblivious_runQuery _) ?_
  split
  · exact oblivious_refuse _
  · exact oblivious_runQuery _

private theorem oblivious_listGroups (group : String) : Oblivious (listGroups group) := by
  refine oblivious_bind oblivious_requireRodsadmin fun _ => oblivious_when (oblivious_print _) ?_
  refine oblivious_bind (oblivious_call _) fun reply => ?_
  refine oblivious_ite (oblivious_print _) (oblivious_ite ?_ (oblivious_printAll _))
  exact oblivious_bind (oblivious_lift Shell.oblivious_drain) fun _ => oblivious_throw _

private theorem oblivious_listQuotas (token : String) : Oblivious (listQuotas token) := by
  have hReports : ∀ target : Option (String × String), Oblivious (do
      liftM (Shell.print (.out (quotaHeading "Per resource" token)))
      both (runQuery (Listing.quotaQuery Listing.resourceQuotaSql target)) do
        liftM (Shell.print (.out (quotaHeading "\nGlobal (total usage)" token)))
        runQuery (Listing.quotaQuery Listing.globalQuotaSql target)) := fun target =>
    oblivious_bind (oblivious_print _) fun _ =>
      oblivious_both (oblivious_runQuery _)
        (oblivious_bind (oblivious_print _) fun _ => oblivious_runQuery _)
  exact oblivious_ite (oblivious_bind (oblivious_pure none) hReports)
    (oblivious_bind (oblivious_map some (oblivious_resolveUser token)) hReports)

private theorem oblivious_delayServerOption (option : String) :
    Oblivious (delayServerOption option) := by
  refine oblivious_bind (oblivious_call _) fun reply => oblivious_ite ?_ (oblivious_pure _)
  exact oblivious_bind (oblivious_print _) fun _ =>
    oblivious_bind (oblivious_throw _) fun _ => oblivious_pure _

private theorem oblivious_showDelayServer : Oblivious showDelayServer :=
  oblivious_bind oblivious_requireRodsadmin fun _ =>
    oblivious_bind (oblivious_delayServerOption _) fun _ =>
      oblivious_bind (oblivious_delayServerOption _) fun _ => oblivious_print _

private theorem oblivious_list (listing : Listing) (command : Command) :
    Oblivious (list listing command) := by
  cases listing with
  | users => exact oblivious_listUsers _
  | usersOfZone => exact oblivious_runQuery _
  | tokens => exact oblivious_listTokens _ _
  | resources => exact oblivious_runQuery _
  | zones => exact oblivious_runQuery _
  | groups => exact oblivious_listGroups _
  | groupDetails => exact oblivious_ite (oblivious_refuse _) (oblivious_runQuery _)
  | userAuth => exact oblivious_listUserAuth _
  | userAuthName => exact oblivious_runQuery _
  | quotas => exact oblivious_listQuotas _
  | delayServer => exact oblivious_showDelayServer

/-! ## Changes -/

theorem oblivious_sendValues (values : List String) : Oblivious (sendValues values) :=
  oblivious_bind (oblivious_lift (Shell.oblivious_invoke _ _)) fun _ => oblivious_pure ()

private theorem oblivious_refuseAdminDowngrade (target : String) :
    Oblivious (refuseAdminDowngrade target) := by
  refine oblivious_bind (oblivious_resolveUser target) fun resolved => ?_
  refine oblivious_bind (oblivious_call _) fun reply => oblivious_ite (oblivious_pure ()) ?_
  exact oblivious_when (oblivious_throw _) (oblivious_ite (oblivious_throw _) (oblivious_pure ()))

private theorem oblivious_scrambleKey : Oblivious scrambleKey := by
  refine oblivious_read_bind (fun _ _ => rfl) fun context => ?_
  cases context.settings.password with
  | some password => exact oblivious_pure _
  | none => exact oblivious_readSecret _

private theorem oblivious_modifyUser (command : Command) : Oblivious (modifyUser command) := by
  have hSend : ∀ sent, Oblivious (sendValues ["modify", "user", command.arg 1, command.arg 2, sent,
      command.arg 4, command.arg 5, command.arg 6]) := fun _ => oblivious_sendValues _
  exact oblivious_ite (oblivious_bind (oblivious_map _ oblivious_scrambleKey) hSend)
    (oblivious_ite
      (oblivious_bind (oblivious_refuseAdminDowngrade _) fun _ =>
        oblivious_bind (oblivious_pure _) hSend)
      (oblivious_bind (oblivious_pure _) hSend))

private theorem oblivious_setQuota (target : QuotaTarget) (command : Command) :
    Oblivious (setQuota target command) := by
  unfold setQuota
  split
  · exact oblivious_sendValues _
  · exact oblivious_refuse _

private theorem oblivious_makeDir (command : Command) : Oblivious (makeDir command) :=
  oblivious_read_bind (fun _ _ => rfl) fun _ =>
    oblivious_ite (oblivious_sendValues _) (oblivious_printAll _)

private theorem oblivious_makeResource (command : Command) : Oblivious (makeResource command) :=
  oblivious_bind (oblivious_printAll _) fun _ => oblivious_sendValues _

private theorem oblivious_sendResourceChange (name option value : String) :
    Oblivious (sendResourceChange name option value) :=
  oblivious_bind (oblivious_lift (Shell.oblivious_invoke _ _)) fun _ =>
    oblivious_ite (oblivious_print _) (oblivious_pure ())

private theorem oblivious_modifyResource (command : Command) :
    Oblivious (modifyResource command) := by
  refine oblivious_ite (oblivious_bind (oblivious_print _) fun _ => ?_)
    (oblivious_ite (oblivious_sendResourceChange _ _ _) (oblivious_sendResourceChange _ _ _))
  exact oblivious_bind (oblivious_confirm _) fun _ =>
    oblivious_ite
      (oblivious_bind (oblivious_print _) fun _ => oblivious_sendResourceChange _ _ _)
      (oblivious_print _)

private theorem oblivious_modifyResourceDataPaths (command : Command) :
    Oblivious (modifyResourceDataPaths command) :=
  oblivious_bind (oblivious_print _) fun _ =>
    oblivious_bind (oblivious_confirm _) fun _ =>
      oblivious_ite (oblivious_bind (oblivious_print _) fun _ => oblivious_sendValues _)
        (oblivious_pure ())

private theorem oblivious_removeResource (command : Command) : Oblivious (removeResource command) :=
  oblivious_read_bind (fun _ _ => rfl) fun _ =>
    oblivious_bind (oblivious_lift (Shell.oblivious_invoke _ _)) fun _ => oblivious_pure ()

private theorem oblivious_removeUnusedMetadata : Oblivious removeUnusedMetadata :=
  oblivious_bind (oblivious_lift (Shell.oblivious_invoke _ _)) fun _ =>
    oblivious_ite
      (oblivious_bind (oblivious_print _) fun _ => oblivious_lift (Shell.oblivious_record _))
      (oblivious_pure ())

private theorem oblivious_modifyZone (command : Command) : Oblivious (modifyZone command) := by
  refine oblivious_read_bind (fun _ _ => rfl) fun _ => oblivious_ite ?_ (oblivious_sendValues _)
  exact oblivious_bind (oblivious_confirm _) fun _ =>
    oblivious_ite (oblivious_bind (oblivious_print _) fun _ => oblivious_sendValues _)
      (oblivious_print _)

private theorem oblivious_change (kind : Change) (command : Command) :
    Oblivious (change kind command) := by
  cases kind with
  | modifyUser => exact oblivious_modifyUser _
  | setUserQuota => exact oblivious_setQuota _ _
  | setGroupQuota => exact oblivious_setQuota _ _
  | makeDir => exact oblivious_makeDir _
  | makeResource => exact oblivious_makeResource _
  | modifyResource => exact oblivious_modifyResource _
  | modifyResourceDataPaths => exact oblivious_modifyResourceDataPaths _
  | removeResource => exact oblivious_removeResource _
  | removeUnusedMetadata => exact oblivious_removeUnusedMetadata
  | modifyZone => exact oblivious_modifyZone _

/-! ## Handlers -/

private theorem oblivious_modifyReplica (command : Command) :
    Oblivious (modifyReplica command) := by
  refine oblivious_bind (oblivious_result _) fun update => ?_
  refine oblivious_bind (oblivious_call _) fun status => ?_
  have hRecord : Oblivious (liftM (Shell.record status)) :=
    oblivious_lift (Shell.oblivious_record _)
  exact oblivious_ite
    (oblivious_bind (oblivious_print _) fun _ =>
      oblivious_bind (oblivious_lift Shell.oblivious_drain) fun _ => hRecord) hRecord

private theorem oblivious_sendTemplate (template : Template) (command : Command) :
    Oblivious (sendTemplate template command) :=
  oblivious_read_bind (fun _ _ => rfl) fun _ =>
    oblivious_bind (oblivious_lift (Shell.oblivious_invoke _ _)) fun _ => oblivious_pure ()

/-- What needs no session at all overlooks what kind of session it is. -/
theorem StandsAlone.oblivious {α : Type} {action : Action α} (hAlone : StandsAlone action) :
    Oblivious action := by
  intro context state on
  rw [hAlone.toProc_eq, hAlone.toProc_eq]

/-- What the listing of a replica does with its query. -/
def showEntry (query zone : String) : Action Unit := do
  let reply ← call (.generalQuery query (some zone))
  if reply.status = .noRowsFound ∨ (reply.status.isSuccess ∧ reply.rows = []) then
    throw .notFound
  if reply.status.isFailure then
    Shell.drain
    throw (.remoteFailure .replica reply.status)
  Shell.printAll (Replica.rowLines reply.rows)

private theorem oblivious_showEntry (query zone : String) : Oblivious (showEntry query zone) := by
  refine oblivious_bind (oblivious_call _) fun reply => oblivious_when (oblivious_throw _) ?_
  exact oblivious_ite
    (oblivious_bind (oblivious_lift Shell.oblivious_drain) fun _ =>
      oblivious_bind (oblivious_throw _) fun _ => oblivious_printAll _)
    (oblivious_printAll _)

/-- All handlers but one overlook the switch. -/
theorem oblivious_handle {handler : Handler} (hHandler : handler ≠ .replica .list)
    (command : Command) : Oblivious (handle handler command) := by
  cases handler with
  | help => exact (standsAlone_handle (Or.inl rfl) command).oblivious
  | quit => exact oblivious_pure ()
  | listing listing => exact oblivious_list listing command
  | proxied template => exact oblivious_sendTemplate template command
  | offline verb => exact (standsAlone_handle (Or.inr ⟨verb, rfl⟩) command).oblivious
  | replica verb =>
      cases verb with
      | list => exact absurd rfl hHandler
      | modify => exact oblivious_modifyReplica command
  | change kind => exact oblivious_change kind command
  | deprecated => exact oblivious_print _

end Action

theorem Verb.handler?_ls {verb : String} :
    Verb.handler? verb = some (.replica .list) ↔ verb = "ls" :=
  Verb.handler?_eq_iff (by decide +kernel) (by decide +kernel)

theorem Verb.ne_ls {verb : String} (hOther : Verb.handler? verb ≠ some (.replica .list)) :
    verb ≠ "ls" :=
  fun hVerb => hOther (handler?_ls.mpr hVerb)

namespace Shell

/-! ## Added lines -/

/-- The text of the query, for a listing of a replica whose words select one. -/
def queryLines (command : Command) : List Line :=
  match command.selection 5 with
  | .ok (object, replica) => [.queryText (Replica.query object replica)]
  | .error _ => []

/-- The lines that a very verbose session adds to a command: the command itself, if there is
one, and behind it the query of an `ls`. -/
def verboseLines (command : Command) : List Line :=
  if command.verb = "" then []
  else .echo command.words :: if command.verb = "ls" then queryLines command else []

/-- A program with lines printed in front of it. -/
def showing {α : Type} (lines : List Line) (p : Proc interface α) : Proc interface α :=
  lines.foldr (fun line rest => .ask (Query.print line) fun _ => rest) p

private theorem showing_bind {α β : Type} (lines : List Line) (p : Proc interface α)
    (f : α → Proc interface β) : (showing lines p >>= f) = showing lines (p >>= f) := by
  induction lines with
  | nil => rfl
  | cons line rest ih =>
      show Proc.ask (Query.print line) (fun _ => showing rest p >>= f) = _
      rw [ih]
      rfl

section Dispatching

variable {context : Context} {state : State} {command : Command} {handler : Handler}

/-- The query is shown before anything is asked of the service. -/
private theorem toProc_listReplica :
    toProc (Action.listReplica command).run (context.setVeryVerbose true) state
      = showing (queryLines command)
          (toProc (Action.listReplica command).run (context.setVeryVerbose false) state) := by
  have hText : Action.listReplica command = (do
      let selected ← ExceptT.mk (pure (command.selection 5))
      let context ← read
      if context.settings.veryVerbose then
        Shell.print (.queryText (Replica.query selected.1 selected.2))
      Action.showEntry (Replica.query selected.1 selected.2) context.user.zone) := rfl
  unfold queryLines
  rw [hText]
  cases hSelection : command.selection 5 with
  | error e => rfl
  | ok selected =>
      obtain ⟨object, replica⟩ := selected
      have hEntry := Action.oblivious_showEntry (Replica.query object replica) context.user.zone
        context state
      show showing [.queryText _]
          (toProc (Action.showEntry _ _).run (context.setVeryVerbose true) state)
        = showing [.queryText _]
          (toProc (Action.showEntry _ _).run (context.setVeryVerbose false) state)
      exact congrArg (showing _) ((hEntry true).trans (hEntry false).symm)

private theorem toProc_runHandler_setVeryVerbose
    (hHandler : Verb.handler? command.verb = some handler) :
    toProc (runHandler handler command) (context.setVeryVerbose true) state
      = showing (if command.verb = "ls" then queryLines command else [])
          (toProc (runHandler handler command) (context.setVeryVerbose false) state) := by
  have hBody : toProc (Action.handle handler command).run (context.setVeryVerbose true)
        { state with lastStatus := .success }
      = showing (if command.verb = "ls" then queryLines command else [])
          (toProc (Action.handle handler command).run (context.setVeryVerbose false)
            { state with lastStatus := .success }) := by
    by_cases hList : handler = .replica .list
    · subst hList
      rw [if_pos (Verb.handler?_ls.mp hHandler)]
      exact toProc_listReplica
    · have hOther : command.verb ≠ "ls" := by
        apply Verb.ne_ls
        rw [hHandler]
        exact fun hSame => hList (Option.some.inj hSame)
      have hSame := Action.oblivious_handle hList command context
        { state with lastStatus := .success }
      rw [if_neg hOther]
      exact (hSame true).trans (hSame false).symm
  rw [toProc_runHandler, toProc_runHandler, hBody, showing_bind]
  congr 2
  funext ended
  rcases ended with ⟨e | ⟨⟩, after⟩
  · exact (oblivious_fail e context after true).trans (oblivious_fail e context after false).symm
  · rfl

/-- A dispatched command is the same program with the switch on and off, but for the lines that
are printed in front of it when the switch is on. -/
theorem toProc_dispatch_setVeryVerbose :
    toProc (dispatch command) (context.setVeryVerbose true) state
      = showing (verboseLines command)
          (toProc (dispatch command) (context.setVeryVerbose false) state) := by
  unfold dispatch verboseLines
  by_cases hVerb : command.verb = ""
  · rw [if_pos hVerb, if_pos hVerb]
    rfl
  rw [if_neg hVerb, if_neg hVerb, toProc_echo, toProc_echo]
  show showing [.echo command.words] _ = showing [.echo command.words] (showing _ _)
  apply congrArg
  show toProc _ (context.setVeryVerbose true) state
    = showing _ (toProc _ (context.setVeryVerbose false) state)
  cases hHandler : Verb.handler? command.verb with
  | none =>
      rw [if_neg (Verb.ne_ls (by rw [hHandler]; exact nofun))]
      rfl
  | some handler =>
      have hRun : toProc (runHandler handler command) (context.setVeryVerbose true) state = _ :=
        toProc_runHandler_setVeryVerbose hHandler
      cases handler with
      | quit =>
          rw [if_neg (Verb.ne_ls (by rw [hHandler]; exact nofun))]
          rfl
      | _ => exact hRun

end Dispatching

/-! ## In front of a connection and a console -/

/-- A connection, a console and a clock: what they answer, and what they remember.  What is
printed reaches none of them. -/
structure Peers (σ : Type) where
  readLine : String → σ → Except String (Option String) × σ
  readSecret : String → σ → Except String String × σ
  clock : σ → Int × σ
  call : (c : Call) → σ → Exchange c × σ

/-- They answer all questions of the shell. -/
def Peers.handler {σ : Type} (peers : Peers σ) : Proc.Handler interface σ where
  answer
    | .print _, s => ((), s)
    | .readLine prompt, s => peers.readLine prompt s
    | .readSecret prompt, s => peers.readSecret prompt s
    | .clock, s => peers.clock s
    | .call c, s => peers.call c s

section Runs

variable {σ : Type} {context : Context} {state : State} {command : Command}

private theorem run_showing {α : Type} (peers : Peers σ) (lines : List Line) (p : Proc interface α)
    (s : σ) :
    (showing lines p).run peers.handler s
      = { p.run peers.handler s with events := shown lines ++ (p.run peers.handler s).events } := by
  induction lines with
  | nil => rfl
  | cons line rest ih =>
      show Proc.Run.mk ((showing rest p).run peers.handler s).value?
          (⟨Query.print line, ()⟩ :: ((showing rest p).run peers.handler s).events)
          ((showing rest p).run peers.handler s).state = _
      rw [ih]
      rfl

/-- The same command in a very verbose session. -/
def Dispatched.verbosely (dispatched : Dispatched) : Dispatched :=
  { dispatched with events := shown (verboseLines dispatched.command) ++ dispatched.events }

/-- The events that are more than output: calls on the service, and readings of the terminal
and of the clock. -/
def exchanges (events : List Event) : List Event :=
  events.filter fun event => match event.query with
    | .print _ => false
    | .readLine _ | .readSecret _ | .clock | .call _ => true

theorem exchanges_append (first rest : List Event) :
    exchanges (first ++ rest) = exchanges first ++ exchanges rest :=
  List.filter_append ..

theorem exchanges_shown (lines : List Line) : exchanges (shown lines) = [] := by
  induction lines with
  | nil => rfl
  | cons line rest ih => exact ih

theorem run_dispatch_setVeryVerbose (peers : Peers σ) (s : σ) :
    let quiet := (toProc (dispatch command) (context.setVeryVerbose false) state).run
      peers.handler s
    (toProc (dispatch command) (context.setVeryVerbose true) state).run peers.handler s
      = { quiet with events := shown (verboseLines command) ++ quiet.events } := by
  intro quiet
  rw [toProc_dispatch_setVeryVerbose]
  exact run_showing peers _ _ s

/-- A list of commands is carried out alike, command by command. -/
private theorem dispatchAll_setVeryVerbose (peers : Peers σ) (commands : List Command) (s : σ) :
    dispatchAll peers.handler (context.setVeryVerbose true) commands state s
      = (dispatchAll peers.handler (context.setVeryVerbose false) commands state s).map
          Dispatched.verbosely := by
  induction commands generalizing state s with
  | nil => rfl
  | cons command rest ih =>
      unfold dispatchAll
      rw [run_dispatch_setVeryVerbose]
      dsimp only
      rw [List.map_cons]
      congr 1
      split
      · rfl
      · exact ih _

private theorem exchanges_verbosely (dispatched : List Dispatched) :
    exchanges ((dispatched.map Dispatched.verbosely).flatMap Dispatched.events)
      = exchanges (dispatched.flatMap Dispatched.events) := by
  induction dispatched with
  | nil => rfl
  | cons d rest ih =>
      rw [List.map_cons, List.flatMap_cons, List.flatMap_cons, exchanges_append,
        exchanges_append, ih, Dispatched.verbosely, exchanges_append, exchanges_shown,
        List.nil_append]

private theorem stream_queryLines (command : Command) :
    (queryLines command).all (fun line => decide (line.stream = .out)) = true := by
  unfold queryLines
  split
  · rfl
  · rfl

theorem stream_verboseLines (command : Command) :
    (verboseLines command).all (fun line => decide (line.stream = .out)) = true := by
  unfold verboseLines
  split
  · rfl
  · split
    · exact stream_queryLines command
    · rfl

end Runs

/-- The switch changes what is shown, and nothing else.  A command has the same outcome with
it on and off, leaves the same status, the same remembered zone and the same error stack
behind, and makes the same calls, the same readings of the terminal, and the same impression on
the connection and the console.  Its output is the same behind the lines that are added, which
go to the plain output: the command itself, and for an `ls` that selects a replica the query.
The same holds of the commands of a session, one by one and from the same states. -/
theorem veryVerbose_only_shows {σ : Type} (peers : Peers σ) (context : Context) (state : State)
    (s : σ) :
    (∀ command : Command,
      let quiet := (toProc (dispatch command) (context.setVeryVerbose false) state).run
        peers.handler s
      let verbose := (toProc (dispatch command) (context.setVeryVerbose true) state).run
        peers.handler s
      verbose.value? = quiet.value? ∧ verbose.state = quiet.state ∧
        exchanges verbose.events = exchanges quiet.events ∧
        verbose.events = shown (verboseLines command) ++ quiet.events) ∧
    (∀ commands : List Command,
      let quiet := dispatchAll peers.handler (context.setVeryVerbose false) commands state s
      let verbose := dispatchAll peers.handler (context.setVeryVerbose true) commands state s
      verbose = quiet.map Dispatched.verbosely ∧
        exchanges (verbose.flatMap Dispatched.events)
          = exchanges (quiet.flatMap Dispatched.events)) ∧
    ∀ command : Command,
      (verboseLines command).all (fun line => decide (line.stream = .out)) = true := by
  refine ⟨fun command => ?_, fun commands => ?_, stream_verboseLines⟩
  · intro quiet verbose
    have hRun : verbose = { quiet with events := shown (verboseLines command) ++ quiet.events } :=
      run_dispatch_setVeryVerbose peers s
    rw [hRun, exchanges_append, exchanges_shown, List.nil_append]
    exact ⟨rfl, rfl, rfl, rfl⟩
  · intro quiet verbose
    have hAll : verbose = quiet.map Dispatched.verbosely :=
      dispatchAll_setVeryVerbose peers commands s
    rw [hAll, exchanges_verbosely]
    exact ⟨rfl, rfl⟩

/-- An `ls` that lacks a word is shown, but no query is made of it. -/
example : (verboseLines (.ofWords ["ls", "data_id", "7", "replica_number", "0"])).length = 2 ∧
    (verboseLines (.ofWords ["ls", "data_id", "7", "resource_hierarchy"])).length = 1 := by
  decide +kernel

end Shell

end GridAdmin
