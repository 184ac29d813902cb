import GridAdmin.Proofs.Shell.Dispatched
import GridAdmin.Rehearsal

/-!
# Statements and bind values

The text of an SQL query is checked by the server against a list, and so nothing that is
typed may become part of it.  The shell knows a closed list of statements.  Which of them
is sent depends on which words are there, and the words themselves travel as bind values,
one for each `?` of the statement.

A query that is answered in pages is sent again with a cursor.  The cursor is the only
other part of a query that is not fixed, and it comes from the answer to the page before.

## Main definitions

* `Listing.statements`: all statements.
* `SimpleQuery.IsPrepared`: the query is one of them, with a bind value for each `?`.
* `Shell.SendsPrepared`: all queries among some events are prepared and continue earlier ones.

## Main results

* `Listing.usersQuery_isFirstPage` and the like: whatever the words are, the query is prepared.
* `Action.prepares_runQuery`: so are all its pages, and each cursor was answered.
* `session_sendsPrepared`: no session sends anything else.
-/

namespace GridAdmin

/-! ## Statements -/

/-- A statement, and the form of the output that it is sent for. -/
structure Statement where
  form : UInt8
  sql : String
  deriving DecidableEq, Repr

/-- The number of bind values that a text asks for. -/
def placeholders (sql : String) : Nat :=
  sql.toList.count '?'

namespace Statement

/-- One page of the statement with these bind values. -/
def page (statement : Statement) (args : List String) (control : Int32) : SimpleQuery :=
  { sql := statement.sql, args, form := statement.form, control, maxBufSize := 1024 }

end Statement

namespace Listing

/-- All statements. -/
def statements : List Statement :=
  [ ⟨1, "select user_name||'#'||zone_name from R_USER_MAIN where user_type_name != 'rodsgroup'"⟩,
    ⟨2, "select * from R_USER_MAIN where user_name=?"⟩,
    ⟨1, "select user_name from R_USER_MAIN where zone_name=? and user_type_name != 'rodsgroup'"⟩,
    ⟨2, "select * from R_USER_MAIN where user_name=? and zone_name=?"⟩,
    ⟨1, "select token_name from R_TOKN_MAIN where token_namespace = 'token_namespace'"⟩,
    ⟨1, "select token_name from R_TOKN_MAIN where token_namespace = ?"⟩,
    ⟨2, "select * from R_TOKN_MAIN where token_namespace = ? and token_name like ?"⟩,
    ⟨1, "select resc_name from R_RESC_MAIN"⟩,
    ⟨2, "select * from R_RESC_MAIN where resc_name=?"⟩,
    ⟨1, "select zone_name from R_ZONE_MAIN"⟩,
    ⟨2, "select * from R_ZONE_MAIN where zone_name=?"⟩,
    ⟨1, "select zone_name from R_ZONE_MAIN where zone_type_name=?"⟩,
    ⟨1, userAuthSql⟩,
    ⟨1, userAuthSql ++ " and R_USER_MAIN.user_name=?"⟩,
    ⟨1, userAuthSql ++ " and R_USER_MAIN.user_name=? and R_USER_MAIN.zone_name=?"⟩,
    ⟨1, userAuthSql ++ " and R_USER_AUTH.user_auth_name=?"⟩,
    ⟨2, resourceQuotaSql⟩,
    ⟨2, resourceQuotaSql ++ " and user_name=? and R_USER_MAIN.zone_name=?"⟩,
    ⟨2, globalQuotaSql⟩,
    ⟨2, globalQuotaSql ++ " and user_name=? and R_USER_MAIN.zone_name=?"⟩ ]

end Listing

/-- The query is a page of a statement, with a bind value for each `?`, and at most four. -/
def SimpleQuery.IsPrepared (query : SimpleQuery) : Prop :=
  ∃ statement ∈ Listing.statements, query = statement.page query.args query.control ∧
    placeholders statement.sql = query.args.length ∧ query.args.length ≤ 4

private theorem SimpleQuery.IsPrepared.withControl {query : SimpleQuery}
    (hPrepared : query.IsPrepared)
    (control : Int32) : { query with control }.IsPrepared := by
  obtain ⟨statement, hStatement, hPage, hBinds⟩ := hPrepared
  refine ⟨statement, hStatement, ?_, hBinds⟩
  rw [hPage]
  rfl

/-- The query is the first page of a statement. -/
def SimpleQuery.IsFirstPage (query : SimpleQuery) : Prop :=
  query.IsPrepared ∧ query.control = 0

theorem SimpleQuery.isFirstPage_first {form : UInt8} {sql : String} {args : List String}
    (count : Nat) (hStatement : ⟨form, sql⟩ ∈ Listing.statements)
    (hBinds : placeholders sql = count) (hArgs : args.length = count) (hFour : count ≤ 4) :
    (SimpleQuery.first form sql args).IsFirstPage := by
  subst hArgs
  exact ⟨⟨⟨form, sql⟩, hStatement, rfl, hBinds, hFour⟩, rfl⟩

/-! ### Counting bind values

The long statements are counted part by part. -/

/-- A literal is counted as the list of its characters, which the kernel reads off it. -/
theorem placeholders_ofList {characters : List Char} {count : Nat}
    (hCount : characters.count '?' = count) :
    placeholders (String.ofList characters) = count := by
  rw [placeholders, String.toList_ofList]
  exact hCount

theorem placeholders_append {first second : String} :
    placeholders (first ++ second) = placeholders first + placeholders second := by
  unfold placeholders
  rw [String.toList_append, List.count_append]

/-- What is put behind a text without bind values counts alone. -/
theorem placeholders_behind {first second : String} (hFirst : placeholders first = 0) :
    placeholders (first ++ second) = placeholders second := by
  rw [placeholders_append, hFirst, Nat.zero_add]

namespace Listing

theorem placeholders_userAuthSql : placeholders userAuthSql = 0 := by
  unfold userAuthSql
  rw [placeholders_behind (placeholders_ofList rfl)]
  exact placeholders_ofList rfl

theorem placeholders_resourceQuotaSql : placeholders resourceQuotaSql = 0 := by
  unfold resourceQuotaSql
  rw [String.append_assoc, String.append_assoc, placeholders_behind (placeholders_ofList rfl),
    placeholders_behind (placeholders_ofList rfl), placeholders_behind (placeholders_ofList rfl)]
  exact placeholders_ofList rfl

theorem placeholders_globalQuotaSql : placeholders globalQuotaSql = 0 := by
  unfold globalQuotaSql
  rw [String.append_assoc, placeholders_behind (placeholders_ofList rfl),
    placeholders_behind (placeholders_ofList rfl)]
  exact placeholders_ofList rfl

/-! ### Queries of the listings -/

open SimpleQuery (isFirstPage_first)

theorem usersQuery_isFirstPage {name : String} : (usersQuery name).IsFirstPage := by
  unfold usersQuery
  split
  · exact isFirstPage_first 0 (by simp [statements]) (placeholders_ofList rfl) rfl (by decide)
  · exact isFirstPage_first 1 (by simp [statements]) (placeholders_ofList rfl) rfl (by decide)

theorem usersOfZoneQuery_isFirstPage {zone user : String} :
    (usersOfZoneQuery zone user).IsFirstPage := by
  unfold usersOfZoneQuery
  split
  · exact isFirstPage_first 1 (by simp [statements]) (placeholders_ofList rfl) rfl (by decide)
  · exact isFirstPage_first 2 (by simp [statements]) (placeholders_ofList rfl) rfl (by decide)

private theorem tokensQuery_isFirstPage {scope name : String} :
    (tokensQuery scope name).IsFirstPage := by
  unfold tokensQuery
  split
  · exact isFirstPage_first 0 (by simp [statements]) (placeholders_ofList rfl) rfl (by decide)
  · split
    · exact isFirstPage_first 1 (by simp [statements]) (placeholders_ofList rfl) rfl (by decide)
    · exact isFirstPage_first 2 (by simp [statements]) (placeholders_ofList rfl) rfl (by decide)

private theorem resourcesQuery_isFirstPage {name : String} : (resourcesQuery name).IsFirstPage := by
  unfold resourcesQuery
  split
  · exact isFirstPage_first 0 (by simp [statements]) (placeholders_ofList rfl) rfl (by decide)
  · exact isFirstPage_first 1 (by simp [statements]) (placeholders_ofList rfl) rfl (by decide)

private theorem zonesQuery_isFirstPage {name : String} : (zonesQuery name).IsFirstPage := by
  unfold zonesQuery
  split
  · exact isFirstPage_first 0 (by simp [statements]) (placeholders_ofList rfl) rfl (by decide)
  · exact isFirstPage_first 1 (by simp [statements]) (placeholders_ofList rfl) rfl (by decide)

theorem localZoneQuery_isFirstPage : Action.localZoneQuery.IsFirstPage :=
  isFirstPage_first 1 (by simp [statements]) (placeholders_ofList rfl) rfl (by decide)

private theorem userAuthQuery_isFirstPage {target : Option (String × String)} :
    (userAuthQuery target).IsFirstPage := by
  unfold userAuthQuery
  split
  · exact isFirstPage_first 0 (by simp [statements]) placeholders_userAuthSql rfl (by decide)
  · split
    · refine isFirstPage_first 1 (by simp [statements]) ?_ rfl (by decide)
      rw [placeholders_behind placeholders_userAuthSql]
      exact placeholders_ofList rfl
    · refine isFirstPage_first 2 (by simp [statements]) ?_ rfl (by decide)
      rw [placeholders_behind placeholders_userAuthSql]
      exact placeholders_ofList rfl

private theorem userAuthNameQuery_isFirstPage {name : String} :
    (userAuthNameQuery name).IsFirstPage := by
  refine isFirstPage_first 1 (by simp [statements]) ?_ rfl (by decide)
  rw [placeholders_behind placeholders_userAuthSql]
  exact placeholders_ofList rfl

/-- The quotas of everybody and those of one user are two statements. -/
theorem quotaQuery_isFirstPage {sql : String} {target : Option (String × String)}
    (hAll : ⟨2, sql⟩ ∈ statements)
    (hUser : ⟨2, sql ++ " and user_name=? and R_USER_MAIN.zone_name=?"⟩ ∈ statements)
    (hBinds : placeholders sql = 0) : (quotaQuery sql target).IsFirstPage := by
  cases target with
  | none => exact isFirstPage_first 0 hAll hBinds rfl (by decide)
  | some user =>
      refine isFirstPage_first 2 hUser ?_ rfl (by decide)
      rw [placeholders_behind hBinds]
      exact placeholders_ofList rfl

private theorem resourceQuota_isFirstPage {target : Option (String × String)} :
    (quotaQuery resourceQuotaSql target).IsFirstPage :=
  quotaQuery_isFirstPage (by simp [statements]) (by simp [statements])
    placeholders_resourceQuotaSql

private theorem globalQuota_isFirstPage {target : Option (String × String)} :
    (quotaQuery globalQuotaSql target).IsFirstPage :=
  quotaQuery_isFirstPage (by simp [statements]) (by simp [statements])
    placeholders_globalQuotaSql

end Listing

/-! ## Queries among events -/

namespace Shell

section Events

variable {known first rest events : List Event} {query : SimpleQuery}

/-- The query is a first page, or its cursor came with an answer to the same query. -/
def Continues (known : List Event) (query : SimpleQuery) : Prop :=
  query.control = 0 ∨ ∃ (control : Int32) (pushed : List Diagnostic) (reply : SimpleReply),
    (⟨Query.call (.simpleQuery { query with control }), ⟨pushed, .ok reply⟩⟩ : Event) ∈ known ∧
      reply.control = query.control

/-- All queries are prepared, and each is a first page or continues what came before it. -/
def SendsPrepared (known events : List Event) : Prop :=
  ∀ before query exchange after,
    events = before ++ ⟨Query.call (.simpleQuery query), exchange⟩ :: after →
      query.IsPrepared ∧ Continues (known ++ before) query

private theorem Continues.mono {more : List Event} (hContinues : Continues known query)
    (hMore : ∀ event ∈ known, event ∈ more) : Continues more query := by
  rcases hContinues with hFirst | ⟨control, pushed, reply, hMem, hCursor⟩
  · exact Or.inl hFirst
  · exact Or.inr ⟨control, pushed, reply, hMore _ hMem, hCursor⟩

/-- First pages continue nothing. -/
theorem sendsPrepared_of_first (hFirst : Asks (fun query => ∀ sent,
      query = .call (.simpleQuery sent) → sent.IsFirstPage) events) :
    SendsPrepared known events := by
  rintro before query exchange after rfl
  have hEvent := (asks_append_iff.mp hFirst).2 _ List.mem_cons_self
  obtain ⟨hPrepared, hControl⟩ := hEvent query rfl
  exact ⟨hPrepared, Or.inl hControl⟩

theorem sendsPrepared_shown {lines : List Line} : SendsPrepared known (shown lines) :=
  sendsPrepared_of_first (asks_shown fun _ _ => nofun)

theorem sendsPrepared_nil : SendsPrepared known [] :=
  sendsPrepared_of_first asks_nil

/-- A single query. -/
theorem sendsPrepared_query {exchange : Exchange (.simpleQuery query)}
    (hPrepared : query.IsPrepared) (hContinues : Continues known query) :
    SendsPrepared known [⟨Query.call (.simpleQuery query), exchange⟩] := by
  intro before other answered after hEvents
  cases before with
  | nil =>
      cases hEvents
      rw [List.append_nil]
      exact ⟨hPrepared, hContinues⟩
  | cons head tail => simp at hEvents

/-- What follows may continue what was known before, and what was sent meanwhile. -/
theorem SendsPrepared.append (hFirst : SendsPrepared known first)
    (hRest : SendsPrepared (known ++ first) rest) : SendsPrepared known (first ++ rest) := by
  intro before query exchange after hEvents
  rcases List.append_eq_append_iff.mp hEvents with ⟨middle, rfl, hTail⟩ | ⟨middle, rfl, hTail⟩
  · rw [← List.append_assoc]
    exact hRest middle query exchange after hTail
  · cases middle with
    | nil =>
        have hLater := hRest [] query exchange after hTail.symm
        simpa using hLater
    | cons event middle =>
        obtain ⟨rfl, -⟩ := List.cons.inj hTail
        exact hFirst before query exchange middle rfl

/-- More may be known. -/
theorem SendsPrepared.mono {more : List Event} (hSends : SendsPrepared known events)
    (hMore : ∀ event ∈ known, event ∈ more) : SendsPrepared more events := by
  intro before query exchange after hEvents
  obtain ⟨hPrepared, hContinues⟩ := hSends before query exchange after hEvents
  refine ⟨hPrepared, hContinues.mono ?_⟩
  intro event hEvent
  rcases List.mem_append.mp hEvent with hKnown | hBefore
  · exact List.mem_append_left _ (hMore event hKnown)
  · exact List.mem_append_right _ hBefore

end Events

end Shell

/-! ## Queries of actions -/

namespace Action

open Shell (Event Context SendsPrepared Continues)

section Rules

variable {α β : Type} {context : Context} {known : List Event}

/-- Behind what is known, all queries are prepared. -/
def Prepares (known : List Event) (context : Context) (action : Action α) : Prop :=
  ∀ state, action.Ensures context state fun events _ => SendsPrepared known events

theorem prepares_pure (value : α) : Prepares known context (pure value : Action α) :=
  fun _ => ensures_pure.mpr Shell.sendsPrepared_nil

theorem prepares_throw {e : ShellError} : Prepares known context (throw e : Action α) :=
  fun _ => ensures_throw.mpr Shell.sendsPrepared_nil

theorem prepares_bind {action : Action α} {rest : α → Action β}
    (hAction : Prepares known context action)
    (hRest : ∀ value, Prepares known context (rest value)) :
    Prepares known context (action >>= rest) := by
  intro state
  rw [ensures_bind]
  refine (hAction state).mono fun events last hSends => ?_
  rcases last with _ | ⟨e | value, after⟩
  · exact hSends
  · exact hSends
  · refine (hRest value after).mono fun more end? hMore => hSends.append (hMore.mono ?_)
    exact fun event hEvent => List.mem_append_left _ hEvent

theorem prepares_read_bind {rest : Context → Action β}
    (hRest : Prepares known context (rest context)) :
    Prepares known context (read >>= rest) := by
  intro state
  rw [ensures_bind, ensures_read]
  exact hRest state

theorem prepares_ite {c : Prop} [Decidable c] {first second : Action α}
    (hFirst : c → Prepares known context first) (hSecond : ¬c → Prepares known context second) :
    Prepares known context (if c then first else second) := by
  by_cases hc : c
  · rw [if_pos hc]
    exact hFirst hc
  · rw [if_neg hc]
    exact hSecond hc

/-- What follows an `if` without an alternative follows both of its ways. -/
theorem prepares_when {c : Prop} [Decidable c] {body : Action α} {rest : Action β}
    (hBody : Prepares known context body) (hRest : Prepares known context rest) :
    Prepares known context (if c then (body >>= fun _ => rest) else rest) :=
  prepares_ite (fun _ => prepares_bind hBody fun _ => hRest) fun _ => hRest

/-- A step that only prints. -/
theorem prepares_lift {step : Shell α} (hStep : ∀ state,
      Shell.Ensures step context state fun events _ => ∃ lines, events = Shell.shown lines) :
    Prepares known context (liftM step) := by
  intro state
  rw [ensures_lift]
  refine (hStep state).mono ?_
  rintro events last ⟨lines, rfl⟩
  exact Shell.sendsPrepared_shown

theorem prepares_print {line : Line} : Prepares known context (liftM (Shell.print line)) :=
  prepares_lift fun _ => Shell.ensures_print.mpr ⟨[line], rfl⟩

theorem prepares_printAll {texts : List String} :
    Prepares known context (liftM (Shell.printAll texts)) :=
  prepares_lift fun _ => Shell.ensures_printAll.mpr ⟨_, rfl⟩

theorem prepares_drain : Prepares known context (liftM Shell.drain) :=
  prepares_lift fun _ => Shell.ensures_drain.mpr ⟨_, rfl⟩

theorem prepares_outOfFuel : Prepares known context (liftM (Shell.outOfFuel : Shell α)) :=
  prepares_lift fun _ => Shell.ensures_outOfFuel.mpr ⟨[], rfl⟩

/-- What follows a query may continue it. -/
theorem prepares_query_bind {query : SimpleQuery} {rest : SimpleReply → Action β}
    (hPrepared : query.IsPrepared) (hContinues : Continues known query)
    (hRest : ∀ pushed reply, Prepares
      (known ++ [⟨Shell.Query.call (.simpleQuery query), ⟨pushed, .ok reply⟩⟩]) context
      (rest reply)) :
    Prepares known context (call (.simpleQuery query) >>= rest) := by
  intro state
  rw [ensures_bind, ensures_call]
  rintro ⟨pushed, e | reply⟩
  · exact Shell.sendsPrepared_query hPrepared hContinues
  · exact (hRest pushed reply _).mono fun events last hSends =>
      (Shell.sendsPrepared_query hPrepared hContinues).append hSends

/-- Look-ups that are no queries, or first pages. -/
theorem prepares_of_inquires {lookUps : Call → Prop} {action : Action α}
    (hAction : Inquires lookUps context action)
    (hFirst : ∀ query, lookUps (.simpleQuery query) → query.IsFirstPage) :
    Prepares known context action := by
  intro state
  refine (hAction state).mono fun events last hPath => Shell.sendsPrepared_of_first ?_
  refine hPath.inquiry.1.mono ?_
  rintro question hRemote query rfl
  exact hFirst query hRemote.1

/-- Both actions run one after the other. -/
theorem prepares_both {first second : Action Unit} (hFirst : Prepares known context first)
    (hSecond : Prepares known context second) : Prepares known context (both first second) := by
  intro state
  unfold both
  rw [ensures_bind, ensures_capture]
  refine (hFirst state).mono fun events last hSends => ?_
  rcases last with _ | ⟨firstResult, middle⟩
  · exact hSends
  rw [Option.map_some]
  dsimp only
  rw [ensures_bind, ensures_capture]
  refine (hSecond middle).mono fun more end? hMore => ?_
  have hBoth : SendsPrepared known (events ++ more) :=
    hSends.append (hMore.mono fun event hEvent => List.mem_append_left _ hEvent)
  rcases end? with _ | ⟨secondResult, after⟩
  · exact hBoth
  · cases firstResult with
    | error e => simpa using hBoth
    | ok value => simpa using hBoth

end Rules

/-! ## Pages -/

section Pages

variable {context : Context} {known : List Event}

/-- Every page behind the first continues the page before it. -/
theorem prepares_followPages {query : SimpleQuery} (hPrepared : query.IsPrepared) (fuel : Nat)
    {control : Int32} (hContinues : Continues known { query with control }) :
    Prepares known context (followPages fuel query control) := by
  induction fuel generalizing query control known with
  | zero => exact prepares_ite (fun _ => prepares_outOfFuel) fun _ => prepares_pure ()
  | succ fuel ih =>
      refine prepares_ite (fun _ => ?_) fun _ => prepares_pure ()
      have hPage : { query with control }.IsPrepared := hPrepared.withControl control
      refine prepares_query_bind hPage hContinues fun pushed page => ?_
      refine prepares_ite (fun _ => prepares_pure ()) fun _ => ?_
      refine prepares_when prepares_throw (prepares_bind prepares_printAll fun _ => ih hPage ?_)
      refine Or.inr ⟨control, pushed, page, ?_, rfl⟩
      exact List.mem_append_right _ (List.mem_singleton.mpr rfl)

/-- All pages of a prepared query are prepared. -/
theorem prepares_runQuery {query : SimpleQuery} (hFirst : query.IsFirstPage) :
    Prepares known context (runQuery query) := by
  obtain ⟨hPrepared, hControl⟩ := hFirst
  refine prepares_query_bind hPrepared (Or.inl hControl) fun pushed reply => ?_
  refine prepares_ite (fun _ => prepares_print) fun _ => ?_
  refine prepares_ite (fun _ => prepares_bind prepares_drain fun _ => prepares_throw) fun _ => ?_
  refine prepares_bind prepares_printAll fun _ => prepares_read_bind ?_
  refine prepares_followPages hPrepared context.fuel ?_
  refine Or.inr ⟨query.control, pushed, reply, ?_, rfl⟩
  exact List.mem_append_right _ (List.mem_singleton.mpr rfl)

end Pages

/-! ## Listings -/

section Listings

variable {context : Context} {known : List Event}

theorem prepares_refuse {α : Type} {fault : ArgumentFault} :
    Prepares known context (refuse fault : Action α) :=
  prepares_throw

/-- An administrative request is no query. -/
theorem prepares_invoke {request : AdminRequest} {options : SendOptions} :
    Prepares known context (do let _ ← Shell.invoke request options) := by
  intro state
  rw [ensures_bind, ensures_lift]
  refine Shell.ensures_invoke fun events status after hSent => ?_
  refine ensures_pure.mpr ?_
  rw [List.append_nil]
  exact Shell.sendsPrepared_of_first
    (hSent.asks nofun (fun _ => nofun) (fun _ _ => nofun) fun _ _ => nofun)

/-- Look-ups that are no queries. -/
theorem prepares_of_noQuery {α : Type} {action : Action α}
    (hAction : Inquires (fun c => ∀ query, c ≠ .simpleQuery query) context action) :
    Prepares known context action :=
  prepares_of_inquires hAction fun query hNone => absurd rfl (hNone query)

theorem prepares_localZone : Prepares known context localZone := by
  have hZone : Inquires (· = .simpleQuery localZoneQuery) context localZone :=
    inquires_localZone rfl
  refine prepares_of_inquires hZone ?_
  rintro query ⟨⟩
  exact Listing.localZoneQuery_isFirstPage

theorem prepares_resolveUser {token : String} :
    Prepares known context (resolveUser token) := by
  unfold resolveUser
  cases splitUserName? token with
  | none => exact prepares_refuse
  | some user =>
      exact prepares_ite (fun _ => prepares_bind prepares_localZone fun _ => prepares_pure _)
        fun _ => prepares_pure _

private theorem prepares_listUsers {token : String} : Prepares known context (listUsers token) := by
  unfold listUsers
  cases splitUserName? token with
  | none => exact prepares_refuse
  | some user =>
      exact prepares_ite (fun _ => prepares_runQuery Listing.usersQuery_isFirstPage)
        fun _ => prepares_runQuery Listing.usersOfZoneQuery_isFirstPage

private theorem prepares_listUserAuth {token : String} :
    Prepares known context (listUserAuth token) := by
  unfold listUserAuth
  refine prepares_ite (fun _ => prepares_runQuery Listing.userAuthQuery_isFirstPage) fun _ => ?_
  cases splitUserName? token with
  | none => exact prepares_refuse
  | some user => exact prepares_runQuery Listing.userAuthQuery_isFirstPage

private theorem prepares_listQuotas {token : String} :
    Prepares known context (listQuotas token) := by
  have hReports : ∀ target, Prepares known context (do
      liftM (Shell.print (.out (quotaHeading "Per resource" token)))
      both (runQuery (Listing.quotaQuery Listing.resourceQuotaSql target)) do
        liftM (Shell.print (.out (quotaHeading "\nGlobal (total usage)" token)))
        runQuery (Listing.quotaQuery Listing.globalQuotaSql target)) := by
    intro target
    refine prepares_bind prepares_print fun _ => ?_
    refine prepares_both (prepares_runQuery Listing.resourceQuota_isFirstPage) ?_
    exact prepares_bind prepares_print fun _ => prepares_runQuery Listing.globalQuota_isFirstPage
  have hUser : Prepares known context (some <$> resolveUser token) := by
    rw [map_eq_pure_bind]
    exact prepares_bind prepares_resolveUser fun user => prepares_pure (some user)
  exact prepares_ite (fun _ => prepares_bind (prepares_pure none) hReports)
    fun _ => prepares_bind hUser hReports

/-- Whatever the words are, a listing sends prepared queries only. -/
private theorem prepares_list {listing : Listing} {command : Command} :
    Prepares known context (list listing command) := by
  cases listing with
  | users => exact prepares_listUsers
  | usersOfZone => exact prepares_runQuery Listing.usersOfZoneQuery_isFirstPage
  | tokens =>
      exact prepares_ite (fun _ => prepares_invoke)
        fun _ => prepares_runQuery Listing.tokensQuery_isFirstPage
  | resources => exact prepares_runQuery Listing.resourcesQuery_isFirstPage
  | zones => exact prepares_runQuery Listing.zonesQuery_isFirstPage
  | groups => exact prepares_of_noQuery (inquires_listGroups fun _ _ => nofun)
  | groupDetails =>
      exact prepares_ite (fun _ => prepares_refuse)
        fun _ => prepares_runQuery Listing.usersQuery_isFirstPage
  | userAuth => exact prepares_listUserAuth
  | userAuthName => exact prepares_runQuery Listing.userAuthNameQuery_isFirstPage
  | quotas => exact prepares_listQuotas
  | delayServer =>
      exact prepares_of_noQuery (inquires_showDelayServer (fun _ _ => nofun) fun _ _ => nofun)

end Listings

end Action

/-! ## Commands and sessions -/

namespace Shell

section Dispatches

variable {context : Context} {state : State} {command : Command} {events : List Event}
  {ended? : Option (Outcome × State)}

/-- Only a listing sends more queries than the one for the local zone. -/
private theorem isFirstPage_of_mayCall {settings : Settings} {handler : Handler}
    {before : List Event} {query : SimpleQuery}
    (hCall : handler.MayCall settings command before (.simpleQuery query))
    (hListing : ∀ listing, handler ≠ .listing listing) : query.IsFirstPage := by
  obtain ⟨act, ⟨-, hActs⟩, hMakes⟩ := hCall
  cases hMakes with
  | lookUp =>
      cases hActs with
      | listing listing hLookUp => exact absurd rfl (hListing listing)
      | localZone => exact Listing.localZoneQuery_isFirstPage

private theorem DispatchTrace.sendsPrepared
    (hTrace : DispatchTrace context state command events ended?) : SendsPrepared [] events := by
  by_cases hListing : ∃ listing, Verb.handler? command.verb = some (.listing listing)
  · obtain ⟨listing, hHandler⟩ := hListing
    obtain ⟨body, last, hBody, rfl, -⟩ := hTrace.of_handler hHandler nofun
    have hEcho : SendsPrepared [] (echoed context.settings command) :=
      sendsPrepared_of_first (asks_echoed fun _ _ => nofun)
    have hList : SendsPrepared (echoed context.settings command) body :=
      Action.prepares_list _ body last hBody
    exact (hEcho.append hList).append (sendsPrepared_of_first (asks_reportOf fun _ _ => nofun))
  · intro before query exchange after hEvents
    obtain ⟨handler, first, middle, hHandler, -, hCall, -⟩ := hTrace.call_split hEvents
    have hOther : ∀ listing, handler ≠ .listing listing := by
      rintro listing rfl
      exact hListing ⟨listing, hHandler⟩
    obtain ⟨hPrepared, hControl⟩ := isFirstPage_of_mayCall hCall hOther
    exact ⟨hPrepared, Or.inl hControl⟩

end Dispatches

/-- Whatever is typed, configured and answered: every query of a session is a page of a
known statement with a bind value for each `?`, and its cursor is that of a first page or
came with an answer to the same query. -/
theorem session_sendsPrepared {context : Context} {state : State} {dispatched : List Dispatched}
    (hSession : Session context state dispatched) {d : Dispatched} (hMem : d ∈ dispatched)
    {before after : List Event} {query : SimpleQuery} {exchange : Exchange (.simpleQuery query)}
    (hEvents : d.events = before ++ ⟨Query.call (.simpleQuery query), exchange⟩ :: after) :
    query.IsPrepared ∧ Continues before query :=
  (dispatchTrace_of_trace (hSession.forall_isTrace d hMem)).sendsPrepared before query exchange
    after hEvents

/-! ## A name that looks like a statement -/

namespace TypedStatement

def context : Context :=
  { settings := { zone := "tempZone" }, user := ⟨"rods", "tempZone"⟩, fuel := 2 }

/-- The name of a user. -/
def name : String := "?' or '1'='1"

/-- A service that has two pages on it. -/
def surroundings : Rehearsal where
  terminal := {}
  service :=
    { simpleQuery := Script.push
        (Script.push [] "R_USER_MAIN" { reply := some ⟨.success, "", 7⟩ })
        "R_USER_MAIN" { reply := some ⟨.success, "", 0⟩ } }

def dispatched : List Dispatched :=
  dispatchAll Rehearsal.handler context [.ofWords ["lu", name]] State.initial surroundings

/-- The second page. -/
def second : SimpleQuery :=
  { sql := "select * from R_USER_MAIN where user_name=?"
    args := [name]
    form := 2
    control := 7
    maxBufSize := 1024 }

end TypedStatement

open TypedStatement in
/-- The name is a bind value on both pages, and the second page has the cursor that came
with the first. -/
theorem isPrepared_of_typed_statement : ∃ d before exchange after, d ∈ dispatched ∧
    d.events = before ++ ⟨Query.call (.simpleQuery second), exchange⟩ :: after ∧
    second.IsPrepared ∧ Continues before second := by
  have hSession := session_dispatchAll context Rehearsal.handler [.ofWords ["lu", name]]
    State.initial surroundings
  refine ⟨_, [_], ⟨[], .ok ⟨.success, "", 0⟩⟩, [], List.mem_singleton.mpr rfl, rfl, ?_⟩
  exact session_sendsPrepared hSession (List.mem_singleton.mpr rfl) rfl

end Shell

end GridAdmin
