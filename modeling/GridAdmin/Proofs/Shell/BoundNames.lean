import GridAdmin.Proofs.Shell.Downgrade
import GridAdmin.Proofs.Shell.Pages
import GridAdmin.Proofs.Shell.Statements

/-!
# The user that a listing asks for

Three listings take a user as one word, which is `name` or `name#zone`: the one of users, the one
of authentication names and the one of quotas.  All of them take the word apart, and all of them
should mean the same user by it: the name is bound where a statement asks for the name of a
user, and a zone is bound only if it is the one that the word means.

Which value is bound to which column is not seen from the request alone, where values are told
by their positions.  It is read off the text of the statement here: each `?` asks for a value of
the column that is named last in front of it.

The word `name#` is where the listings differ.  It has a name and an empty zone, and the listing
of users takes that for a word without a zone and binds the word as it was typed, with its `#`.
No user has such a name.

## Main definitions

* `SimpleQuery.boundTo`: the values that a query binds to a column.
* `SimpleQuery.MeansUser`: a query asks for this user, in one of these zones.
* `Shell.SendsPages`: a run sends pages of some queries and nothing else.

## Main results

* `boundColumns_condition`: the columns of a statement are those of its conditions, in order.
* `Action.ensures_resolveUser`: a word is resolved to its name and the zone that it means.
* `listings_mean_user_iff`: the one word that is not taken for its user by all listings.
-/

namespace GridAdmin

/-! ## Values and columns -/

/-- Names of columns are made of these. -/
def isNameChar (c : Char) : Bool :=
  c.isAlphanum || c == '_'

/-- The last name in a text. -/
def lastName (text : List Char) : String :=
  String.ofList ((text.reverse.dropWhile (!isNameChar ·)).takeWhile isNameChar).reverse

/-- The columns that a statement asks values of: for each `?` the one named last in front
of it. -/
def boundColumns (sql : List Char) : List String :=
  (sql.splitOn '?').dropLast.map lastName

/-- The values that the query binds to the column. -/
def SimpleQuery.boundTo (query : SimpleQuery) (column : String) : List String :=
  ((boundColumns query.sql.toList).zip query.args).filterMap fun (name, value) =>
    if name = column then some value else none

/-- The query asks for the user of this name, and if it asks for a zone, for one of these. -/
structure SimpleQuery.MeansUser (query : SimpleQuery) (name : String) (isZone : String → Prop) :
    Prop where
  name : query.boundTo "user_name" = [name]
  zone : ∀ value ∈ query.boundTo "zone_name", isZone value

section Columns

variable {front name rest : List Char} {mark : Char}

private theorem lastName_equation (hMark : isNameChar mark = false)
    (hName : name.all isNameChar = true)
    (hSome : name ≠ []) : lastName (front ++ mark :: (name ++ ['='])) = String.ofList name := by
  have hReverse : (front ++ mark :: (name ++ ['='])).reverse
      = '=' :: (name.reverse ++ mark :: front.reverse) := by
    simp
  have hAll : ∀ c ∈ name.reverse, isNameChar c = true := by
    intro c hMem
    exact List.all_eq_true.mp hName c (List.mem_reverse.mp hMem)
  have hSkip : ('=' :: (name.reverse ++ mark :: front.reverse)).dropWhile (!isNameChar ·)
      = name.reverse ++ mark :: front.reverse := by
    cases hReversed : name.reverse with
    | nil => exact absurd (List.reverse_eq_nil_iff.mp hReversed) hSome
    | cons last others =>
        have hLast : isNameChar last = true := hAll last (hReversed ▸ List.mem_cons_self)
        rw [List.dropWhile_cons_of_pos (by rfl), List.cons_append,
          List.dropWhile_cons_of_neg (by simp [hLast])]
  rw [lastName, hReverse, hSkip, List.takeWhile_append_of_pos hAll,
    List.takeWhile_cons_of_neg (by simp [hMark]), List.append_nil, List.reverse_reverse]

/-- A statement that begins with a condition on one column asks for a value of that column
first. -/
theorem boundColumns_condition (hFront : '?' ∉ front) (hMark : isNameChar mark = false)
    (hOther : mark ≠ '?') (hName : name.all isNameChar = true) (hSome : name ≠ []) :
    boundColumns (front ++ mark :: (name ++ '=' :: '?' :: rest))
      = String.ofList name :: boundColumns rest := by
  have hNone : '?' ∉ front ++ mark :: (name ++ ['=']) := by
    simp only [List.mem_append, List.mem_cons, List.not_mem_nil, or_false, not_or]
    refine ⟨hFront, hOther.symm, fun hMem => ?_, by decide⟩
    exact absurd (List.all_eq_true.mp hName _ hMem) (by decide)
  have hText : front ++ mark :: (name ++ '=' :: '?' :: rest)
      = (front ++ mark :: (name ++ ['='])) ++ '?' :: rest := by
    simp
  have hMore : rest.splitOn '?' ≠ [] := List.splitOn_ne_nil _ _
  rw [boundColumns, hText, List.splitOn_append_cons_self_of_not_mem hNone,
    List.dropLast_cons_of_ne_nil hMore, List.map_cons, lastName_equation hMark hName hSome]
  rfl

/-- A condition behind a statement without any. -/
theorem boundColumns_behind {sql condition : String} (hSql : placeholders sql = 0)
    (hCondition : condition.toList = front ++ mark :: (name ++ '=' :: '?' :: rest))
    (hFront : '?' ∉ front) (hMark : isNameChar mark = false) (hOther : mark ≠ '?')
    (hName : name.all isNameChar = true) (hSome : name ≠ []) :
    boundColumns (sql ++ condition).toList = String.ofList name :: boundColumns rest := by
  have hNone : '?' ∉ sql.toList ++ front := by
    rw [List.mem_append, not_or]
    exact ⟨List.count_eq_zero.mp hSql, hFront⟩
  rw [String.toList_append, hCondition, ← List.append_assoc,
    boundColumns_condition hNone hMark hOther hName hSome]

end Columns

section Values

variable {query : SimpleQuery} {name zone : String} {isZone : String → Prop}

theorem SimpleQuery.meansUser_of_name (hSql : boundColumns query.sql.toList = ["user_name"])
    (hArgs : query.args = [name]) : query.MeansUser name isZone := by
  constructor
  · rw [boundTo, hSql, hArgs]
    rfl
  · rw [boundTo, hSql, hArgs]
    nofun

theorem SimpleQuery.meansUser_of_name_zone
    (hSql : boundColumns query.sql.toList = ["user_name", "zone_name"])
    (hArgs : query.args = [name, zone]) (hZone : isZone zone) : query.MeansUser name isZone := by
  constructor
  · rw [boundTo, hSql, hArgs]
    rfl
  · rw [boundTo, hSql, hArgs]
    intro value hValue
    cases List.mem_singleton.mp hValue
    exact hZone

/-- A query for a page asks for the same user, whatever the cursor is. -/
private theorem SimpleQuery.MeansUser.withControl (hMeans : query.MeansUser name isZone)
    (control : Int32) : { query with control }.MeansUser name isZone :=
  ⟨hMeans.name, hMeans.zone⟩

/-- A query that asks for a user is not the one for the local zone. -/
private theorem SimpleQuery.MeansUser.ne_localZone (hMeans : query.MeansUser name isZone) :
    query ≠ Action.localZoneQuery := by
  rintro rfl
  have hNone : Action.localZoneQuery.boundTo "user_name" = [] := by decide +kernel
  have hName := hMeans.name
  rw [hNone] at hName
  cases hName

end Values

/-! ### Queries of the listings -/

namespace Listing

variable {name zone sql : String} {isZone : String → Prop}

private theorem meansUser_usersQuery (hName : name ≠ "") :
    (usersQuery name).MeansUser name isZone := by
  have hSql : boundColumns "select * from R_USER_MAIN where user_name=?".toList
      = ["user_name"] := by
    decide +kernel
  unfold usersQuery
  rw [if_neg hName]
  exact SimpleQuery.meansUser_of_name hSql rfl

private theorem meansUser_usersOfZoneQuery (hName : name ≠ "") (hZone : isZone zone) :
    (usersOfZoneQuery zone name).MeansUser name isZone := by
  have hSql : boundColumns "select * from R_USER_MAIN where user_name=? and zone_name=?".toList
      = ["user_name", "zone_name"] := by
    decide +kernel
  unfold usersOfZoneQuery
  rw [if_neg hName]
  exact SimpleQuery.meansUser_of_name_zone hSql rfl hZone

theorem boundColumns_zone :
    boundColumns " and R_USER_MAIN.zone_name=?".toList = ["zone_name"] := by
  decide +kernel

private theorem boundColumns_userAuthSql_name :
    boundColumns (userAuthSql ++ " and R_USER_MAIN.user_name=?").toList = ["user_name"] := by
  have hCondition : " and R_USER_MAIN.user_name=?".toList
      = " and R_USER_MAIN".toList ++ '.' :: ("user_name".toList ++ '=' :: '?' :: []) := rfl
  rw [boundColumns_behind placeholders_userAuthSql hCondition (by decide) (by decide) (by decide)
    (by decide) (by decide), String.ofList_toList]
  rfl

private theorem boundColumns_userAuthSql_name_zone :
    boundColumns
        (userAuthSql ++ " and R_USER_MAIN.user_name=? and R_USER_MAIN.zone_name=?").toList
      = ["user_name", "zone_name"] := by
  have hCondition : " and R_USER_MAIN.user_name=? and R_USER_MAIN.zone_name=?".toList
      = " and R_USER_MAIN".toList ++ '.' :: ("user_name".toList
          ++ '=' :: '?' :: " and R_USER_MAIN.zone_name=?".toList) := rfl
  rw [boundColumns_behind placeholders_userAuthSql hCondition (by decide) (by decide) (by decide)
    (by decide) (by decide), String.ofList_toList, boundColumns_zone]

/-- A zone is bound only if there is one. -/
private theorem meansUser_userAuthQuery (hZone : zone ≠ "" → isZone zone) :
    (userAuthQuery (some (name, zone))).MeansUser name isZone := by
  unfold userAuthQuery
  dsimp only
  by_cases hNone : zone = ""
  · rw [if_pos hNone]
    exact SimpleQuery.meansUser_of_name boundColumns_userAuthSql_name rfl
  · rw [if_neg hNone]
    exact SimpleQuery.meansUser_of_name_zone boundColumns_userAuthSql_name_zone rfl (hZone hNone)

private theorem meansUser_quotaQuery (hSql : placeholders sql = 0) (hZone : isZone zone) :
    (quotaQuery sql (some (name, zone))).MeansUser name isZone := by
  have hCondition : " and user_name=? and R_USER_MAIN.zone_name=?".toList
      = " and".toList ++ ' ' :: ("user_name".toList
          ++ '=' :: '?' :: " and R_USER_MAIN.zone_name=?".toList) := rfl
  have hColumns : boundColumns (sql ++ " and user_name=? and R_USER_MAIN.zone_name=?").toList
      = ["user_name", "zone_name"] := by
    rw [boundColumns_behind hSql hCondition (by decide) (by decide) (by decide) (by decide)
      (by decide), String.ofList_toList, boundColumns_zone]
  unfold quotaQuery
  exact SimpleQuery.meansUser_of_name_zone hColumns rfl hZone

end Listing

/-! ## Words that name a user -/

/-- A name has no `#`, and the word is the name alone or goes on behind a `#` with the zone. -/
theorem splitUserName?_eq_some {token name zone : String}
    (hSplit : splitUserName? token = some (name, zone)) :
    '#' ∉ name.toList ∧ (zone = "" ∧ token = name ∨ token = name ++ "#" ++ zone) := by
  unfold splitUserName? at hSplit
  cases hCut : Text.cutAt '#' token.toList with
  | none =>
      rw [hCut] at hSplit
      cases hSplit
      exact ⟨Text.cutAt_eq_none_iff.mp hCut, Or.inl ⟨rfl, rfl⟩⟩
  | some parts =>
      obtain ⟨front, back⟩ := parts
      simp only [hCut] at hSplit
      obtain ⟨hText, hFront⟩ := Text.cutAt_eq hCut
      by_cases hBack : '#' ∈ back
      · rw [if_pos hBack] at hSplit
        cases hSplit
      · rw [if_neg hBack] at hSplit
        cases hSplit
        refine ⟨by rwa [String.toList_ofList], Or.inr (String.toList_inj.mp ?_)⟩
        simp only [hText, String.toList_append, String.toList_ofList, List.append_assoc]
        rfl

private theorem append_hash_ne (name : String) : name ++ "#" ≠ name := by
  intro hSame
  exact absurd (String.append_eq_left_iff.mp hSame) (by decide)

/-- Without a zone there may still be a `#` behind the name. -/
private theorem word_of_splitUserName? {token name zone : String}
    (hSplit : splitUserName? token = some (name, zone)) :
    (token = name ++ "#" → zone = "") ∧ (zone = "" → token = name ∨ token = name ++ "#") := by
  obtain ⟨-, ⟨rfl, rfl⟩ | rfl⟩ := splitUserName?_eq_some hSplit
  · exact ⟨fun _ => rfl, fun _ => Or.inl rfl⟩
  · constructor
    · intro hSame
      simpa using hSame
    · rintro rfl
      exact Or.inr String.append_empty

/-! ## Queries of a run -/

namespace Shell

/-- These calls are pages of these queries, and one of the queries is among them. -/
structure SendsPages (queries : List SimpleQuery) (calls : List Call) : Prop where
  sent : ∃ query ∈ queries, Call.simpleQuery query ∈ calls
  only : ∀ c ∈ calls, ∃ query ∈ queries, ∃ control, c = .simpleQuery { query with control }

/-- Behind look-ups of the local zone, these calls are pages of these queries. -/
def AsksFor (queries : List SimpleQuery) (calls : List Call) : Prop :=
  ∃ lookUps pages, calls = lookUps ++ pages ∧ (∀ c ∈ lookUps, c = localZoneCall) ∧
    SendsPages queries pages

/-- The query is sent, and it is not the one for the local zone. -/
def SendsUserQuery (events : List Event) (query : SimpleQuery) : Prop :=
  Call.simpleQuery query ∈ callsIn events ∧ query ≠ Action.localZoneQuery

/-- Some query for a user is sent, and all of them ask for this one. -/
structure ListsUser (events : List Event) (name : String) (isZone : String → Prop) : Prop where
  sent : ∃ query, SendsUserQuery events query
  only : ∀ query, SendsUserQuery events query → query.MeansUser name isZone

section Pages

variable {queries more : List SimpleQuery} {calls rest : List Call}

private theorem SendsPages.append (hFirst : SendsPages queries calls)
    (hMore : SendsPages more rest) :
    SendsPages (queries ++ more) (calls ++ rest) where
  sent := by
    obtain ⟨query, hQuery, hSent⟩ := hFirst.sent
    exact ⟨query, List.mem_append_left _ hQuery, List.mem_append_left _ hSent⟩
  only := by
    intro c hCall
    rcases List.mem_append.mp hCall with hEarly | hLate
    · obtain ⟨query, hQuery, hPage⟩ := hFirst.only c hEarly
      exact ⟨query, List.mem_append_left _ hQuery, hPage⟩
    · obtain ⟨query, hQuery, hPage⟩ := hMore.only c hLate
      exact ⟨query, List.mem_append_right _ hQuery, hPage⟩

/-- More queries may be allowed. -/
private theorem SendsPages.widen (hPages : SendsPages queries calls) (more : List SimpleQuery) :
    SendsPages (queries ++ more) calls where
  sent := by
    obtain ⟨query, hQuery, hSent⟩ := hPages.sent
    exact ⟨query, List.mem_append_left _ hQuery, hSent⟩
  only := by
    intro c hCall
    obtain ⟨query, hQuery, hPage⟩ := hPages.only c hCall
    exact ⟨query, List.mem_append_left _ hQuery, hPage⟩

/-- A look-up that failed names no zone, whatever is printed behind it. -/
private theorem not_namesZone_of_failed {exchange : Exchange localZoneCall} {lines : List Line}
    {zone : String}
    (hFailed : ∀ reply, exchange.result = .ok reply → reply.status.isFailure = true) :
    ¬NamesZone (⟨Query.call localZoneCall, exchange⟩ :: shown lines) zone := by
  rintro ⟨pushed, reply, hEvent, hSuccess, -⟩
  rcases List.mem_cons.mp hEvent with hFirst | hShown
  · cases hFirst
    rw [hFailed reply rfl] at hSuccess
    cases hSuccess
  · exact absurd rfl (noCall_shown _ hShown localZoneCall)

theorem SendsPages.asksFor (hPages : SendsPages queries calls) : AsksFor queries calls :=
  ⟨[], calls, rfl, nofun, hPages⟩

/-- What is asked for besides the local zone is one user, if all queries ask for that one. -/
theorem AsksFor.listsUser {events : List Event} {name : String} {isZone : String → Prop}
    (hAsks : AsksFor queries (callsIn events))
    (hMeans : ∀ query ∈ queries, query.MeansUser name isZone) : ListsUser events name isZone := by
  obtain ⟨lookUps, pages, hCalls, hLookUps, hPages⟩ := hAsks
  constructor
  · obtain ⟨query, hQuery, hSent⟩ := hPages.sent
    refine ⟨query, ?_, (hMeans query hQuery).ne_localZone⟩
    rw [hCalls]
    exact List.mem_append_right _ hSent
  · rintro query ⟨hSent, hOther⟩
    rw [hCalls] at hSent
    rcases List.mem_append.mp hSent with hLookUp | hPage
    · cases hLookUps _ hLookUp
      exact absurd rfl hOther
    · obtain ⟨first, hFirst, control, hSame⟩ := hPages.only _ hPage
      cases hSame
      exact (hMeans first hFirst).withControl control

end Pages

end Shell

/-! ## Words that are not resolved -/

section Resolving

open Shell (Event State Query callsIn)

variable {token name zone : String} {state after : State} {events : List Event} {e : ShellError}

private theorem Resolves.callsIn {result : Except ShellError (String × String)}
    (hResolves : Resolves token state events result after) :
    ∀ c ∈ callsIn events, c = localZoneCall := by
  intro c hCall
  obtain ⟨exchange, hEvent⟩ := Shell.mem_callsIn_iff.mp hCall
  rcases hResolves.asks _ hEvent with hLookUp | ⟨line, hPrint⟩
  · exact Query.call.inj hLookUp
  · cases hPrint

/-- Where a word cannot be resolved, the zone that it means is not known. -/
private theorem Resolves.not_effectiveZone
    (hResolves : Resolves token state events (.error e) after)
    (hSplit : splitUserName? token = some (name, zone)) :
    ∀ effective, ¬EffectiveZone state.localZone events zone effective := by
  have hUnnamed : ∀ (exchange : Exchange localZoneCall) (lines : List Line),
      state.localZone = none →
      (∀ reply, exchange.result = .ok reply → reply.status.isFailure = true) →
        ∀ effective, ¬EffectiveZone state.localZone
          (⟨Query.call localZoneCall, exchange⟩ :: Shell.shown lines) "" effective := by
    rintro exchange lines hUnknown hFailed effective (⟨hSome, -⟩ | ⟨-, hKnown | ⟨-, hNamed⟩⟩)
    · exact hSome rfl
    · exact absurd (hUnknown.symm.trans hKnown) nofun
    · exact Shell.not_namesZone_of_failed hFailed hNamed
  cases hResolves with
  | malformed hNone => exact absurd (hNone.symm.trans hSplit) nofun
  | unanswered hBare hUnknown =>
      cases hBare.symm.trans hSplit
      exact hUnnamed _ [] hUnknown nofun
  | failed hBare hUnknown hReply =>
      cases hBare.symm.trans hSplit
      refine hUnnamed _ [_] hUnknown ?_
      rintro _ ⟨⟩
      exact hReply

end Resolving

namespace Action

open Shell (Event Context State NamesZone SendsPages AsksFor callsIn)

variable {context : Context} {state : State}

/-- A query sends its pages and nothing else. -/
theorem ensures_runQuery_pages {query : SimpleQuery}
    (hListing : (Call.simpleQuery query).isListing context.user = true) :
    (runQuery query).Ensures context state fun events _ =>
      SendsPages [query] (callsIn events) := by
  intro events last hTrace
  have hRun := ensures_runQuery query context state events last hTrace
  have hPages : Inquires (fun c => ∃ control, c = .simpleQuery { query with control }) context
      (runQuery query) :=
    inquires_runQuery hListing fun control => ⟨control, rfl⟩
  have hAsks := (hPages state events last hTrace).inquiry.1
  constructor
  · obtain ⟨answered, hFirst, rfl⟩ := Option.map_eq_some_iff.mp hRun.first
    refine ⟨answered.query, List.mem_singleton_self _, ?_⟩
    rw [hRun.sent]
    exact List.mem_map.mpr ⟨answered, List.mem_of_getElem? hFirst, rfl⟩
  · intro c hCall
    obtain ⟨exchange, hEvent⟩ := Shell.mem_callsIn_iff.mp hCall
    obtain ⟨control, hPage⟩ := (hAsks _ hEvent).1
    exact ⟨query, List.mem_singleton_self _, control, hPage⟩

/-- Two queries with a heading each. -/
theorem ensures_reports {first second : SimpleQuery} {heading title : Line}
    (hFirst : (Call.simpleQuery first).isListing context.user = true)
    (hSecond : (Call.simpleQuery second).isListing context.user = true) :
    (do
      liftM (Shell.print heading)
      both (runQuery first) do
        liftM (Shell.print title)
        runQuery second : Action Unit).Ensures context state fun events _ =>
      SendsPages [first, second] (callsIn events) := by
  have hTitled : ∀ next, (do liftM (Shell.print title); runQuery second : Action Unit).Ensures
      context next fun events _ => SendsPages [second] (callsIn events) := by
    intro next
    rw [ensures_bind, ensures_lift, Shell.ensures_print]
    exact ensures_runQuery_pages hSecond
  rw [ensures_bind, ensures_lift, Shell.ensures_print]
  refine ensures_both.mpr ((ensures_runQuery_pages hFirst).mono fun front last hFront => ?_)
  rcases last with _ | ⟨result, middle⟩
  · exact hFront.widen [second]
  · refine (hTitled middle).mono fun back end? hBack => ?_
    have hBoth := hFront.append hBack
    rw [← Shell.callsIn_append] at hBoth
    exact hBoth

/-- A word that names a user is resolved to its name and the zone that it means, unless the local
zone is needed and cannot be learned. -/
theorem ensures_resolveUser {token name zone : String}
    (hSplit : splitUserName? token = some (name, zone)) :
    (resolveUser token).Ensures context state fun events last =>
      (∀ c ∈ callsIn events, c = localZoneCall) ∧
        ((∃ effective after, last = some (.ok (name, effective), after) ∧
            EffectiveZone state.localZone events zone effective) ∨
          (∃ e after, last = some (.error e, after)) ∧
            ∀ effective, ¬EffectiveZone state.localZone events zone effective) := by
  refine ensures_resolves.mono ?_
  rintro events last ⟨result, after, rfl, hResolves⟩
  refine ⟨hResolves.callsIn, ?_⟩
  cases result with
  | error e => exact Or.inr ⟨⟨e, after, rfl⟩, hResolves.not_effectiveZone hSplit⟩
  | ok user =>
      obtain ⟨own, hOwn, hZone⟩ := hResolves.effectiveZone
      cases hSplit.symm.trans hOwn
      exact Or.inl ⟨user.2, after, rfl, hZone⟩

/-! ### The three listings -/

section Listings

variable {token name zone : String}

theorem ne_empty_of_splitUserName? (hSplit : splitUserName? token = some (name, zone))
    (hName : name ≠ "") : token ≠ "" := by
  rintro rfl
  cases hSplit
  exact hName rfl

/-- The listing of users binds the name, but the whole word if it has no zone. -/
private theorem listsUser_listUsers {isZone : String → Prop}
    (hSplit : splitUserName? token = some (name, zone)) (hName : name ≠ "")
    (hZone : zone ≠ "" → isZone zone) :
    (listUsers token).Ensures context state fun events _ =>
      Shell.ListsUser events (if zone = "" then token else name) isZone := by
  unfold listUsers
  rw [hSplit]
  dsimp only
  by_cases hNone : zone = ""
  · rw [if_pos hNone, if_pos hNone]
    refine (ensures_runQuery_pages Listing.usersQuery_isListing).mono fun events last hPages => ?_
    refine hPages.asksFor.listsUser (List.forall_mem_singleton.mpr ?_)
    exact Listing.meansUser_usersQuery (ne_empty_of_splitUserName? hSplit hName)
  · rw [if_neg hNone, if_neg hNone]
    refine (ensures_runQuery_pages Listing.usersOfZoneQuery_isListing).mono
      fun events last hPages => ?_
    refine hPages.asksFor.listsUser (List.forall_mem_singleton.mpr ?_)
    exact Listing.meansUser_usersOfZoneQuery hName (hZone hNone)

private theorem listsUser_listUserAuth {isZone : String → Prop}
    (hSplit : splitUserName? token = some (name, zone)) (hName : name ≠ "")
    (hZone : zone ≠ "" → isZone zone) :
    (listUserAuth token).Ensures context state fun events _ =>
      Shell.ListsUser events name isZone := by
  unfold listUserAuth
  rw [if_neg (ne_empty_of_splitUserName? hSplit hName), hSplit]
  refine (ensures_runQuery_pages Listing.userAuthQuery_isListing).mono fun events last hPages => ?_
  refine hPages.asksFor.listsUser (List.forall_mem_singleton.mpr ?_)
  exact Listing.meansUser_userAuthQuery hZone

/-- The listing of quotas binds the name and the zone that the word means, unless the local zone is
needed and cannot be learned. -/
private theorem listsUser_listQuotas (hSplit : splitUserName? token = some (name, zone))
    (hName : name ≠ "") :
    (listQuotas token).Ensures context state fun events _ =>
      Shell.ListsUser events name (EffectiveZone state.localZone events zone) ∨
        (∀ query, ¬Shell.SendsUserQuery events query) ∧
          ∀ effective, ¬EffectiveZone state.localZone events zone effective := by
  unfold listQuotas
  rw [if_neg (ne_empty_of_splitUserName? hSplit hName), ensures_bind, ensures_map]
  refine (ensures_resolveUser hSplit).mono ?_
  rintro lookUps last ⟨hLookUps, ⟨effective, after, rfl, hZone⟩ | ⟨⟨e, after, rfl⟩, hNone⟩⟩
  · refine (ensures_reports Listing.resourceQuota_isListing Listing.globalQuota_isListing).mono
      fun pages last hPages => Or.inl ?_
    have hAll : EffectiveZone state.localZone (lookUps ++ pages) zone effective := by
      have hWider := hZone.surround [] pages
      rwa [List.nil_append] at hWider
    have hAsks : AsksFor _ (callsIn (lookUps ++ pages)) :=
      ⟨callsIn lookUps, callsIn pages, Shell.callsIn_append, hLookUps, hPages⟩
    refine hAsks.listsUser (List.forall_mem_cons.mpr ⟨?_, List.forall_mem_singleton.mpr ?_⟩)
    · exact Listing.meansUser_quotaQuery Listing.placeholders_resourceQuotaSql hAll
    · exact Listing.meansUser_quotaQuery Listing.placeholders_globalQuotaSql hAll
  · refine Or.inr ⟨?_, hNone⟩
    rintro query ⟨hSent, hOther⟩
    cases hLookUps _ hSent
    exact hOther rfl

end Listings

end Action

/-! ## Dispatched commands -/

namespace Shell

section Dispatches

variable {settings : Settings} {context : Context} {state : State} {command : Command}
  {events : List Event} {ended? : Option (Outcome × State)} {known : Option String}
  {name zone effective : String} {isZone : String → Prop}
  {last : Option (Except ShellError Unit × State)}

/-- The zone that is meant is decided by the handler of a command, and not by its echo or its
report. -/
private theorem effectiveZone_dispatched :
    EffectiveZone known (echoed settings command ++ events ++ reportOf last) zone effective
      ↔ EffectiveZone known events zone effective := by
  constructor
  · rintro (hOwn | ⟨hNone, hOld | ⟨hUnknown, pushed, reply, hEvent, hNamed⟩⟩)
    · exact Or.inl hOwn
    · exact Or.inr ⟨hNone, Or.inl hOld⟩
    · have hInBody := mem_dispatched_call.mp hEvent
      exact Or.inr ⟨hNone, Or.inr ⟨hUnknown, pushed, reply, hInBody, hNamed⟩⟩
  · exact fun hZone => hZone.surround _ _

theorem sendsUserQuery_dispatched {query : SimpleQuery} :
    SendsUserQuery (echoed settings command ++ events ++ reportOf last) query
      ↔ SendsUserQuery events query := by
  rw [SendsUserQuery, callsIn_dispatched]
  rfl

theorem ListsUser.dispatched
    (hLists : ListsUser events name isZone) :
    ListsUser (echoed settings command ++ events ++ reportOf last) name isZone where
  sent := hLists.sent.imp fun _ => sendsUserQuery_dispatched.mpr
  only := fun query hSent => hLists.only query (sendsUserQuery_dispatched.mp hSent)

/-- A user is told from another one by the name that is bound. -/
private theorem ListsUser.eq {other : String} {isOther : String → Prop}
    (hLists : ListsUser events name isZone)
    (hOther : ∀ query, SendsUserQuery events query → query.MeansUser other isOther) :
    name = other := by
  obtain ⟨query, hSent⟩ := hLists.sent
  have hSame := (hLists.only query hSent).name.symm.trans (hOther query hSent).name
  exact (List.cons.inj hSame).1

/-- What a listing sends is sent by its handler. -/
theorem DispatchTrace.lists {listing : Listing} {post : List Event → Prop}
    (hTrace : DispatchTrace context state command events ended?)
    (hHandler : Verb.handler? command.verb = some (.listing listing))
    (hPost : ∀ next, next.localZone = state.localZone →
      (Action.list listing command).Ensures context next fun events _ => post events) :
    ∃ body last, events = echoed context.settings command ++ body ++ reportOf last ∧ post body := by
  obtain ⟨body, last, hBody, rfl, -⟩ := hTrace.of_handler hHandler nofun
  exact ⟨body, last, rfl, hPost { state with lastStatus := .success } rfl body last hBody⟩

theorem DispatchTrace.users (hTrace : DispatchTrace context state command events ended?)
    (hVerb : command.verb = "lu") (hSplit : splitUserName? (command.arg 1) = some (name, zone))
    (hName : name ≠ "") (hZone : zone ≠ "" → isZone zone) :
    ListsUser events (if zone = "" then command.arg 1 else name) isZone := by
  have hHandler : Verb.handler? command.verb = some (.listing .users) := by
    rw [hVerb]
    decide +kernel
  obtain ⟨body, last, rfl, hLists⟩ := hTrace.lists hHandler fun next _ =>
    Action.listsUser_listUsers hSplit hName hZone
  exact hLists.dispatched

private theorem DispatchTrace.userAuth (hTrace : DispatchTrace context state command events ended?)
    (hVerb : command.verb = "lua") (hSplit : splitUserName? (command.arg 1) = some (name, zone))
    (hName : name ≠ "") (hZone : zone ≠ "" → isZone zone) : ListsUser events name isZone := by
  have hHandler : Verb.handler? command.verb = some (.listing .userAuth) := by
    rw [hVerb]
    decide +kernel
  obtain ⟨body, last, rfl, hLists⟩ := hTrace.lists hHandler fun next _ =>
    Action.listsUser_listUserAuth hSplit hName hZone
  exact hLists.dispatched

theorem DispatchTrace.quotas (hTrace : DispatchTrace context state command events ended?)
    (hVerb : command.verb = "lq") (hSplit : splitUserName? (command.arg 1) = some (name, zone))
    (hName : name ≠ "") :
    ListsUser events name (EffectiveZone state.localZone events zone) ∨
      (∀ query, ¬SendsUserQuery events query) ∧
        ∀ effective, ¬EffectiveZone state.localZone events zone effective := by
  have hHandler : Verb.handler? command.verb = some (.listing .quotas) := by
    rw [hVerb]
    decide +kernel
  obtain ⟨body, last, rfl, hBody⟩ := hTrace.lists hHandler fun next hKnown =>
    hKnown ▸ Action.listsUser_listQuotas hSplit hName
  have hMeans : EffectiveZone state.localZone
      (echoed context.settings command ++ body ++ reportOf last) zone
        = EffectiveZone state.localZone body zone :=
    funext fun effective => propext effectiveZone_dispatched
  rw [hMeans]
  refine hBody.imp ListsUser.dispatched (And.imp_left fun hNone query => ?_)
  rw [sendsUserQuery_dispatched]
  exact hNone query

end Dispatches

/-- Whatever is configured and answered, and whatever the word is that names a user, the three
listings bind the name in it where a statement asks for the name of a user, and a zone only if it
is the one that the word means.  The only exception is the listing of users for a name with a
`#` behind it and no zone: then the name is bound together with its `#`, and no zone at all.
A listing asks for no user only where it needs the local zone and cannot learn it. -/
theorem listings_mean_user_iff {σ : Type} (handler : Proc.Handler interface σ) (surroundings : σ)
    (context : Context) (state : State) (command : Command) {name zone : String}
    (hVerb : command.verb = "lu" ∨ command.verb = "lua" ∨ command.verb = "lq")
    (hSplit : splitUserName? (command.arg 1) = some (name, zone)) (hName : name ≠ "") :
    let run := (toProc (dispatch command) context state).run handler surroundings
    let means := EffectiveZone state.localZone run.events zone
    '#' ∉ name.toList ∧
    ((∀ query, SendsUserQuery run.events query → query.MeansUser name means)
      ↔ ¬(command.verb = "lu" ∧ command.arg 1 = name ++ "#")) ∧
    (command.verb = "lu" → command.arg 1 = name ++ "#" →
      ListsUser run.events (name ++ "#") fun _ => False) ∧
    ((∀ query, ¬SendsUserQuery run.events query) →
      command.verb = "lq" ∧ ∀ effective, ¬means effective) := by
  intro run means
  have hTrace := dispatchTrace_run handler surroundings context state command
  obtain ⟨hHash, hWord⟩ := word_of_splitUserName? hSplit
  have hOwn : zone ≠ "" → means zone := fun hZone => Or.inl ⟨hZone, rfl⟩
  refine ⟨(splitUserName?_eq_some hSplit).1, ?_⟩
  -- In the exception the name that is bound is another one, so that no query means the user.
  have hExcept : command.verb = "lu" → command.arg 1 = name ++ "#" →
      ListsUser run.events (name ++ "#") fun _ => False := by
    intro hUsers hToken
    have hNone := hHash hToken
    have hLists : ListsUser run.events (if zone = "" then command.arg 1 else name) fun _ => False :=
      hTrace.users hUsers hSplit hName fun hZone => hZone hNone
    rwa [if_pos hNone, hToken] at hLists
  have hElse : ¬(command.verb = "lu" ∧ command.arg 1 = name ++ "#") →
      ListsUser run.events name means ∨ command.verb = "lq" ∧
        (∀ query, ¬SendsUserQuery run.events query) ∧ ∀ effective, ¬means effective := by
    intro hOther
    rcases hVerb with hUsers | hAuth | hQuotas
    · have hLists := hTrace.users hUsers hSplit hName hOwn
      by_cases hNone : zone = ""
      · rw [if_pos hNone, (hWord hNone).resolve_right fun hToken => hOther ⟨hUsers, hToken⟩]
          at hLists
        exact Or.inl hLists
      · rw [if_neg hNone] at hLists
        exact Or.inl hLists
    · exact Or.inl (hTrace.userAuth hAuth hSplit hName hOwn)
    · exact (hTrace.quotas hQuotas hSplit hName).imp_right fun hNone => ⟨hQuotas, hNone⟩
  refine ⟨⟨?_, fun hOther => ?_⟩, hExcept, fun hSilent => ?_⟩
  · rintro hMeans ⟨hUsers, hToken⟩
    exact append_hash_ne name ((hExcept hUsers hToken).eq hMeans)
  · rcases hElse hOther with hLists | ⟨-, hSilent, -⟩
    · exact hLists.only
    · exact fun query hSent => (hSilent query hSent).elim
  · have hOther : ¬(command.verb = "lu" ∧ command.arg 1 = name ++ "#") := by
      rintro ⟨hUsers, hToken⟩
      obtain ⟨query, hSent⟩ := (hExcept hUsers hToken).sent
      exact hSilent query hSent
    rcases hElse hOther with hLists | ⟨hQuotas, -, hNone⟩
    · obtain ⟨query, hSent⟩ := hLists.sent
      exact (hSilent query hSent).elim
    · exact ⟨hQuotas, hNone⟩

/-! ## A name with a hash -/

namespace HashedName

def context : Context :=
  { settings := { zone := "tempZone" }, user := ⟨"rods", "tempZone"⟩, fuel := 1 }

def run : Proc.Run interface Rehearsal (Outcome × State) :=
  (toProc (dispatch (.ofWords ["lu", "alice#"])) context State.initial).run Rehearsal.handler
    ⟨{}, {}, 0⟩

end HashedName

open HashedName in
/-- The listing of users asks for `alice#`, and not for `alice`, whom the other two would ask
for. -/
theorem user_not_meant_with_hash :
    (∃ query, SendsUserQuery run.events query ∧ query.boundTo "user_name" = ["alice#"]) ∧
      ¬∀ query, SendsUserQuery run.events query → query.boundTo "user_name" = ["alice"] := by
  have hName : "alice" ≠ "" := by decide
  obtain ⟨-, -, hExcept, -⟩ := listings_mean_user_iff Rehearsal.handler ⟨{}, {}, 0⟩ context
    State.initial (.ofWords ["lu", "alice#"]) (Or.inl rfl) rfl hName
  have hLists := hExcept rfl rfl
  obtain ⟨query, hSent⟩ := hLists.sent
  have hBound := (hLists.only query hSent).name
  refine ⟨⟨query, hSent, hBound⟩, fun hAll => ?_⟩
  rw [hAll query hSent] at hBound
  exact absurd hBound (by decide)

end Shell

end GridAdmin
