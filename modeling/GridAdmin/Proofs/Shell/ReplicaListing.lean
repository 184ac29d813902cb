import GridAdmin.Proofs.Shell.ReplicaIdentity
import GridAdmin.Proofs.Shell.Pages
import GridAdmin.Proofs.TextCuts

/-!
# The listing of a replica

The listing of a replica asks the catalog one query and shows the answer under the names of
the columns.  The names are no part of the answer: a row holds values alone, and the shell puts
the names in front of them by position.  So the listing is right only if the query asks for the
columns in the order in which the names are put.

That order is read off the text of the query here, and not off the table that the shell makes
the text from.  A catalog knows the text alone.

Before the query the words are checked, and behind it there are four ways to end: there are
rows to show, there are none, the query failed, or it was not answered.

## Main definitions

* `selectList`: the columns that the text of a query asks for.
* `ShowsRow`, `ShowsRows`: lines that show rows under these columns.
* `Shell.ShowsReplica`: what is shown for an answer, and what it leaves behind.

## Main results

* `selectList_select`: the columns that a query asks for are those that it lists.
* `showsRows_rowLines`: the lines for some rows, whatever their number and their widths.
* `replica_listed`: the listing as a whole, for every command and every service.
-/

namespace GridAdmin

/-! ## Columns of a query -/

/-- The words of a query between `select` and `where`, each up to its comma: the columns that
the query asks for. -/
def selectList (query : String) : List String :=
  (((query.toList.splitOn ' ').drop 1).takeWhile (· ≠ "where".toList)).map fun word =>
    String.ofList (Text.before ',' word)

/-- A name that a list of columns can hold: it is one word, no comma ends it early, and it does
not end the list. -/
structure IsColumnName (column : String) : Prop where
  oneWord : ' ' ∉ column.toList
  noComma : ',' ∉ column.toList
  notLast : column ≠ "where"

/-- The words of a list of columns: behind all of them but the last there is a comma. -/
def listedWords : List String → List (List Char)
  | [] => []
  | [column] => [column.toList]
  | column :: next :: rest => (column.toList ++ [',']) :: listedWords (next :: rest)

section ListedColumns

variable {columns : List String}

private theorem splitOn_listed (hNames : ∀ column ∈ columns, IsColumnName column)
    (hSome : columns ≠ [])
    (tail : List Char) :
    ((", ".intercalate columns).toList ++ ' ' :: tail).splitOn ' '
      = listedWords columns ++ tail.splitOn ' ' := by
  induction columns using listedWords.induct with
  | case1 => exact absurd rfl hSome
  | case2 column =>
      have hWord := (hNames column List.mem_cons_self).oneWord
      rw [String.intercalate_singleton, List.splitOn_append_cons_self_of_not_mem hWord]
      rfl
  | case3 column next rest ih =>
      have hRest := ih (fun other hMem => hNames other (List.mem_cons_of_mem _ hMem))
        (List.cons_ne_nil _ _)
      have hWord : ' ' ∉ column.toList ++ [','] := by
        rw [List.mem_append, not_or]
        exact ⟨(hNames column List.mem_cons_self).oneWord, by decide⟩
      have hText : (", ".intercalate (column :: next :: rest)).toList ++ ' ' :: tail
          = (column.toList ++ [','])
            ++ ' ' :: ((", ".intercalate (next :: rest)).toList ++ ' ' :: tail) := by
        rw [String.intercalate_cons_cons, String.toList_append, String.toList_append]
        simp only [List.append_assoc]
        rfl
      rw [hText, List.splitOn_append_cons_self_of_not_mem hWord, hRest]
      rfl

/-- Up to the comma, the words are the names. -/
private theorem map_listedWords (hNames : ∀ column ∈ columns, IsColumnName column) :
    (listedWords columns).map (fun word => String.ofList (Text.before ',' word)) = columns := by
  induction columns using listedWords.induct with
  | case1 => rfl
  | case2 column =>
      have hComma := (hNames column List.mem_cons_self).noComma
      rw [listedWords, List.map_singleton, Text.before_of_not_mem hComma, String.ofList_toList]
  | case3 column next rest ih =>
      have hRest := ih fun other hMem => hNames other (List.mem_cons_of_mem _ hMem)
      have hComma := (hNames column List.mem_cons_self).noComma
      rw [listedWords, List.map_cons, Text.before_append hComma, String.ofList_toList, hRest]

/-- The list of columns does not end early. -/
private theorem ne_where_of_mem_listedWords (hNames : ∀ column ∈ columns, IsColumnName column)
    {word : List Char} (hWord : word ∈ listedWords columns) : word ≠ "where".toList := by
  induction columns using listedWords.induct with
  | case1 => cases hWord
  | case2 column =>
      cases List.mem_singleton.mp hWord
      intro hSame
      exact (hNames column List.mem_cons_self).notLast (String.toList_inj.mp hSame)
  | case3 column next rest ih =>
      rw [listedWords, List.mem_cons] at hWord
      rcases hWord with rfl | hLater
      · intro hSame
        have hComma : ',' ∈ "where".toList := hSame ▸ List.mem_append_right _ List.mem_cons_self
        exact absurd hComma (by decide)
      · exact ih (fun other hMem => hNames other (List.mem_cons_of_mem _ hMem)) hLater

/-- A query asks for the columns that it lists, whatever it selects by. -/
theorem selectList_select (hNames : ∀ column ∈ columns, IsColumnName column)
    (hSome : columns ≠ []) (conditions : String) :
    selectList ("select " ++ ", ".intercalate columns ++ " where " ++ conditions) = columns := by
  have hText : ("select " ++ ", ".intercalate columns ++ " where " ++ conditions).toList
      = "select".toList ++ ' ' :: ((", ".intercalate columns).toList
          ++ ' ' :: ("where".toList ++ ' ' :: conditions.toList)) := by
    simp only [String.toList_append, List.append_assoc]
    rfl
  have hSelect : ' ' ∉ "select".toList := by decide
  have hWhere : ' ' ∉ "where".toList := by decide
  have hWords : ∀ word ∈ listedWords columns, decide (word ≠ "where".toList) = true :=
    fun word hWord => decide_eq_true (ne_where_of_mem_listedWords hNames hWord)
  rw [selectList, hText, List.splitOn_append_cons_self_of_not_mem hSelect,
    splitOn_listed hNames hSome, List.splitOn_append_cons_self_of_not_mem hWhere,
    List.drop_succ_cons, List.drop_zero, List.takeWhile_append_of_pos hWords,
    List.takeWhile_cons_of_neg (by simp), List.append_nil, map_listedWords hNames]

end ListedColumns

private theorem Attribute.isColumnName_of_mem :
    ∀ column ∈ Attribute.columns, IsColumnName column := by
  have hTable : ∀ column ∈ Attribute.columns,
      ' ' ∉ column.toList ∧ ',' ∉ column.toList ∧ column ≠ "where" := by
    decide +kernel
  intro column hMem
  obtain ⟨hWord, hComma, hLast⟩ := hTable column hMem
  exact ⟨hWord, hComma, hLast⟩

/-- Whatever a query for a replica selects, it asks for all columns of the table, in the order
of the table. -/
theorem selectList_query {object : DataObject} {replica : Replica} :
    selectList (Replica.query object replica) = Attribute.columns := by
  have hText : Replica.query object replica
      = "select " ++ ", ".intercalate Attribute.columns ++ " where "
        ++ (object.condition ++ " and " ++ replica.condition) := by
    simp only [Replica.query, String.append_assoc]
  rw [hText, selectList_select Attribute.isColumnName_of_mem (List.cons_ne_nil _ _)]

/-! ## Rows under their columns -/

/-- The lines show a row: one for each value that has a column, with the name of the column in
front. -/
structure ShowsRow (columns row lines : List String) : Prop where
  length : lines.length = min columns.length row.length
  line : ∀ (index : Nat) (column value : String), columns[index]? = some column →
    row[index]? = some value → lines[index]? = some (column ++ ": " ++ value)

/-- The lines show the rows, one behind the other. -/
inductive ShowsRows (columns : List String) : List (List String) → List String → Prop where
  | nil : ShowsRows columns [] []
  | cons {row lines : List String} {rows : List (List String)} {rest : List String}
      (hRow : ShowsRow columns row lines) (hRest : ShowsRows columns rows rest) :
      ShowsRows columns (row :: rows) (lines ++ rest)

section Rows

variable {columns row lines other : List String} {rows : List (List String)}

private theorem showsRow_zip :
    ShowsRow columns row ((columns.zip row).map fun (column, value) => column ++ ": " ++ value) where
  length := by
    rw [List.length_map, List.length_zip]
  line := by
    intro index column value hColumn hValue
    have hPair : (columns.zip row)[index]? = some (column, value) :=
      List.getElem?_zip_eq_some.mpr ⟨hColumn, hValue⟩
    rw [List.getElem?_map, hPair]
    rfl

/-- The lines for some rows show them under the columns of the table. -/
theorem showsRows_rowLines : ShowsRows Attribute.columns rows (Replica.rowLines rows) := by
  induction rows with
  | nil => exact .nil
  | cons row rest ih =>
      unfold Replica.rowLines at ih ⊢
      rw [List.flatMap_cons]
      exact .cons showsRow_zip ih

/-- A row is shown in one way only. -/
private theorem ShowsRow.eq (hShows : ShowsRow columns row lines)
    (hOther : ShowsRow columns row other) :
    lines = other := by
  apply List.ext_getElem?
  intro index
  by_cases hIndex : index < min columns.length row.length
  · have hColumn := List.getElem?_eq_getElem (Nat.lt_of_lt_of_le hIndex (Nat.min_le_left _ _))
    have hValue := List.getElem?_eq_getElem (Nat.lt_of_lt_of_le hIndex (Nat.min_le_right _ _))
    rw [hShows.line index _ _ hColumn hValue, hOther.line index _ _ hColumn hValue]
  · rw [List.getElem?_eq_none (hShows.length ▸ Nat.not_lt.mp hIndex),
      List.getElem?_eq_none (hOther.length ▸ Nat.not_lt.mp hIndex)]

/-- Rows are shown in one way only. -/
private theorem ShowsRows.eq (hShows : ShowsRows columns rows lines)
    (hOther : ShowsRows columns rows other) : lines = other := by
  induction hShows generalizing other with
  | nil =>
      cases hOther
      rfl
  | cons hRow hRest ih =>
      cases hOther with
      | cons hOwn hMore => rw [hRow.eq hOwn, ih hMore]

end Rows

/-! ## The verb -/

namespace Shell

/-- What is shown for an answer to the query for a replica, the status that is recorded, and
the error stack that is left of this one. -/
inductive ShowsReplica (query : String) (stack : ErrorStack) :
    Except ClientError GeneralReply → List Line → Status → ErrorStack → Prop where
  | listed {reply : GeneralReply} {texts : List String} (hSuccess : reply.status.isFailure = false)
      (hRows : reply.rows ≠ []) (hShows : ShowsRows (selectList query) reply.rows texts) :
      ShowsReplica query stack (.ok reply) (texts.map .out) .success stack
  | empty {reply : GeneralReply}
      (hEmpty : reply.status = .noRowsFound ∨ reply.status.isFailure = false ∧ reply.rows = []) :
      ShowsReplica query stack (.ok reply) [.out "No results found."] .success stack
  | rejected {reply : GeneralReply} (hFailure : reply.status.isFailure = true)
      (hOther : reply.status ≠ .noRowsFound) :
      ShowsReplica query stack (.ok reply)
        (stackLines 0 stack ++ [.commandFailed (.remoteFailure .replica reply.status)])
        reply.status []
  | unanswered (e : ClientError) :
      ShowsReplica query stack (.error e) [.commandFailed (.client e)] e.status stack

end Shell

namespace Action

open Shell (Event Context State ShowsReplica reportOf endOf)

variable {context : Context} {state : State} {command : Command} {object : DataObject}
  {replica : Replica}

/-- Words that select nothing end the command before anything happens. -/
private theorem ensures_listReplica_of_error {e : ShellError}
    (hError : command.selection 5 = .error e) :
    (listReplica command).Ensures context state fun events last =>
      events = [] ∧ last = some (.error e, state) := by
  unfold listReplica
  rw [ensures_bind, ensures_result, hError]
  exact ⟨rfl, rfl⟩

/-- The one query, and what is made of its answer. -/
private theorem ensures_listReplica_of_ok (hSelection : command.selection 5 = .ok (object, replica))
    (hQuiet : context.settings.veryVerbose = false) (hStatus : state.lastStatus = .success) :
    (listReplica command).Ensures context state fun events last =>
      ∃ (exchange : Exchange (.generalQuery (Replica.query object replica) (some context.user.zone)))
        (lines : List Line) (after : State),
        events ++ reportOf last
            = ⟨Shell.Query.call (.generalQuery (Replica.query object replica)
                (some context.user.zone)), exchange⟩ :: Shell.shown lines ∧
          endOf last = some (.handled, after) ∧
          ShowsReplica (Replica.query object replica) (state.stack ++ exchange.pushed)
            exchange.result lines after.lastStatus after.stack := by
  unfold listReplica
  rw [ensures_bind, ensures_result, hSelection]
  dsimp only
  rw [ensures_bind, ensures_read]
  dsimp only
  rw [hQuiet]
  refine ensures_ite.mpr ⟨nofun, fun _ => ?_⟩
  rw [ensures_bind, ensures_call]
  rintro ⟨pushed, e | reply⟩
  · exact ⟨⟨pushed, .error e⟩, _, _, rfl, rfl, .unanswered e⟩
  refine ensures_ite.mpr ⟨fun hEmpty => ?_, fun hAnswer => ?_⟩
  · rw [reply.status.isSuccess_eq_not_isFailure, Bool.not_eq_true'] at hEmpty
    exact ensures_bind.mpr (ensures_throw.mpr
      ⟨⟨pushed, .ok reply⟩, _, _, rfl, rfl, .empty hEmpty⟩)
  rw [not_or] at hAnswer
  obtain ⟨hOther, hFilled⟩ := hAnswer
  refine ensures_ite.mpr ⟨fun hFailure => ?_, fun hSuccess => ?_⟩
  · refine ensures_bind.mpr (ensures_lift.mpr (Shell.ensures_drain.mpr ?_))
    refine ensures_bind.mpr (ensures_throw.mpr ?_)
    refine ⟨⟨pushed, .ok reply⟩, _, _, ?_, rfl, .rejected hFailure hOther⟩
    rw [Shell.shown_append]
    simp [State.push, reportOf, Shell.failureLine]
  · rw [Bool.not_eq_true] at hSuccess
    have hRows : reply.rows ≠ [] := by
      intro hNone
      rw [reply.status.isSuccess_eq_not_isFailure, hSuccess] at hFilled
      exact hFilled ⟨rfl, hNone⟩
    have hShows : ShowsRows (selectList (Replica.query object replica)) reply.rows
        (Replica.rowLines reply.rows) := by
      rw [selectList_query]
      exact showsRows_rowLines
    refine ensures_lift.mpr (Shell.ensures_printAll.mpr ?_)
    refine ⟨⟨pushed, .ok reply⟩, (Replica.rowLines reply.rows).map .out, _, ?_, rfl, ?_⟩
    · exact List.append_nil _
    · have hEnd : ShowsReplica (Replica.query object replica) (state.stack ++ pushed) (.ok reply)
          ((Replica.rowLines reply.rows).map .out) .success (state.stack ++ pushed) :=
        .listed hSuccess hRows hShows
      rw [← hStatus] at hEnd
      exact hEnd

end Action

/-! ## Dispatched commands -/

namespace Shell

/-- Whatever is configured and answered, and unless queries are shown, the listing of a replica
goes as follows.  If there are five words and they select a replica, one query is asked and
nothing else, with the zone of the user as the hint.  Its text asks for 22 columns.  What is
shown and recorded is known from the answer alone: rows come line by line under the columns
that the text asks for, an answer without rows is told as such, a failure is reported and
empties the error stack, and a missing answer is reported.  If the words select nothing,
nothing is asked and the command is refused. -/
theorem replica_listed {σ : Type} (handler : Proc.Handler interface σ) (surroundings : σ)
    (context : Context) (state : State) (command : Command) (hVerb : command.verb = "ls")
    (hQuiet : context.settings.veryVerbose = false) :
    let run := (toProc (dispatch command) context state).run handler surroundings
    (∀ object replica, 5 ≤ command.words.length →
      DataObject.resolve (command.arg 1) (command.arg 2) = .ok object →
      Replica.resolve (command.arg 3) (command.arg 4) = .ok replica →
        let query := Replica.query object replica
        (selectList query).length = 22 ∧
        ∃ (exchange : Exchange (.generalQuery query (some context.user.zone)))
          (lines : List Line) (after : State),
          run.events
              = ⟨Query.call (.generalQuery query (some context.user.zone)), exchange⟩
                :: shown lines ∧
            run.value? = some (.handled, after) ∧
            ShowsReplica query (state.stack ++ exchange.pushed) exchange.result lines
              after.lastStatus after.stack) ∧
    ((¬∃ object replica, 5 ≤ command.words.length ∧
      DataObject.resolve (command.arg 1) (command.arg 2) = .ok object ∧
      Replica.resolve (command.arg 3) (command.arg 4) = .ok replica) →
        NoCall run.events ∧
          run.value? = some (.invalid, { state with lastStatus := .invalidInput })) := by
  intro run
  have hTrace := dispatchTrace_run handler surroundings context state command
  have hHandler : Verb.handler? command.verb = some (.replica .list) := by
    rw [hVerb]
    decide +kernel
  obtain ⟨body, last, hBody, hEvents, hEnd⟩ := hTrace.of_handler hHandler nofun
  have hSilent : echoed context.settings command = [] := by
    rw [echoed, hQuiet]
    rfl
  rw [hSilent, List.nil_append] at hEvents
  constructor
  · intro object replica hWords hObject hReplica query
    have hSelection := Command.selection_eq_ok_iff.mpr ⟨hWords, hObject, hReplica⟩
    obtain ⟨exchange, lines, after, hAll, hAfter, hShows⟩ :=
      Action.ensures_listReplica_of_ok hSelection hQuiet rfl body last hBody
    refine ⟨?_, exchange, lines, after, hEvents.trans hAll, hEnd.trans hAfter, hShows⟩
    rw [selectList_query]
    rfl
  · intro hNone
    cases hSelection : command.selection 5 with
    | ok selected =>
        exact absurd ⟨selected.1, selected.2, Command.selection_eq_ok_iff.mp hSelection⟩ hNone
    | error e =>
        obtain ⟨rfl, rfl⟩ := Action.ensures_listReplica_of_error hSelection body last hBody
        have hFault := Command.isWordFault_of_selection hSelection
        refine ⟨?_, ?_⟩
        · rw [hEvents]
          exact noCall_shown
        · rw [hEnd, endOf, failureOutcome_eq_invalid_iff.mpr hFault.isLocal, hFault.status_eq]

/-! ## A row of two values -/

namespace TwoValues

def context : Context :=
  { settings := { zone := "tempZone" }, user := ⟨"rods", "tempZone"⟩, fuel := 1 }

/-- A service that answers every query with values for the first two columns. -/
def answer : (query : Query) → Rehearsal → query.Answer × Rehearsal
  | .call (.generalQuery _ _), rehearsal =>
      (⟨[], .ok ⟨.success, [["10001", "01600000000"]]⟩⟩, rehearsal)
  | query, rehearsal => Rehearsal.answer query rehearsal

def command : Command :=
  .ofWords ["ls", "data_id", "10", "replica_number", "0"]

def run : Proc.Run interface Rehearsal (Outcome × State) :=
  (toProc (dispatch command) context State.initial).run ⟨answer⟩ ⟨{}, {}, 0⟩

end TwoValues

open TwoValues in
/-- The two values are shown under the first two columns that the query asks for. -/
theorem replica_listed_in_part :
    callsIn run.events
        = [.generalQuery (Replica.query (.withId 10) (.numbered 0)) (some "tempZone")] ∧
      printedOn .out run.events = ["COLL_ID: 10001", "DATA_CREATE_TIME: 01600000000"] := by
  obtain ⟨hListed, -⟩ := replica_listed ⟨answer⟩ ⟨{}, {}, 0⟩ context State.initial command rfl rfl
  obtain ⟨-, exchange, lines, after, hEvents, -, hShows⟩ :=
    hListed (.withId 10) (.numbered 0) (by decide) rfl rfl
  have hRun : run.events = ⟨.call (.generalQuery
      (Replica.query (.withId 10) (.numbered 0)) (some "tempZone")), exchange⟩ :: shown lines :=
    hEvents
  have hAnswer : run.events.head? = some ⟨.call (.generalQuery
      (Replica.query (.withId 10) (.numbered 0)) (some "tempZone")),
        ⟨[], .ok ⟨.success, [["10001", "01600000000"]]⟩⟩⟩ := by
    rfl
  rw [hRun] at hAnswer
  cases hAnswer
  constructor
  · rw [hRun, callsIn_cons_call, callsIn_shown]
  rw [hRun, printedOn_cons_call]
  generalize after.lastStatus = status, after.stack = left at hShows
  cases hShows with
  | empty hEmpty => exact absurd hEmpty (by decide)
  | rejected hFailure hOther => exact absurd hFailure (by decide)
  | listed hSuccess hRows hTexts =>
      rw [printedOn_out]
      rw [selectList_query] at hTexts
      exact hTexts.eq showsRows_rowLines

end Shell

end GridAdmin
