import GridAdmin.Proofs.Shell.SingleRequest

/-!
# Pages of a listing

A listing is answered in pages, and the service says with each page whether there is
another one and under which cursor.  Running a query means to hold this conversation: the
next request is the same query with the cursor that came last, it is made exactly if there
is one, and every page is shown once, in the order of arrival.

A conversation is read off the events of a run as the list of its exchanges.  It has three
shapes: an answer ends it, an answer is followed by the rest of it, or the fuel is used up by
answers that all asked for more.  The last shape is no answer of the program.  It is why the
statements below hold of every request that the fuel reaches, and of all requests when the
run has come to an end.

The first page differs from the others in what is printed when it fails: an empty listing is
announced, and the diagnostics of a rejected one are shown.

## Main definitions

* `Shell.Answered`: a request for a page and what came back.
* `Shell.Conversation`: the exchanges of a run.
* `Shell.AsksOn`: everything up to some page has arrived, and the page has a cursor.
* `Shell.FollowsCursors`: all that is said about a run and its exchanges.

## Main results

* `Action.ensures_behind_page`: behind each page the conversation goes on.
* `Conversation.next_iff`: which requests are made.
* `Conversation.exhausted_iff`, `Conversation.conclusion_of_end`: how it ends.
* `runQuery_followsCursors`: every run of a query is such a conversation.
-/

namespace GridAdmin

namespace Shell

/-! ## Exchanges -/

/-- A request for a page and what came back. -/
structure Answered where
  query : SimpleQuery
  result : Except ClientError SimpleReply

namespace Answered

/-- The lines that the exchange has shown: those of the page, if one arrived. -/
def texts (answered : Answered) : List String :=
  match answered.result with
  | .ok page => if page.status.isFailure then [] else Listing.pageText page.outBuf
  | .error _ => []

/-- The cursor of the next page; `none` if no page arrived, or if it was the last. -/
def cursor? (answered : Answered) : Option Int32 :=
  match answered.result with
  | .ok page => if page.status.isFailure = false ∧ 0 < page.control then some page.control else none
  | .error _ => none

/-- How a listing ends whose last exchange this is. -/
def conclusion (answered : Answered) : Except ShellError Unit :=
  match answered.result with
  | .ok page =>
      if page.status.isFailure = false ∨ page.status = .noRowsFound then .ok ()
      else .error (.remoteFailure .simpleQuery page.status)
  | .error e => .error (.client e)

end Answered

/-- The exchange that an event is. -/
def answeredOf (event : Event) : Option Answered :=
  match event with
  | ⟨.call (.simpleQuery query), exchange⟩ => some ⟨query, exchange.result⟩
  | ⟨.call (.generalAdmin _), _⟩ | ⟨.call (.userAdmin _), _⟩ | ⟨.call (.generalQuery _ _), _⟩
  | ⟨.call (.modifyReplica _), _⟩ | ⟨.call (.gridConfiguration _ _), _⟩ | ⟨.call .disconnect, _⟩
  | ⟨.print _, _⟩ | ⟨.readLine _, _⟩ | ⟨.readSecret _, _⟩ | ⟨.clock, _⟩ => none

/-- The requests for pages among these events, with what came back. -/
def answersIn (events : List Event) : List Answered :=
  events.filterMap answeredOf

/-- What an event printed on this stream. -/
def printedOf (stream : Stream) (event : Event) : Option String :=
  match event.query with
  | .print line => if line.stream = stream then some line.text else none
  | .readLine _ | .readSecret _ | .clock | .call _ => none

/-- What these events printed on a stream, in order. -/
def printedOn (stream : Stream) (events : List Event) : List String :=
  events.filterMap (printedOf stream)

section Events

variable {query : SimpleQuery} {exchange : Exchange (.simpleQuery query)} {stream : Stream}
  {first rest : List Event} {lines : List Line}

theorem answersIn_cons_call :
    answersIn (⟨Query.call (.simpleQuery query), exchange⟩ :: rest)
      = ⟨query, exchange.result⟩ :: answersIn rest := rfl

theorem answersIn_append : answersIn (first ++ rest) = answersIn first ++ answersIn rest :=
  List.filterMap_append

theorem answersIn_shown : answersIn (shown lines) = [] := by
  induction lines with
  | nil => rfl
  | cons line rest ih => exact ih

theorem printedOn_cons_call {c : Call} {exchange : Exchange c} :
    printedOn stream (⟨Query.call c, exchange⟩ :: rest) = printedOn stream rest := rfl

theorem printedOn_append :
    printedOn stream (first ++ rest) = printedOn stream first ++ printedOn stream rest :=
  List.filterMap_append

/-- Lines for one stream are on it, each with its text. -/
theorem printedOn_shown (hLines : ∀ line ∈ lines, line.stream = stream) :
    printedOn stream (shown lines) = lines.map Line.text := by
  induction lines with
  | nil => rfl
  | cons line rest ih =>
      have hFirst : printedOf stream ⟨Query.print line, ()⟩ = some line.text :=
        if_pos (hLines line List.mem_cons_self)
      have hRest := ih fun other hOther => hLines other (List.mem_cons_of_mem _ hOther)
      rw [shown_cons, printedOn, List.filterMap_cons_some hFirst, List.map_cons, ← hRest]
      rfl

/-- Lines for other streams are not on it. -/
theorem printedOn_shown_of_ne (hLines : ∀ line ∈ lines, line.stream ≠ stream) :
    printedOn stream (shown lines) = [] := by
  refine List.filterMap_eq_nil_iff.mpr fun event hEvent => ?_
  obtain ⟨line, hLine, rfl⟩ := List.mem_map.mp hEvent
  exact if_neg (hLines line hLine)

theorem printedOn_out (texts : List String) : printedOn .out (shown (texts.map .out)) = texts := by
  have hOut : ∀ line ∈ texts.map Line.out, line.stream = .out := by
    intro line hLine
    obtain ⟨text, -, rfl⟩ := List.mem_map.mp hLine
    rfl
  rw [printedOn_shown hOut, List.map_map]
  exact List.map_id texts

/-- Diagnostics are shown beside the output. -/
theorem printedOn_stackLines (level : Nat) (stack : ErrorStack) :
    printedOn .out (shown (stackLines level stack)) = [] := by
  refine printedOn_shown_of_ne fun line hLine => ?_
  obtain ⟨position, message, rfl⟩ := eq_diagnostic_of_mem_stackLines hLine
  exact nofun

end Events

/-! ## Conversations -/

/-- The exchanges that begin with a request, with fuel for as many further requests, and
how they end; `none` when the fuel is used up. -/
inductive Conversation : Nat → SimpleQuery → List Answered → Option (Except ShellError Unit) → Prop
  | ends {fuel : Nat} {answered : Answered} (hStop : answered.cursor? = none) :
      Conversation fuel answered.query [answered] (some answered.conclusion)
  | cutOff {answered : Answered} {control : Int32} (hCursor : answered.cursor? = some control) :
      Conversation 0 answered.query [answered] none
  | continues {fuel : Nat} {answered : Answered} {control : Int32} {rest : List Answered}
      {outcome? : Option (Except ShellError Unit)} (hCursor : answered.cursor? = some control)
      (hRest : Conversation fuel { answered.query with control } rest outcome?) :
      Conversation (fuel + 1) answered.query (answered :: rest) outcome?

/-- The page at `index` has arrived. -/
def PageAt (answers : List Answered) (index : Nat) (page : SimpleReply) : Prop :=
  answers[index]?.map Answered.result = some (.ok page) ∧ page.status.isFailure = false

/-- All pages up to `index` have arrived, and that one came with the cursor of another. -/
def AsksOn (answers : List Answered) (index : Nat) (control : Int32) : Prop :=
  (∀ earlier ≤ index, ∃ page, PageAt answers earlier page) ∧
    ∃ page, PageAt answers index page ∧ page.control = control ∧ 0 < control

section Conversations

variable {answered : Answered} {answers rest : List Answered} {control : Int32} {fuel index : Nat}
  {query request : SimpleQuery} {page : SimpleReply} {outcome? : Option (Except ShellError Unit)}

theorem cursor?_eq_some_iff : answered.cursor? = some control ↔
    ∃ page, answered.result = .ok page ∧ page.status.isFailure = false ∧ page.control = control ∧
      0 < control := by
  obtain ⟨query, e | page⟩ := answered
  · simp [Answered.cursor?]
  · simp only [Answered.cursor?, Except.ok.injEq, exists_eq_left']
    split
    · rename_i hMore
      constructor
      · rintro ⟨⟩
        exact ⟨hMore.1, rfl, hMore.2⟩
      · rintro ⟨-, rfl, -⟩
        rfl
    · rename_i hStop
      constructor
      · rintro ⟨⟩
      · rintro ⟨hPage, rfl, hMore⟩
        exact absurd ⟨hPage, hMore⟩ hStop

theorem asksOn_zero_iff :
    AsksOn (answered :: rest) 0 control ↔ answered.cursor? = some control := by
  rw [cursor?_eq_some_iff]
  constructor
  · rintro ⟨-, page, ⟨hResult, hSuccess⟩, hControl⟩
    exact ⟨page, Option.some.inj hResult, hSuccess, hControl⟩
  · rintro ⟨page, hResult, hSuccess, hControl⟩
    have hPage : PageAt (answered :: rest) 0 page := ⟨congrArg some hResult, hSuccess⟩
    refine ⟨?_, page, hPage, hControl⟩
    intro earlier hEarlier
    cases Nat.le_zero.mp hEarlier
    exact ⟨page, hPage⟩

/-- Behind a page that has arrived, the rest asks on where the whole does. -/
theorem asksOn_succ_iff {first : Int32} (hCursor : answered.cursor? = some first) :
    AsksOn (answered :: rest) (index + 1) control ↔ AsksOn rest index control := by
  constructor
  · rintro ⟨hPages, hLast⟩
    refine ⟨?_, hLast⟩
    intro earlier hEarlier
    exact hPages (earlier + 1) (Nat.succ_le_succ hEarlier)
  · rintro ⟨hPages, hLast⟩
    refine ⟨?_, hLast⟩
    intro earlier hEarlier
    cases earlier with
    | zero =>
        obtain ⟨page, hResult, hSuccess, -⟩ := cursor?_eq_some_iff.mp hCursor
        exact ⟨page, congrArg some hResult, hSuccess⟩
    | succ earlier => exact hPages earlier (Nat.le_of_succ_le_succ hEarlier)

/-- Nothing is asked behind an exchange that brought no cursor. -/
theorem not_asksOn (hStop : answered.cursor? = none) : ¬AsksOn [answered] index control := by
  intro hAsks
  cases index with
  | zero =>
      rw [asksOn_zero_iff, hStop] at hAsks
      cases hAsks
  | succ index =>
      obtain ⟨-, page, ⟨hResult, -⟩, -⟩ := hAsks
      cases hResult

namespace Conversation

theorem first (hTalk : Conversation fuel query answers outcome?) :
    answers[0]?.map Answered.query = some query := by
  cases hTalk with
  | ends hStop => rfl
  | cutOff hCursor => rfl
  | continues hCursor hRest => rfl

/-- As far as the fuel reaches, and everywhere in a run that has ended, a request is made
exactly if everything before it asks for it, and it is the query with the cursor that came
last. -/
theorem next_iff (hTalk : Conversation fuel query answers outcome?)
    (hReach : outcome?.isSome = true ∨ index < fuel) :
    answers[index + 1]?.map Answered.query = some request ↔
      ∃ control, AsksOn answers index control ∧ request = { query with control } := by
  induction hTalk generalizing index with
  | ends hStop =>
      constructor
      · intro hRequest
        cases hRequest
      · rintro ⟨control, hAsks, -⟩
        exact absurd hAsks (not_asksOn hStop)
  | cutOff hCursor =>
      rcases hReach with hEnd | hFuel
      · cases hEnd
      · exact absurd hFuel (Nat.not_lt_zero _)
  | @continues fuel answered control rest outcome? hCursor hRest ih =>
      cases index with
      | zero =>
          have hFirst := hRest.first
          constructor
          · intro hRequest
            refine ⟨control, asksOn_zero_iff.mpr hCursor, ?_⟩
            exact Option.some.inj (hRequest.symm.trans hFirst)
          · rintro ⟨other, hAsks, rfl⟩
            rw [asksOn_zero_iff, hCursor] at hAsks
            cases hAsks
            exact hFirst
      | succ index =>
          have hLater := ih (hReach.imp_right Nat.lt_of_succ_lt_succ)
          constructor
          · intro hRequest
            obtain ⟨last, hAsks, rfl⟩ := hLater.mp hRequest
            exact ⟨last, (asksOn_succ_iff hCursor).mpr hAsks, rfl⟩
          · rintro ⟨last, hAsks, rfl⟩
            exact hLater.mpr ⟨last, (asksOn_succ_iff hCursor).mp hAsks, rfl⟩

/-- The fuel is used up exactly if all pages that it reached asked for more. -/
theorem exhausted_iff (hTalk : Conversation fuel query answers outcome?) :
    outcome? = none ↔ ∃ control, AsksOn answers fuel control := by
  induction hTalk with
  | ends hStop =>
      constructor
      · intro hEnd
        cases hEnd
      · rintro ⟨control, hAsks⟩
        exact absurd hAsks (not_asksOn hStop)
  | @cutOff answered control hCursor =>
      constructor
      · exact fun _ => ⟨control, asksOn_zero_iff.mpr hCursor⟩
      · exact fun _ => rfl
  | continues hCursor hRest ih =>
      rw [ih]
      exact exists_congr fun last => (asksOn_succ_iff hCursor).symm

/-- The last exchange decides how the listing ends. -/
theorem conclusion_of_end {result : Except ShellError Unit}
    (hTalk : Conversation fuel query answers outcome?) (hEnd : outcome? = some result) :
    ∃ answered, answers.getLast? = some answered ∧ result = answered.conclusion := by
  induction hTalk with
  | ends hStop =>
      cases hEnd
      exact ⟨_, rfl, rfl⟩
  | cutOff hCursor => cases hEnd
  | @continues fuel answered control rest outcome? hCursor hRest ih =>
      obtain ⟨last, hLast, hResult⟩ := ih hEnd
      refine ⟨last, ?_, hResult⟩
      rw [List.getLast?_cons, hLast]
      rfl

end Conversation

end Conversations

/-! ## Runs -/

/-- The events of a run are a conversation.  Nothing else is sent, and what is printed as
output are the pages. -/
structure Talks (fuel : Nat) (query : SimpleQuery) (events : List Event)
    (last? : Option (Except ShellError Unit × State)) : Prop where
  conversation : Conversation fuel query (answersIn events) (last?.map (·.1))
  sent : callsIn events = (answersIn events).map fun answered => .simpleQuery answered.query
  printed : printedOn .out events = (answersIn events).flatMap Answered.texts

section Talks

variable {fuel : Nat} {query : SimpleQuery} {pushed : List Diagnostic}
  {result : Except ClientError SimpleReply} {page : SimpleReply} {control : Int32}
  {lines : List Line} {events : List Event} {state : State}
  {last? : Option (Except ShellError Unit × State)}

theorem callsIn_shown : callsIn (shown lines) = [] :=
  callsIn_of_noCall noCall_shown

/-- One exchange and what is printed about it. -/
theorem answersIn_single :
    answersIn (⟨Query.call (.simpleQuery query), ⟨pushed, result⟩⟩ :: shown lines)
      = [⟨query, result⟩] := by
  rw [answersIn_cons_call, answersIn_shown]

theorem callsIn_single :
    callsIn (⟨Query.call (.simpleQuery query), ⟨pushed, result⟩⟩ :: shown lines)
      = [.simpleQuery query] := by
  rw [callsIn_cons_call, callsIn_shown]

theorem talks_of_last (hStop : Answered.cursor? ⟨query, result⟩ = none)
    (hLines : printedOn .out (shown lines) = Answered.texts ⟨query, result⟩) :
    Talks fuel query (⟨Query.call (.simpleQuery query), ⟨pushed, result⟩⟩ :: shown lines)
      (some (Answered.conclusion ⟨query, result⟩, state)) where
  conversation := by
    rw [answersIn_single]
    exact .ends hStop
  sent := by
    rw [answersIn_single, callsIn_single]
    rfl
  printed := by
    rw [answersIn_single, printedOn_cons_call, hLines, List.flatMap_singleton]

/-- A last exchange about which nothing is printed. -/
theorem talks_of_silence (hStop : Answered.cursor? ⟨query, result⟩ = none)
    (hTexts : Answered.texts ⟨query, result⟩ = []) :
    Talks fuel query [⟨Query.call (.simpleQuery query), ⟨pushed, result⟩⟩]
      (some (Answered.conclusion ⟨query, result⟩, state)) := by
  have hLines : printedOn .out (shown []) = Answered.texts ⟨query, result⟩ := hTexts.symm
  exact talks_of_last hStop hLines

private theorem talks_of_cutOff (hCursor : Answered.cursor? ⟨query, result⟩ = some control)
    (hLines : printedOn .out (shown lines) = Answered.texts ⟨query, result⟩) :
    Talks 0 query (⟨Query.call (.simpleQuery query), ⟨pushed, result⟩⟩ :: shown lines) none where
  conversation := by
    rw [answersIn_single]
    exact .cutOff hCursor
  sent := by
    rw [answersIn_single, callsIn_single]
    rfl
  printed := by
    rw [answersIn_single, printedOn_cons_call, hLines, List.flatMap_singleton]

/-- Behind one exchange, and what is printed about it, the others follow. -/
private theorem answersIn_behind :
    answersIn (⟨Query.call (.simpleQuery query), ⟨pushed, result⟩⟩ :: (shown lines ++ events))
      = ⟨query, result⟩ :: answersIn events := by
  rw [answersIn_cons_call, answersIn_append, answersIn_shown, List.nil_append]

/-- An exchange in front of the rest of the conversation. -/
theorem Talks.behind (hRest : Talks fuel { query with control } events last?)
    (hCursor : Answered.cursor? ⟨query, result⟩ = some control)
    (hLines : printedOn .out (shown lines) = Answered.texts ⟨query, result⟩) :
    Talks (fuel + 1) query
      (⟨Query.call (.simpleQuery query), ⟨pushed, result⟩⟩ :: (shown lines ++ events)) last? where
  conversation := by
    rw [answersIn_behind]
    exact .continues hCursor hRest.conversation
  sent := by
    rw [callsIn_cons_call, callsIn_append, callsIn_shown, List.nil_append, hRest.sent,
      answersIn_behind, List.map_cons]
  printed := by
    rw [printedOn_cons_call, printedOn_append, hLines, hRest.printed, answersIn_behind,
      List.flatMap_cons]

theorem cursor?_of_failure (hFailure : page.status.isFailure = true) :
    Answered.cursor? ⟨query, .ok page⟩ = none := by
  apply if_neg
  rw [hFailure]
  exact fun hMore => Bool.noConfusion hMore.1

private theorem cursor?_of_more (query : SimpleQuery) (hPage : page.status.isFailure = false)
    (hMore : 0 < page.control) :
    Answered.cursor? ⟨query, .ok page⟩ = some page.control :=
  if_pos ⟨hPage, hMore⟩

/-- A page that has arrived is shown line by line. -/
theorem printedOn_page (hPage : page.status.isFailure = false) :
    printedOn .out (shown ((Listing.pageText page.outBuf).map .out))
      = Answered.texts ⟨query, .ok page⟩ := by
  have hTexts : Answered.texts ⟨query, .ok page⟩ = Listing.pageText page.outBuf := by
    apply if_neg
    rw [hPage]
    exact Bool.false_ne_true
  rw [hTexts, printedOn_out]

theorem talks_of_unanswered (e : ClientError) :
    Talks fuel query [⟨Query.call (.simpleQuery query), ⟨pushed, .error e⟩⟩]
      (some (.error (.client e), state)) :=
  talks_of_silence rfl rfl

/-- Behind a page without a cursor there is nothing. -/
private theorem talks_of_page (hPage : page.status.isFailure = false) (hLast : ¬0 < page.control) :
    Talks fuel query (⟨Query.call (.simpleQuery query), ⟨pushed, .ok page⟩⟩
      :: shown ((Listing.pageText page.outBuf).map .out)) (some (.ok (), state)) := by
  have hStop : Answered.cursor? ⟨query, .ok page⟩ = none := if_neg fun hMore => hLast hMore.2
  have hEnd : Answered.conclusion ⟨query, .ok page⟩ = .ok () := if_pos (Or.inl hPage)
  rw [← hEnd]
  exact talks_of_last hStop (printedOn_page hPage)

/-- The end of the rows is no error. -/
theorem talks_of_noRows (hNone : page.status = .noRowsFound) :
    Talks fuel query [⟨Query.call (.simpleQuery query), ⟨pushed, .ok page⟩⟩]
      (some (.ok (), state)) := by
  have hFailure : page.status.isFailure = true := by
    rw [hNone]
    rfl
  have hEnd : Answered.conclusion ⟨query, .ok page⟩ = .ok () := if_pos (Or.inr hNone)
  have hTexts : Answered.texts ⟨query, .ok page⟩ = [] := if_pos hFailure
  rw [← hEnd]
  exact talks_of_silence (cursor?_of_failure hFailure) hTexts

/-- Any other failure is one of the listing, whatever is shown beside the output. -/
theorem talks_of_rejection (hFailure : page.status.isFailure = true)
    (hSome : page.status ≠ .noRowsFound) (hLines : printedOn .out (shown lines) = []) :
    Talks fuel query (⟨Query.call (.simpleQuery query), ⟨pushed, .ok page⟩⟩ :: shown lines)
      (some (.error (.remoteFailure .simpleQuery page.status), state)) := by
  have hEnd : Answered.conclusion ⟨query, .ok page⟩
      = .error (.remoteFailure .simpleQuery page.status) := by
    apply if_neg
    rw [hFailure]
    rintro (hPage | hNone)
    · cases hPage
    · exact hSome hNone
  have hTexts : Answered.texts ⟨query, .ok page⟩ = [] := if_pos hFailure
  rw [← hEnd]
  exact talks_of_last (cursor?_of_failure hFailure) (hLines.trans hTexts.symm)

end Talks

end Shell

/-! ## The program -/

namespace Action

open Shell (Event Context State Query Talks Answered)

/-- Behind each page that has arrived the conversation goes on as its cursor says. -/
theorem ensures_behind_page (fuel : Nat) (query : SimpleQuery) (state : State) (page : SimpleReply)
    (pushed : List Diagnostic) (hPage : page.status.isFailure = false) (context : Context) :
    (do printPage page.outBuf; followPages fuel query page.control : Action Unit).Ensures context
      state fun events last? =>
        Talks fuel query (⟨Query.call (.simpleQuery query), ⟨pushed, .ok page⟩⟩ :: events) last? := by
  induction fuel generalizing query state page pushed with
  | zero =>
      rw [ensures_bind, printPage, ensures_lift, Shell.ensures_printAll]
      refine ensures_ite.mpr ⟨fun hMore => ?_, fun hLast => ?_⟩
      · refine Shell.ensures_outOfFuel.mpr ?_
        rw [List.append_nil]
        have hCursor := Shell.cursor?_of_more query hPage hMore
        exact Shell.talks_of_cutOff hCursor (Shell.printedOn_page hPage)
      · refine ensures_pure.mpr ?_
        rw [List.append_nil]
        exact Shell.talks_of_page hPage hLast
  | succ fuel ih =>
      rw [ensures_bind, printPage, ensures_lift, Shell.ensures_printAll]
      refine ensures_ite.mpr ⟨fun hMore => ?_, fun hLast => ?_⟩
      · -- Whatever the rest of the conversation is, this page stands in front of it.
        have hCursor := Shell.cursor?_of_more query hPage hMore
        have hBehind : ∀ events last?,
            Talks fuel { query with control := page.control } events last? →
            Talks (fuel + 1) query (⟨Query.call (.simpleQuery query), ⟨pushed, .ok page⟩⟩
              :: (Shell.shown ((Listing.pageText page.outBuf).map .out) ++ events)) last? :=
          fun _ _ hRest => hRest.behind hCursor (Shell.printedOn_page hPage)
        rw [ensures_bind, ensures_call]
        rintro ⟨more, e | next⟩
        · exact hBehind _ _ (Shell.talks_of_unanswered e)
        · refine ensures_ite.mpr ⟨fun hNone => ?_, fun hSome => ?_⟩
          · exact ensures_pure.mpr (hBehind _ _ (Shell.talks_of_noRows hNone))
          · refine ensures_ite.mpr ⟨fun hFailure => ?_, fun hSuccess => ?_⟩
            · refine ensures_bind.mpr (ensures_throw.mpr ?_)
              have hLines : Shell.printedOn .out (Shell.shown []) = [] := rfl
              exact hBehind _ _ (Shell.talks_of_rejection hFailure hSome hLines)
            · rw [Bool.not_eq_true] at hSuccess
              refine (ih _ _ next more hSuccess).mono fun events last? hRest => ?_
              exact hBehind _ _ hRest
      · refine ensures_pure.mpr ?_
        rw [List.append_nil]
        exact Shell.talks_of_page hPage hLast

end Action

namespace Shell

/-- What a run of a query sends and prints, and how it ends.  A run without an end has used up
its fuel. -/
structure FollowsCursors (query : SimpleQuery) (fuel : Nat) (events : List Event)
    (outcome? : Option (Except ShellError Unit)) : Prop where
  /-- The first request is the query itself. -/
  first : (answersIn events)[0]?.map Answered.query = some query
  /-- Another request is made exactly if all pages before it have arrived and the last of them
  came with a cursor. -/
  next_iff : ∀ (index : Nat) (request : SimpleQuery), (outcome?.isSome = true ∨ index < fuel) →
    ((answersIn events)[index + 1]?.map Answered.query = some request ↔
      ∃ control, AsksOn (answersIn events) index control ∧ request = { query with control })
  /-- Nothing else is sent. -/
  sent : callsIn events = (answersIn events).map fun answered => .simpleQuery answered.query
  /-- An empty listing is announced. -/
  announced : ∀ reply, (answersIn events)[0]?.map Answered.result = some (.ok reply) →
    reply.status = .noRowsFound → printedOn .out events = ["No rows found"]
  /-- Otherwise all pages are shown in order. -/
  printed : (∀ reply, (answersIn events)[0]?.map Answered.result = some (.ok reply) →
      reply.status ≠ .noRowsFound) →
    printedOn .out events = (answersIn events).flatMap Answered.texts
  /-- There is no end only where the fuel stops before a request that would be made. -/
  exhausted_iff : outcome? = none ↔ ∃ control, AsksOn (answersIn events) fuel control
  /-- The last exchange decides on the result. -/
  ends : ∀ result, outcome? = some result →
    ∃ answered, (answersIn events).getLast? = some answered ∧ result = answered.conclusion

section FollowsCursors

variable {query : SimpleQuery} {fuel : Nat} {pushed : List Diagnostic} {reply : SimpleReply}
  {events : List Event} {state : State} {last? : Option (Except ShellError Unit × State)}

/-- A conversation whose first answer is not an empty listing. -/
private theorem Talks.followsCursors (hTalks : Talks fuel query events last?)
    (hSome : ∀ reply, (answersIn events)[0]?.map Answered.result = some (.ok reply) →
      reply.status ≠ .noRowsFound) :
    FollowsCursors query fuel events (last?.map (·.1)) where
  first := hTalks.conversation.first
  next_iff := fun _ _ hReach => hTalks.conversation.next_iff hReach
  sent := hTalks.sent
  announced := fun reply hFirst hNone => absurd hNone (hSome reply hFirst)
  printed := fun _ => hTalks.printed
  exhausted_iff := hTalks.conversation.exhausted_iff
  ends := fun _ hEnd => hTalks.conversation.conclusion_of_end hEnd

/-- An empty listing is a conversation of one exchange, and it is announced. -/
private theorem followsCursors_of_noRows (hNone : reply.status = .noRowsFound) :
    FollowsCursors query fuel (⟨Query.call (.simpleQuery query), ⟨pushed, .ok reply⟩⟩
      :: shown [.out "No rows found"]) (some (.ok ())) := by
  have hTalks : Talks fuel query [⟨Query.call (.simpleQuery query), ⟨pushed, .ok reply⟩⟩]
      (some (.ok (), State.initial)) := talks_of_noRows hNone
  exact {
    first := hTalks.conversation.first
    next_iff := fun _ _ hReach => hTalks.conversation.next_iff hReach
    sent := hTalks.sent
    announced := fun _ _ _ => rfl
    printed := fun hSome => absurd hNone (hSome reply rfl)
    exhausted_iff := hTalks.conversation.exhausted_iff
    ends := fun _ hEnd => hTalks.conversation.conclusion_of_end hEnd }

end FollowsCursors

end Shell

namespace Action

open Shell (Context State Talks FollowsCursors)

theorem ensures_runQuery (query : SimpleQuery) (context : Context) (state : State) :
    (runQuery query).Ensures context state fun events last? =>
      FollowsCursors query context.fuel events (last?.map (·.1)) := by
  unfold runQuery
  rw [ensures_bind, ensures_call]
  rintro ⟨pushed, e | reply⟩
  · exact (Shell.talks_of_unanswered e).followsCursors nofun
  · refine ensures_ite.mpr ⟨fun hNone => ?_, fun hSome => ?_⟩
    · refine ensures_lift.mpr (Shell.ensures_print.mpr ?_)
      exact Shell.followsCursors_of_noRows hNone
    · have hFirst : ∀ other : SimpleReply,
          (some (.ok reply) : Option (Except ClientError SimpleReply)) = some (.ok other) →
            other.status ≠ .noRowsFound := by
        rintro other ⟨⟩
        exact hSome
      refine ensures_ite.mpr ⟨fun hFailure => ?_, fun hSuccess => ?_⟩
      · refine ensures_bind.mpr (ensures_lift.mpr (Shell.ensures_drain.mpr (ensures_throw.mpr ?_)))
        rw [List.append_nil]
        have hLines := Shell.printedOn_stackLines 0 (state.push pushed).stack
        exact (Shell.talks_of_rejection hFailure hSome hLines).followsCursors hFirst
      · rw [Bool.not_eq_true] at hSuccess
        have hRest := ensures_behind_page context.fuel query (state.push pushed) reply pushed
          hSuccess context
        rw [ensures_bind, printPage, ensures_lift, Shell.ensures_printAll] at hRest ⊢
        refine ensures_bind.mpr (ensures_read.mpr ?_)
        refine hRest.mono fun events last? hTalks => ?_
        exact hTalks.followsCursors hFirst

end Action

/-- Whatever the service answers, a query holds the conversation of its pages.  The query is
sent first; then, for every page that has arrived and came with a cursor, the same query with
that cursor, and nothing else.  The pages are shown one behind the other, or an empty listing
is announced.  The listing ends well if its last answer is a page or the end of the rows, and
otherwise with the error or the status of that answer. -/
theorem runQuery_followsCursors {σ : Type} (handler : Proc.Handler Shell.interface σ)
    (surroundings : σ) (context : Shell.Context) (state : Shell.State) (query : SimpleQuery) :
    let run := (Shell.toProc (Action.runQuery query).run context state).run handler surroundings
    Shell.FollowsCursors query context.fuel run.events (run.value?.map (·.1)) :=
  Action.ensures_runQuery query context state _ _ (Proc.trace_run handler _ surroundings)

/-! ## A listing of two pages -/

namespace Shell

namespace TwoPages

def context : Context :=
  { settings := { zone := "tempZone" }, user := ⟨"rods", "tempZone"⟩, fuel := 4 }

def query : SimpleQuery :=
  .first 1 "select resc_name from R_RESC_MAIN" []

/-- A service whose first page has a cursor. -/
def surroundings : Rehearsal where
  terminal := {}
  service :=
    { simpleQuery := Script.push
        (Script.push [] "R_RESC_MAIN" { reply := some ⟨.success, "demoResc\n", 7⟩ })
        "R_RESC_MAIN" { reply := some ⟨.success, "otherResc\n", 0⟩ } }

def run : Proc.Run interface Rehearsal (Except ShellError Unit × State) :=
  (toProc (Action.runQuery query).run context State.initial).run Rehearsal.handler surroundings

end TwoPages

open TwoPages in
/-- The second request has the cursor of the first page, and both pages are shown. -/
theorem followsCursors_of_two_pages :
    (run.value?.map (·.1)).isSome = true ∧
    (answersIn run.events)[1]?.map Answered.query = some { query with control := 7 } ∧
    printedOn .out run.events = ["demoResc", "otherResc"] := by
  have hRun : FollowsCursors query context.fuel run.events (run.value?.map (·.1)) :=
    runQuery_followsCursors Rehearsal.handler surroundings context State.initial query
  have hEnd : (run.value?.map (·.1)).isSome = true := by decide +kernel
  have hCursor : (answersIn run.events)[0]?.bind Answered.cursor? = some 7 := by decide +kernel
  obtain ⟨answered, hFirst, hCursor⟩ := Option.bind_eq_some_iff.mp hCursor
  obtain ⟨rest, hAnswers⟩ := List.head?_eq_some_iff.mp (List.head?_eq_getElem?.trans hFirst)
  have hAsks : AsksOn (answersIn run.events) 0 7 := by
    rw [hAnswers]
    exact asksOn_zero_iff.mpr hCursor
  refine ⟨hEnd, (hRun.next_iff 0 _ (Or.inl hEnd)).mpr ⟨7, hAsks, rfl⟩, ?_⟩
  rw [hRun.printed]
  · decide +kernel
  · intro reply hReply hNone
    obtain ⟨page, hResult, hSuccess, -⟩ := cursor?_eq_some_iff.mp hCursor
    rw [hFirst, Option.map_some, hResult] at hReply
    cases hReply
    rw [hNone] at hSuccess
    cases hSuccess

end Shell

end GridAdmin
