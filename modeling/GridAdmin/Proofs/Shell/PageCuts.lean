import GridAdmin.Proofs.Shell.Pages
import GridAdmin.Proofs.Shell.Verbosity

/-!
# Where a listing is cut into pages

The service cuts the rows of a listing into pages as its buffers fill.  Where it cuts is
nobody's business: two services that have the same rows show the same lines, also if one of
them sends a single page and the other one page for each row.

What makes this true is that a page is rendered line by line, so that rendering respects
every cut behind a newline.  A cut inside of a row would show, and this is why all pages but
the last have to end with their line.  What could still go wrong is the conversation: a page
that is dropped, asked for twice, or shown behind its successor.

The two services may answer from states of their own.  So a service is held against a listing by
what it answers to each request in turn (`Peers.Serves`), and the lines of a run against it
are a function of the joined pages alone.  The comparison of two runs is then an equation
between two texts.

## Main definitions

* `Shell.linesIn`: all lines that a run has printed.
* `Shell.Peers.Serves`: a service answers a query with these pages.
* `Shell.listedText`: the rows of a listing, without the cuts.

## Main results

* `Listing.pageText_append_of_line`: a page that ends with its line can be shown by itself.
* `Action.ensures_behind_served`: the pages behind the first one are shown.
* `listing_overlooks_cuts`: the cuts do not show.
-/

namespace GridAdmin

/-! ## Rendering -/

namespace Listing

theorem pageText_append (first second : String) :
    pageText (first ++ "\n" ++ second) = pageText first ++ pageText second := by
  have hText : (first ++ "\n" ++ second).toList = first.toList ++ '\n' :: second.toList := by
    rw [String.toList_append, String.toList_append, List.append_assoc]
    rfl
  rw [pageText, hText, pageLines_append, List.map_append]
  rfl

/-- A page that ends with its line can be shown by itself. -/
theorem pageText_append_of_line {page rest : String} (hLine : ∃ text, page = text ++ "\n") :
    pageText (page ++ rest) = pageText page ++ pageText rest := by
  obtain ⟨text, rfl⟩ := hLine
  have hAlone : pageText (text ++ "\n") = pageText text := by
    have hEmpty := pageText_append text ""
    rwa [String.append_empty, show pageText "" = [] from rfl, List.append_nil] at hEmpty
  rw [pageText_append, hAlone]

/-- A cut inside of a line would show. -/
example : pageText ("demo" ++ "Resc\n") ≠ pageText "demo" ++ pageText "Resc\n" := by decide +kernel

end Listing

namespace Shell

/-! ## Lines of a run -/

/-- The line that an event printed. -/
def lineOf (event : Event) : Option Line :=
  match event.query with
  | .print line => some line
  | .readLine _ | .readSecret _ | .clock | .call _ => none

/-- All lines that these events printed, in order. -/
def linesIn (events : List Event) : List Line :=
  events.filterMap lineOf

section Lines

variable {events rest : List Event} {lines : List Line}

theorem linesIn_append : linesIn (events ++ rest) = linesIn events ++ linesIn rest :=
  List.filterMap_append

theorem linesIn_shown : linesIn (shown lines) = lines := by
  induction lines with
  | nil => rfl
  | cons line lines ih => exact congrArg (line :: ·) ih

private theorem linesIn_cons_call {c : Call} {exchange : Exchange c} :
    linesIn (⟨Query.call c, exchange⟩ :: rest) = linesIn rest := rfl

/-- The run has ended well, and has printed these lines as output and nothing else. -/
structure Shows (texts : List String) (events : List Event)
    (last? : Option (Except ShellError Unit × State)) : Prop where
  ends : last?.map (·.1) = some (.ok ())
  lines : linesIn events = texts.map .out

theorem Shows.behind_call {texts : List String} {last? : Option (Except ShellError Unit × State)}
    {c : Call} {exchange : Exchange c} (hShows : Shows texts events last?) :
    Shows texts (⟨Query.call c, exchange⟩ :: events) last? :=
  ⟨hShows.ends, linesIn_cons_call.trans hShows.lines⟩

end Lines

/-! ## Services -/

/-- The rows of a listing, put together from its pages. -/
def listedText (pages : List SimpleReply) : String :=
  String.join (pages.map SimpleReply.outBuf)

/-- Asked this query, the service answers with a page and, asked for what is behind it, with
the rest of the pages.  All of them arrive.  Each page but the last has a cursor and ends with
its line, and the last page has no cursor. -/
inductive Peers.Serves {σ : Type} (peers : Peers σ) :
    σ → SimpleQuery → SimpleReply → List SimpleReply → Prop
  | last {s : σ} {query : SimpleQuery} {page : SimpleReply}
      (hPage : (peers.call (.simpleQuery query) s).1.result = .ok page)
      (hSuccess : page.status.isFailure = false) (hLast : page.control ≤ 0) :
      peers.Serves s query page []
  | more {s : σ} {query : SimpleQuery} {page next : SimpleReply} {rest : List SimpleReply}
      (hPage : (peers.call (.simpleQuery query) s).1.result = .ok page)
      (hSuccess : page.status.isFailure = false) (hMore : 0 < page.control)
      (hLine : ∃ text, page.outBuf = text ++ "\n")
      (hRest : peers.Serves (peers.call (.simpleQuery query) s).2
        { query with control := page.control } next rest) :
      peers.Serves s query page (next :: rest)

section Services

variable {σ : Type} {peers : Peers σ} {s : σ} {query : SimpleQuery} {page : SimpleReply}
  {rest : List SimpleReply} {events : List Event} {lines : List Line}

theorem Peers.Serves.answers (hServes : peers.Serves s query page rest) :
    (peers.call (.simpleQuery query) s).1.result = .ok page := by
  cases hServes <;> assumption

theorem Peers.Serves.isFailure (hServes : peers.Serves s query page rest) :
    page.status.isFailure = false := by
  cases hServes <;> assumption

/-- A page that has arrived is no empty listing. -/
theorem Peers.Serves.status_ne (hServes : peers.Serves s query page rest) :
    page.status ≠ .noRowsFound := by
  intro hNone
  have hSuccess := hServes.isFailure
  rw [hNone] at hSuccess
  cases hSuccess

/-- What is printed reaches nobody. -/
theorem Peers.gives_shown (peers : Peers σ) :
    peers.handler.Gives s (shown lines ++ events) ↔ peers.handler.Gives s events := by
  induction lines with
  | nil => exact Iff.rfl
  | cons line lines ih => exact (and_iff_right rfl).trans ih

theorem listedText_cons : listedText (page :: rest) = page.outBuf ++ listedText rest :=
  String.join_cons

theorem listedText_singleton : listedText [page] = page.outBuf := by
  rw [listedText_cons]
  exact String.append_empty

end Services

end Shell

/-! ## The program -/

namespace Action

open Shell (Event Context State Peers Shows listedText)

variable {σ : Type} {peers : Peers σ} {s : σ} {query : SimpleQuery} {page : SimpleReply}
  {rest : List SimpleReply} {fuel : Nat} {context : Context} {state : State}

/-- Behind a call that is answered, the rest of the program runs on what was answered. -/
theorem ensures_call_given {α : Type} {c : Call} {reply : c.Reply} {body : c.Reply → Action α}
    {post : List Event → Option (Except ShellError α × State) → Prop}
    (hReply : (peers.call c s).1.result = .ok reply)
    (hBody : (body reply).Ensures context (state.push (peers.call c s).1.pushed)
      fun events last? => peers.handler.Gives (peers.call c s).2 events →
        post (⟨.call c, (peers.call c s).1⟩ :: events) last?) :
    (call c >>= body).Ensures context state fun events last? =>
      peers.handler.Gives s events → post events last? := by
  rw [ensures_bind, ensures_call]
  intro exchange
  by_cases hGiven : exchange = (peers.call c s).1
  · subst hGiven
    rw [hReply]
    exact hBody.mono fun events last? hPost hGives => hPost hGives.2
  · -- The service answers otherwise.
    obtain ⟨pushed, e | other⟩ := exchange
    · exact fun hGives => absurd hGives.1 hGiven
    · exact fun events last? _ hGives => absurd hGives.1 hGiven

/-- A page in front of what is shown. -/
private theorem ensures_page_given {text : String} {texts : List String} {body : Action Unit}
    (hBody : body.Ensures context state fun events last? =>
      peers.handler.Gives s events → Shows texts events last?) :
    (do printPage text; body : Action Unit).Ensures context state fun events last? =>
      peers.handler.Gives s events → Shows (Listing.pageText text ++ texts) events last? := by
  rw [ensures_bind, printPage, ensures_lift, Shell.ensures_printAll]
  refine hBody.mono fun events last? hShows hGives => ?_
  obtain ⟨hEnd, hLines⟩ := hShows ((Shell.Peers.gives_shown peers).mp hGives)
  refine ⟨hEnd, ?_⟩
  rw [Shell.linesIn_append, Shell.linesIn_shown, hLines, List.map_append]

/-- If the service has the pages behind the first one, they are asked for and shown. -/
theorem ensures_behind_served (hServes : peers.Serves s query page rest)
    (hFuel : rest.length ≤ fuel) (context : Context) (state : State) :
    (do printPage page.outBuf; followPages fuel query page.control : Action Unit).Ensures context
      state fun events last? =>
        peers.handler.Gives (peers.call (.simpleQuery query) s).2 events →
          Shows (Listing.pageText (listedText (page :: rest))) events last? := by
  induction hServes generalizing fuel state with
  | @last s query page hPage hSuccess hLast =>
      have hStop : ¬0 < page.control := Int32.not_lt.mpr hLast
      have hEnd : followPages fuel query page.control = pure () := by
        cases fuel with
        | zero => exact if_neg hStop
        | succ fuel => exact if_neg hStop
      rw [hEnd, Shell.listedText_singleton, ← List.append_nil (Listing.pageText page.outBuf)]
      exact ensures_page_given (ensures_pure.mpr fun _ => ⟨rfl, rfl⟩)
  | @more s query page next rest hPage hSuccess hMore hLine hRest ih =>
      cases fuel with
      | zero => exact absurd hFuel (Nat.not_succ_le_zero _)
      | succ fuel =>
          rw [Shell.listedText_cons, Listing.pageText_append_of_line hLine, followPages,
            if_pos hMore]
          refine ensures_page_given (ensures_call_given hRest.answers ?_)
          rw [if_neg hRest.status_ne, if_neg (Bool.eq_false_iff.mp hRest.isFailure)]
          refine (ih (Nat.le_of_succ_le_succ hFuel) _).mono fun events last? hShows hGives => ?_
          exact (hShows hGives).behind_call

private theorem ensures_runQuery_served (hServes : peers.Serves s query page rest)
    (hFuel : rest.length ≤ context.fuel) :
    (runQuery query).Ensures context state fun events last? =>
      peers.handler.Gives s events →
        Shows (Listing.pageText (listedText (page :: rest))) events last? := by
  unfold runQuery
  refine ensures_call_given hServes.answers ?_
  rw [if_neg hServes.status_ne, if_neg (Bool.eq_false_iff.mp hServes.isFailure)]
  have hBehind := ensures_behind_served hServes hFuel context
    (state.push (peers.call (.simpleQuery query) s).1.pushed)
  rw [ensures_bind, printPage, ensures_lift, Shell.ensures_printAll] at hBehind ⊢
  refine ensures_bind.mpr (ensures_read.mpr ?_)
  refine hBehind.mono fun events last? hShows hGives => ?_
  exact (hShows hGives).behind_call

end Action

namespace Shell

private theorem Peers.Serves.run_shows {σ : Type} {peers : Peers σ} {s : σ} {query : SimpleQuery}
    {page : SimpleReply} {rest : List SimpleReply} (hServes : peers.Serves s query page rest)
    {context : Context} (hFuel : rest.length ≤ context.fuel) (state : State) :
    let run := (toProc (Action.runQuery query).run context state).run peers.handler s
    Shows (Listing.pageText (listedText (page :: rest))) run.events run.value? :=
  Action.ensures_runQuery_served hServes hFuel _ _ (Proc.trace_run peers.handler _ s)
    (Proc.Handler.gives_run peers.handler _ s)

end Shell

/-- The cuts of a listing do not show.  Rendering goes through every newline: two texts with a
newline between them are shown as the one and then the other.  Hence two services, each with a
state of its own, that answer a query with the same rows, whatever pages these are cut into,
let it end well, and the same lines are printed on the same streams: those of the rows.  The only
thing that is asked of the two sessions is fuel for the pages behind the first one. -/
theorem listing_overlooks_cuts :
    (∀ first second : String,
      Listing.pageText (first ++ "\n" ++ second)
        = Listing.pageText first ++ Listing.pageText second) ∧
    ∀ {σ τ : Type} (peers : Shell.Peers σ) (others : Shell.Peers τ) (s : σ) (t : τ)
      (query : SimpleQuery) (page otherPage : SimpleReply) (rest otherRest : List SimpleReply)
      (context otherContext : Shell.Context) (state otherState : Shell.State),
      peers.Serves s query page rest → others.Serves t query otherPage otherRest →
      Shell.listedText (page :: rest) = Shell.listedText (otherPage :: otherRest) →
      rest.length ≤ context.fuel → otherRest.length ≤ otherContext.fuel →
      let run := (Shell.toProc (Action.runQuery query).run context state).run peers.handler s
      let otherRun := (Shell.toProc (Action.runQuery query).run otherContext otherState).run
        others.handler t
      run.value?.map (·.1) = some (.ok ()) ∧ otherRun.value?.map (·.1) = some (.ok ()) ∧
        Shell.linesIn run.events = Shell.linesIn otherRun.events ∧
        Shell.linesIn run.events
          = (Listing.pageText (Shell.listedText (page :: rest))).map .out := by
  refine ⟨Listing.pageText_append, ?_⟩
  intro σ τ peers others s t query page otherPage rest otherRest context otherContext state
    otherState hServes hOthers hRows hFuel hOtherFuel run otherRun
  obtain ⟨hEnd, hLines⟩ := hServes.run_shows hFuel state
  obtain ⟨hOtherEnd, hOtherLines⟩ := hOthers.run_shows hOtherFuel otherState
  refine ⟨hEnd, hOtherEnd, ?_, hLines⟩
  rw [hLines, hOtherLines, hRows]

/-! ## One listing, cut twice -/

namespace Shell

namespace CutTwice

def query : SimpleQuery :=
  .first 1 "select resc_name from R_RESC_MAIN" []

def context : Context :=
  { settings := { zone := "tempZone" }, user := ⟨"rods", "tempZone"⟩, fuel := 1 }

def peers : Peers ScriptedService where
  readLine _ service := (.ok none, service)
  readSecret _ service := (.error "nobody is there", service)
  clock service := (0, service)
  call := ScriptedService.answer

/-- All rows in one page. -/
def whole : SimpleReply := ⟨.success, "demoResc\nhidden: resc_class\notherResc\n", 0⟩

/-- The same rows in two pages. -/
def first : SimpleReply := ⟨.success, "demoResc\nhidden: resc_class\n", 7⟩

def second : SimpleReply := ⟨.success, "otherResc\n", 0⟩

def service (pages : List SimpleReply) : ScriptedService where
  simpleQuery :=
    pages.foldl (fun script page => script.push "R_RESC_MAIN" { reply := some page }) []

private theorem serves_whole : peers.Serves (service [whole]) query whole [] :=
  .last rfl rfl (by decide)

private theorem serves_parts : peers.Serves (service [first, second]) query first [second] :=
  .more rfl rfl (by decide) ⟨"demoResc\nhidden: resc_class", by decide⟩ (.last rfl rfl (by decide))

end CutTwice

open CutTwice in
/-- One page shows what two pages show. -/
theorem one_page_or_two :
    let run := (toProc (Action.runQuery query).run context State.initial).run peers.handler
      (service [whole])
    let otherRun := (toProc (Action.runQuery query).run context State.initial).run peers.handler
      (service [first, second])
    linesIn run.events = linesIn otherRun.events ∧
      linesIn run.events = ["demoResc", "otherResc"].map .out := by
  have hRows : listedText [whole] = listedText [first, second] := by decide
  obtain ⟨-, -, hSame, hLines⟩ := listing_overlooks_cuts.2 peers peers (service [whole])
    (service [first, second]) query whole first [] [second] context context .initial .initial
    serves_whole serves_parts hRows (by decide) (by decide)
  have hShown : Listing.pageText (listedText [whole]) = ["demoResc", "otherResc"] := by
    decide +kernel
  rw [hShown] at hLines
  exact ⟨hSame, hLines⟩

end Shell

end GridAdmin
