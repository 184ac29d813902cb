import GridAdmin.Shell.Basic

/-!
# Rehearsed sessions

A session can be rehearsed without a server and without a terminal. The
terminal answers from lists of prepared lines. The service answers from
scripts: a rule belongs to a kind of call and holds a needle and a queue of
replies. The first rule whose needle stands in the text of a call answers it
with the next reply of its queue; the last reply of a queue repeats for ever.
A call that no rule matches succeeds with an empty reply.

## Main definitions

* `Script.push`, `Script.next`: add a reply to a script, and take one.
* `Rehearsal`, `Rehearsal.handler`: prepared surroundings for the shell.
-/

namespace GridAdmin

/-! ## Scripts -/

/-- A prepared reply. -/
structure Scripted (α : Type) where
  /-- `none` when the call fails. -/
  reply : Option α
  /-- The diagnostics that the call leaves behind in any case. -/
  errors : List Diagnostic := []

/-- Replies waiting behind one needle; there is always one. -/
structure ReplyQueue (α : Type) where
  first : Scripted α
  later : List (Scripted α)

namespace ReplyQueue

variable {α : Type}

/-- Put a reply at the end of the queue. -/
def push (queue : ReplyQueue α) (reply : Scripted α) : ReplyQueue α :=
  { queue with later := queue.later ++ [reply] }

/-- The queue behind its first reply. The last reply stays. -/
def advance (queue : ReplyQueue α) : ReplyQueue α :=
  match queue.later with
  | [] => queue
  | next :: rest => ⟨next, rest⟩

/-- All replies that are left, in order. -/
def toList (queue : ReplyQueue α) : List (Scripted α) :=
  queue.first :: queue.later

@[simp] theorem toList_push (queue : ReplyQueue α) (reply : Scripted α) :
    (queue.push reply).toList = queue.toList ++ [reply] := rfl

end ReplyQueue

/-- Rules for one kind of call, in the order in which their needles appeared. -/
abbrev Script (α : Type) := List (String × ReplyQueue α)

namespace Script

variable {α : Type}

/-- Add a reply behind a needle. Equal needles share one queue. -/
def push (script : Script α) (needle : String) (reply : Scripted α) : Script α :=
  match script with
  | [] => [(needle, ⟨reply, []⟩)]
  | (other, queue) :: rest =>
      if other = needle then (other, queue.push reply) :: rest
      else (other, queue) :: push rest needle reply

/-- The reply to a call whose text is `key`, and the script after it. -/
def next (script : Script α) (key : String) : Option (Scripted α) × Script α :=
  match script with
  | [] => (none, [])
  | (needle, queue) :: rest =>
      if Text.contains key needle then (some queue.first, (needle, queue.advance) :: rest)
      else
        let answered := next rest key
        (answered.1, (needle, queue) :: answered.2)

theorem next_of_no_match {script : Script α} {key : String}
    (hNone : ∀ rule ∈ script, Text.contains key rule.1 = false) :
    script.next key = (none, script) := by
  induction script with
  | nil => rfl
  | cons rule rest ih =>
      have hRest := ih fun other hMem => hNone other (List.mem_cons_of_mem _ hMem)
      simp [next, hNone rule (by simp), hRest]

end Script

/-! ## The service -/

/-- Scripts for all kinds of calls that have a reply. -/
structure ScriptedService where
  generalAdmin : Script Status := []
  userAdmin : Script Status := []
  simpleQuery : Script SimpleReply := []
  generalQuery : Script GeneralReply := []
  modifyReplica : Script Status := []
  gridConfiguration : Script GridValue := []

namespace ScriptedService

/-- The text of an administrative request that needles are looked for in. -/
def adminKey (request : AdminRequest) : String :=
  " ".intercalate request.cells

/-- The text of a configuration option that needles are looked for in. -/
def optionKey (scope option : String) : String :=
  scope ++ "/" ++ option

/-- The exchange of a call that got this prepared reply, or none. A prepared
failure looks like a server that is out of service. -/
def exchange (call : Call) (empty : call.Reply) :
    Option (Scripted call.Reply) → Exchange call
  | none => ⟨[], .ok empty⟩
  | some scripted =>
      ⟨scripted.errors,
        match scripted.reply with
        | some reply => .ok reply
        | none => .error (.protocol call.operation 503)⟩

/-- Answer a call. -/
def answer : (call : Call) → ScriptedService → Exchange call × ScriptedService
  | .generalAdmin request, service =>
      let answered := service.generalAdmin.next (adminKey request)
      (exchange (.generalAdmin request) .success answered.1,
        { service with generalAdmin := answered.2 })
  | .userAdmin request, service =>
      let answered := service.userAdmin.next (adminKey request)
      (exchange (.userAdmin request) .success answered.1,
        { service with userAdmin := answered.2 })
  | .simpleQuery query, service =>
      let answered := service.simpleQuery.next query.sql
      (exchange (.simpleQuery query) ⟨.success, "", 0⟩ answered.1,
        { service with simpleQuery := answered.2 })
  | .generalQuery query zoneHint, service =>
      let answered := service.generalQuery.next query
      (exchange (.generalQuery query zoneHint) ⟨.success, []⟩ answered.1,
        { service with generalQuery := answered.2 })
  | .modifyReplica update, service =>
      let answered := service.modifyReplica.next ""
      (exchange (.modifyReplica update) .success answered.1,
        { service with modifyReplica := answered.2 })
  | .gridConfiguration scope option, service =>
      let answered := service.gridConfiguration.next (optionKey scope option)
      (exchange (.gridConfiguration scope option) ⟨.success, ""⟩ answered.1,
        { service with gridConfiguration := answered.2 })
  | .disconnect, service => (⟨[], .ok ()⟩, service)

end ScriptedService

/-! ## The terminal -/

/-- Prepared lines. When they run out, input ends; a hidden line that is
missing is a failure of the terminal. -/
structure ScriptedTerminal where
  lines : List (Except String (Option String)) := []
  secrets : List (Except String String) := []

namespace ScriptedTerminal

/-- The next line. -/
def readLine (terminal : ScriptedTerminal) :
    Except String (Option String) × ScriptedTerminal :=
  match terminal.lines with
  | [] => (.ok none, terminal)
  | line :: rest => (line, { terminal with lines := rest })

/-- The next hidden line. -/
def readSecret (terminal : ScriptedTerminal) : Except String String × ScriptedTerminal :=
  match terminal.secrets with
  | [] => (.error "no secret scripted", terminal)
  | line :: rest => (line, { terminal with secrets := rest })

end ScriptedTerminal

/-! ## The shell's surroundings -/

/-- Prepared surroundings of the shell. -/
structure Rehearsal where
  terminal : ScriptedTerminal
  service : ScriptedService
  /-- The time that the clock shows. -/
  now : Int := 0

/-- Answer a question of the shell. -/
def Rehearsal.answer : (query : Shell.Query) → Rehearsal → query.Answer × Rehearsal
  | .print _, rehearsal => ((), rehearsal)
  | .readLine _, rehearsal =>
      let answered := rehearsal.terminal.readLine
      (answered.1, { rehearsal with terminal := answered.2 })
  | .readSecret _, rehearsal =>
      let answered := rehearsal.terminal.readSecret
      (answered.1, { rehearsal with terminal := answered.2 })
  | .clock, rehearsal => (rehearsal.now, rehearsal)
  | .call call, rehearsal =>
      let answered := rehearsal.service.answer call
      (answered.1, { rehearsal with service := answered.2 })

/-- Prepared surroundings as a handler. -/
def Rehearsal.handler : Proc.Handler Shell.interface Rehearsal :=
  ⟨Rehearsal.answer⟩

end GridAdmin
