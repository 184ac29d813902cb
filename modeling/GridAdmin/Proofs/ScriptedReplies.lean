import GridAdmin.Rehearsal

/-!
# The replies of a rehearsed service

A rehearsed session stands or falls with the order in which prepared replies are handed out.
Whoever writes a rehearsal thinks of the rules as they were pushed: a call is answered by the
first of them whose needle stands in its text, the replies behind one needle are taken in order,
and the last of them stays.

A script works differently.  It keeps a queue for each needle, a needle that is pushed again
joins a queue that may be far in front, and each call takes something out of a queue.  That both
are the same is an invariant of the script, `Stands`: it says for the rules pushed and the calls
answered so far which needles there are, and what is left behind each of them.  The count that it
speaks of, `callsTo`, looks at the calls of one needle alone, and so no queue has an influence on
another.

Needles may overlap.  Which of them answers depends on the order of pushing, and it is the same
at every point of a session, since answering moves no needle.

## Main definitions

* `ofRules`, `after`: a script of rules, and what calls leave of it.
* `needle?`, `repliesTo`, `callsTo`: what the rules say about a call.
* `Stands`: a script is where rules and calls have brought it.

## Main results

* `Stands.push`, `Stands.next`: one rule, and one call.
* `stands_after`: all rules, and all calls.
* `scripted_replies`: which reply a call gets, and what it changes.
-/

namespace GridAdmin.Script

variable {α : Type} {script : Script α} {rules : List (String × Scripted α)}
  {keys : List String} {key needle other : String} {reply : Scripted α}

/-! ## What rules say -/

/-- The needle that answers a call: the first one pushed that stands in its text. -/
def needle? (rules : List (String × Scripted α)) (key : String) : Option String :=
  (rules.map Prod.fst).find? (Text.contains key)

/-- The replies pushed behind a needle, in order. -/
def repliesTo (rules : List (String × Scripted α)) (needle : String) : List (Scripted α) :=
  (rules.filter fun rule => rule.1 = needle).map Prod.snd

/-- How many calls with these texts a needle answers. -/
def callsTo (rules : List (String × Scripted α)) (needle : String) (keys : List String) : Nat :=
  keys.countP fun key => needle? rules key = some needle

/-- What `calls` calls leave of the replies behind a needle: the last one is never taken. -/
def leftBy (calls : Nat) (replies : List (Scripted α)) : List (Scripted α) :=
  replies.drop (min calls (replies.length - 1))

theorem repliesTo_append (needle : String) (more : List (String × Scripted α)) :
    repliesTo (rules ++ more) needle = repliesTo rules needle ++ repliesTo more needle := by
  simp [repliesTo]

theorem repliesTo_singleton :
    repliesTo [(needle, reply)] other = if needle = other then [reply] else [] := by
  by_cases hSame : needle = other <;> simp [repliesTo, hSame]

/-- The needle that answers a call is one of the rules'. -/
theorem repliesTo_ne_nil (hNeedle : needle? rules key = some needle) :
    repliesTo rules needle ≠ [] := by
  have hMem : needle ∈ rules.map Prod.fst := List.mem_of_find?_eq_some hNeedle
  obtain ⟨rule, hRule, hFirst⟩ := List.mem_map.mp hMem
  apply List.ne_nil_of_mem
  exact List.mem_map_of_mem (List.mem_filter.mpr ⟨hRule, by simpa using hFirst⟩)

theorem callsTo_append_singleton :
    callsTo rules needle (keys ++ [key])
      = callsTo rules needle keys + if needle? rules key = some needle then 1 else 0 := by
  simp [callsTo, List.countP_append, List.countP_cons]

/-- The first reply that is left is the next one in order, or the last one. -/
private theorem head?_leftBy (calls : Nat) (replies : List (Scripted α)) :
    (leftBy calls replies).head? = replies[min (calls + 1) replies.length - 1]? := by
  have hIndex : min calls (replies.length - 1) = min (calls + 1) replies.length - 1 := by omega
  rw [leftBy, List.head?_drop, hIndex]

/-- One more call takes the first reply away unless it is the last. -/
private theorem leftBy_leftBy_one (calls : Nat) (replies : List (Scripted α)) :
    leftBy 1 (leftBy calls replies) = leftBy (calls + 1) replies := by
  rw [leftBy, leftBy, leftBy, List.length_drop, List.drop_drop]
  congr 1
  omega

/-! ## What a script holds -/

/-- The needles of a script, in its order. -/
def needles (script : Script α) : List String :=
  script.map Prod.fst

/-- The replies that wait behind a needle; there are none without a rule for it. -/
def waiting (needle : String) : Script α → List (Scripted α)
  | [] => []
  | (other, queue) :: rest => if other = needle then queue.toList else waiting needle rest

private theorem toList_advance (queue : ReplyQueue α) :
    queue.advance.toList = leftBy 1 queue.toList := by
  obtain ⟨first, later⟩ := queue
  cases later <;> rfl

@[simp] theorem needles_cons (first : String) (queue : ReplyQueue α) (rest : Script α) :
    needles ((first, queue) :: rest) = first :: needles rest := rfl

@[simp] theorem waiting_cons (first : String) (queue : ReplyQueue α) (rest : Script α) :
    waiting other ((first, queue) :: rest)
      = if first = other then queue.toList else rest.waiting other := rfl

private theorem needles_push :
    (script.push needle reply).needles
      = if needle ∈ script.needles then script.needles else script.needles ++ [needle] := by
  induction script with
  | nil => rfl
  | cons rule rest ih =>
      obtain ⟨first, queue⟩ := rule
      by_cases hSame : first = needle
      · simp [push, hSame]
      · have hOther : needle ≠ first := Ne.symm hSame
        by_cases hMem : needle ∈ needles rest <;> simp [push, hSame, hOther, ih, hMem]

/-- A reply that is pushed waits at the end of its own queue. -/
private theorem waiting_push :
    (script.push needle reply).waiting other
      = script.waiting other ++ if needle = other then [reply] else [] := by
  induction script with
  | nil => by_cases hOther : needle = other <;> simp [push, waiting, hOther, ReplyQueue.toList]
  | cons rule rest ih =>
      obtain ⟨first, queue⟩ := rule
      by_cases hSame : first = needle
      · subst hSame
        by_cases hOther : first = other <;> simp [push, hOther]
      · by_cases hFirst : first = other
        · subst hFirst
          simp [push, hSame, Ne.symm hSame]
        · simp [push, hSame, hFirst, ih]

/-- A call that the first queue of a script answers. -/
theorem next_cons_of_contains {queue : ReplyQueue α} (hContains : Text.contains key needle = true) :
    next ((needle, queue) :: script) key
      = (some queue.first, (needle, queue.advance) :: script) := by
  rw [next, if_pos hContains]

/-- A call that goes past the first queue of a script. -/
theorem next_cons_of_not_contains {queue : ReplyQueue α}
    (hAbsent : ¬Text.contains key needle = true) :
    next ((needle, queue) :: script) key
      = ((script.next key).1, (needle, queue) :: (script.next key).2) := by
  rw [next, if_neg hAbsent]

/-- A call leaves the needles where they are. -/
private theorem needles_next : (script.next key).2.needles = script.needles := by
  induction script with
  | nil => rfl
  | cons rule rest ih =>
      obtain ⟨first, queue⟩ := rule
      by_cases hContains : Text.contains key first = true
      · simp [next_cons_of_contains hContains]
      · simp [next_cons_of_not_contains hContains, ih]

/-- The needle that answers a call is not one that does not stand in its text. -/
theorem ne_of_find? {texts : List String} (hAbsent : ¬Text.contains key other = true)
    (hFind : texts.find? (Text.contains key) = some needle) : other ≠ needle := by
  intro hSame
  subst hSame
  exact hAbsent (List.find?_some hFind)

/-- The first needle that stands in the text hands out what waits first behind it. -/
private theorem next_fst :
    (script.next key).1
      = (script.needles.find? (Text.contains key)).bind fun needle =>
          (script.waiting needle).head? := by
  induction script with
  | nil => rfl
  | cons rule rest ih =>
      obtain ⟨first, queue⟩ := rule
      by_cases hContains : Text.contains key first = true
      · simp [next_cons_of_contains hContains, hContains, ReplyQueue.toList]
      · rw [next_cons_of_not_contains hContains, ih, needles_cons,
          List.find?_cons_of_neg hContains]
        cases hFind : (needles rest).find? (Text.contains key) with
        | none => rfl
        | some needle => simp [ne_of_find? hContains hFind]

/-- A call takes a reply from the queue that answers it, and from no other. -/
private theorem waiting_next :
    (script.next key).2.waiting other
      = if script.needles.find? (Text.contains key) = some other
        then leftBy 1 (script.waiting other) else script.waiting other := by
  induction script with
  | nil => rfl
  | cons rule rest ih =>
      obtain ⟨first, queue⟩ := rule
      by_cases hContains : Text.contains key first = true
      · rw [next_cons_of_contains hContains, needles_cons, List.find?_cons_of_pos hContains]
        by_cases hOther : first = other <;> simp [hOther, toList_advance]
      · rw [next_cons_of_not_contains hContains, needles_cons, List.find?_cons_of_neg hContains]
        by_cases hOther : first = other
        · have hNot : (needles rest).find? (Text.contains key) ≠ some other := fun hFind =>
            ne_of_find? hContains hFind hOther
          simp [hOther, hNot]
        · simp [hOther, ih]

/-! ## Where rules and calls bring a script -/

/-- The script holds what the rules give it, less what the calls with the texts `keys` have
taken. -/
structure Stands (script : Script α) (rules : List (String × Scripted α)) (keys : List String) :
    Prop where
  /-- One queue for each needle, in the order of their first rules. -/
  needles_eq : script.needles = (rules.map Prod.fst).eraseDups
  waiting_eq : ∀ needle,
    script.waiting needle = leftBy (callsTo rules needle keys) (repliesTo rules needle)

/-- Dropping repetitions does not change what is found first. -/
private theorem find?_eraseDups (p : String → Bool) :
    ∀ texts : List String, texts.eraseDups.find? p = texts.find? p
  | [] => rfl
  | text :: rest => by
      have hRest := find?_eraseDups p (rest.filter fun other => !other == text)
      rw [List.eraseDups_cons, List.find?_cons, List.find?_cons, hRest, List.find?_filter]
      cases hText : p text with
      | true => rfl
      | false =>
          have hSame : (fun other => decide ((!other == text) = true ∧ p other = true)) = p := by
            funext other
            by_cases hOther : other = text <;> simp [hOther, hText]
          rw [hSame]
termination_by texts => texts.length
decreasing_by exact Nat.lt_succ_of_le (List.length_filter_le _ _)

theorem Stands.find?_eq (hStands : script.Stands rules keys) (key : String) :
    script.needles.find? (Text.contains key) = needle? rules key := by
  rw [hStands.needles_eq, find?_eraseDups, needle?]

theorem stands_nil : Stands ([] : Script α) [] [] where
  needles_eq := rfl
  waiting_eq _ := rfl

/-- A rule that is pushed before any call comes last behind its needle. -/
theorem Stands.push (hStands : script.Stands rules []) (needle : String) (reply : Scripted α) :
    (script.push needle reply).Stands (rules ++ [(needle, reply)]) [] where
  needles_eq := by
    rw [needles_push, hStands.needles_eq, List.map_append, List.eraseDups_append]
    by_cases hMem : needle ∈ rules.map Prod.fst
    · simp [List.mem_eraseDups, List.removeAll, hMem]
    · simp [List.mem_eraseDups, List.removeAll, hMem, List.eraseDups_cons]
  waiting_eq other := by
    rw [waiting_push, hStands.waiting_eq, repliesTo_append, repliesTo_singleton]
    rfl

/-- A call takes one reply from behind the needle that answers it. -/
theorem Stands.next (hStands : script.Stands rules keys) (key : String) :
    (script.next key).2.Stands rules (keys ++ [key]) where
  needles_eq := by
    rw [needles_next, hStands.needles_eq]
  waiting_eq other := by
    rw [waiting_next, hStands.find?_eq, hStands.waiting_eq, callsTo_append_singleton]
    split
    · rw [leftBy_leftBy_one]
    · rw [Nat.add_zero]

/-- The script that holds these rules, pushed one after the other. -/
def ofRules (rules : List (String × Scripted α)) : Script α :=
  rules.foldl (fun script rule => script.push rule.1 rule.2) []

/-- The script behind calls with these texts. -/
def after (script : Script α) (keys : List String) : Script α :=
  keys.foldl (fun script key => (script.next key).2) script

theorem Stands.pushAll (hStands : script.Stands rules []) (more : List (String × Scripted α)) :
    (more.foldl (fun script rule => script.push rule.1 rule.2) script).Stands (rules ++ more)
      [] := by
  induction more generalizing script rules with
  | nil =>
      rw [List.append_nil]
      exact hStands
  | cons rule rest ih =>
      have hRest := ih (hStands.push rule.1 rule.2)
      rw [List.append_assoc] at hRest
      exact hRest

private theorem Stands.nextAll (hStands : script.Stands rules keys) (more : List String) :
    (script.after more).Stands rules (keys ++ more) := by
  induction more generalizing script keys with
  | nil =>
      rw [List.append_nil]
      exact hStands
  | cons key rest ih =>
      have hRest := ih (hStands.next key)
      rw [List.append_assoc] at hRest
      exact hRest

/-- A script of rules is where its calls have brought it. -/
theorem stands_after (rules : List (String × Scripted α)) (keys : List String) :
    ((ofRules rules).after keys).Stands rules keys :=
  (stands_nil.pushAll rules).nextAll keys

/-! ## Answers -/

private theorem Stands.next_fst (hStands : script.Stands rules keys)
    (hNeedle : needle? rules key = some needle) :
    (script.next key).1
      = (repliesTo rules needle)[min (callsTo rules needle (keys ++ [key]))
          (repliesTo rules needle).length - 1]? := by
  have hCalls : callsTo rules needle (keys ++ [key]) = callsTo rules needle keys + 1 := by
    rw [callsTo_append_singleton, if_pos hNeedle]
  rw [Script.next_fst, hStands.find?_eq, hNeedle, hCalls, ← head?_leftBy, ← hStands.waiting_eq]
  rfl

private theorem Stands.next_of_none (hStands : script.Stands rules keys)
    (hNone : needle? rules key = none) : script.next key = (none, script) := by
  apply next_of_no_match
  intro rule hRule
  have hNeedles : script.needles.find? (Text.contains key) = none :=
    (hStands.find?_eq key).trans hNone
  rw [← Bool.not_eq_true]
  exact List.find?_eq_none.mp hNeedles rule.1 (List.mem_map_of_mem hRule)

/-- What a script does.  Its rules form one queue for each needle, with the replies in the order
in which they were pushed.  A call is answered by the first needle pushed that stands in its text.
If it is the `k`-th call that this needle answers and `n` replies were pushed behind it, the
answer is reply number `min k n`; the calls of other needles do not count, and each queue is left
as its own calls leave it.  A call in whose text no needle stands has no reply and changes
nothing. -/
theorem scripted_replies (rules : List (String × Scripted α)) (keys : List String) :
    ((ofRules rules).needles = (rules.map Prod.fst).eraseDups ∧
      ∀ needle, (ofRules rules).waiting needle = repliesTo rules needle) ∧
    (((ofRules rules).after keys).needles = (ofRules rules).needles ∧
      ∀ needle, ((ofRules rules).after keys).waiting needle
        = leftBy (callsTo rules needle keys) (repliesTo rules needle)) ∧
    (∀ key needle, needle? rules key = some needle → ∃ reply,
      (repliesTo rules needle)[min (callsTo rules needle (keys ++ [key]))
        (repliesTo rules needle).length - 1]? = some reply ∧
      (((ofRules rules).after keys).next key).1 = some reply) ∧
    ∀ key, needle? rules key = none →
      ((ofRules rules).after keys).next key = (none, (ofRules rules).after keys) := by
  have hStart : (ofRules rules).Stands rules [] := stands_nil.pushAll rules
  have hStands : ((ofRules rules).after keys).Stands rules keys := stands_after rules keys
  refine ⟨⟨hStart.needles_eq, hStart.waiting_eq⟩, ⟨?_, hStands.waiting_eq⟩, ?_, ?_⟩
  · rw [hStands.needles_eq, hStart.needles_eq]
  · intro key needle hNeedle
    have hLength : 0 < (repliesTo rules needle).length :=
      List.length_pos_iff.mpr (repliesTo_ne_nil hNeedle)
    have hIndex : min (callsTo rules needle (keys ++ [key])) (repliesTo rules needle).length - 1
        < (repliesTo rules needle).length := by
      omega
    have hReply := List.getElem?_eq_getElem hIndex
    exact ⟨_, hReply, (hStands.next_fst hNeedle).trans hReply⟩
  · intro key hNone
    exact hStands.next_of_none hNone

/-- The third call that the needle `rm` answers gets the second of its two replies, also where a
longer needle stands in the text, and a call in between that no needle answers does not count. -/
theorem last_reply_stays :
    let rules : List (String × Scripted Status) :=
      [("rm", ⟨some .noApiPrivilege, []⟩), ("rm zone", ⟨none, []⟩), ("rm", ⟨some .success, []⟩)]
    let script := (ofRules rules).after ["rm zone z1", "add user u", "rm user u"]
    needle? rules "rm zone z2" = some "rm" ∧
      (script.next "rm zone z2").1 = some ⟨some .success, []⟩ ∧
      needle? rules "add" = none ∧ script.next "add" = (none, script) := by
  intro rules script
  have hNeedle : needle? rules "rm zone z2" = some "rm" := by decide
  have hNone : needle? rules "add" = none := by decide
  have hScript := scripted_replies rules ["rm zone z1", "add user u", "rm user u"]
  obtain ⟨reply, hReply, hNext⟩ := hScript.2.2.1 "rm zone z2" "rm" hNeedle
  have hLast : some ⟨some .success, []⟩ = some reply := hReply
  exact ⟨hNeedle, hNext.trans hLast.symm, hNone, hScript.2.2.2 "add" hNone⟩

end GridAdmin.Script
