import GridAdmin.Proofs.TextCuts
import GridAdmin.Replica.Selector

/-!
# Logical paths have one canonical form

A typed path describes a walk through the tree of collections and objects: it starts at the
root, and every segment stays, goes one step up, or goes down to a name.  Many paths lead to
the same node, by doubled slashes, by `.` and `..`, and by climbing above the root, where there
is nothing to climb to.  The catalog knows the node by one spelling only, and a path that is
not brought to it finds nothing.

The tree and the walk are described here without the stack of names that the reader keeps.
A node is spelled by the names on the way down to it, and since a name holds no slash, the
spelling can be taken apart again.  Everything else follows from that: nodes with the same
spelling are the same node, the spelling of a node leads to it, and what is written behind a
path and a slash goes on where the path ended.

A query names an object by its collection and its name, which are cut from the spelling at
its last slash.  The root has the spelling `/` as a collection, with no name behind the slash,
so that the objects directly below it are the one special case.

## Main definitions

* `Node`, `Node.spelling`: the tree, and how the catalog spells its nodes.
* `Moves`, `Leads`: where a segment and a whole path lead.
* `IsCanonicalFor`: what the canonical spelling of a path is good for.
* `IsCanonical`, `collection`: spellings in terms of the names on a stack.

## Main results

* `walk_of_leads`: the reader's stack keeps the way to the node that the path leads to.
* `Node.spelling_injective`: a node is known by its spelling.
* `split_spell`: a canonical path is cut into its collection and its name.
* `normalize?_spells_node`: a typed path comes out as the spelling of its node.
-/

namespace GridAdmin

namespace LogicalPath

/-! ## The tree -/

/-- A node of the tree of collections and objects. -/
inductive Node where
  | root
  | child (parent : Node) (name : List Char)
  deriving DecidableEq

namespace Node

/-- The node one step up.  There is nothing above the root. -/
def parent : Node → Node
  | root => root
  | child node _ => node

/-- The names on the way down to a node. -/
def names : Node → List (List Char)
  | root => []
  | child node name => node.names ++ [name]

/-- The same names as the reader keeps them, the deepest one on top. -/
def stack : Node → List (List Char)
  | root => []
  | child node name => name :: node.stack

/-- A slash and the names of the node, joined by single slashes. -/
def spelling (node : Node) : List Char :=
  '/' :: ['/'].intercalate node.names

end Node

/-- A segment that leads down is neither empty nor one of the two that are no names. -/
structure IsName (segment : List Char) : Prop where
  ne_nil : segment ≠ []
  ne_stay : segment ≠ ['.']
  ne_up : segment ≠ ['.', '.']

/-- One segment leads from a node to another. -/
inductive Moves : Node → List Char → Node → Prop
  | empty (node : Node) : Moves node [] node
  | stay (node : Node) : Moves node ['.'] node
  | up (node : Node) : Moves node ['.', '.'] node.parent
  | down (node : Node) {name : List Char} (hName : IsName name) :
      Moves node name (node.child name)

/-- A list of segments leads from a node to another. -/
inductive Leads : Node → List (List Char) → Node → Prop
  | here (node : Node) : Leads node [] node
  | on {node next last : Node} {segment : List Char} {rest : List (List Char)}
      (hMove : Moves node segment next) (hRest : Leads next rest last) :
      Leads node (segment :: rest) last

/-! ## The walk -/

section Walk

variable {node next last : Node} {segment : List Char} {path : List (List Char)}

theorem Node.reverse_stack (node : Node) : node.stack.reverse = node.names := by
  induction node with
  | root => rfl
  | child above name ih => rw [stack, List.reverse_cons, ih, names]

theorem Node.stack_injective {other : Node} (hSame : node.stack = other.stack) : node = other := by
  induction node generalizing other with
  | root =>
      cases other with
      | root => rfl
      | child above name => cases hSame
  | child above name ih =>
      cases other with
      | root => cases hSame
      | child above₂ name₂ =>
          obtain ⟨rfl, hAbove⟩ := List.cons.inj hSame
          rw [ih hAbove]

private theorem Node.stack_parent (node : Node) : node.parent.stack = node.stack.tail := by
  cases node with
  | root => rfl
  | child above name => rfl

private theorem exists_moves (node : Node) (segment : List Char) :
    ∃ next, Moves node segment next := by
  by_cases hEmpty : segment = []
  · exact ⟨node, hEmpty ▸ Moves.empty node⟩
  by_cases hStay : segment = ['.']
  · exact ⟨node, hStay ▸ Moves.stay node⟩
  by_cases hUp : segment = ['.', '.']
  · exact ⟨node.parent, hUp ▸ Moves.up node⟩
  · exact ⟨node.child segment, Moves.down node ⟨hEmpty, hStay, hUp⟩⟩

theorem exists_leads (node : Node) (path : List (List Char)) : ∃ last, Leads node path last := by
  induction path generalizing node with
  | nil => exact ⟨node, Leads.here node⟩
  | cons segment rest ih =>
      obtain ⟨next, hMove⟩ := exists_moves node segment
      obtain ⟨last, hRest⟩ := ih next
      exact ⟨last, Leads.on hMove hRest⟩

theorem step_of_isName (stack : List (List Char)) (hName : IsName segment) :
    step stack segment = segment :: stack := by
  rw [step, if_neg (not_or.mpr ⟨hName.ne_nil, hName.ne_stay⟩), if_neg hName.ne_up]

private theorem step_of_moves (hMove : Moves node segment next) :
    step node.stack segment = next.stack := by
  cases hMove with
  | empty => exact if_pos (Or.inl rfl)
  | stay => exact if_pos (Or.inr rfl)
  | up => exact (Node.stack_parent node).symm
  | down hName => exact step_of_isName node.stack hName

/-- The reader's stack keeps the way to the node that the path leads to. -/
theorem walk_of_leads (hLeads : Leads node path last) : walk node.stack path = last.stack := by
  induction hLeads with
  | here => rfl
  | on hMove _ ih =>
      rw [walk, List.foldl_cons, step_of_moves hMove]
      exact ih

private theorem leads_unique {last₂ : Node} (hLeads : Leads node path last)
    (hLeads₂ : Leads node path last₂) : last = last₂ :=
  Node.stack_injective ((walk_of_leads hLeads).symm.trans (walk_of_leads hLeads₂))

/-- The names of a node lead down to it. -/
private theorem walk_names (hNames : ∀ name ∈ node.names, IsName name) :
    walk [] node.names = node.stack := by
  induction node with
  | root => rfl
  | child above name ih =>
      have hAbove : ∀ name ∈ above.names, IsName name := fun other hOther =>
        hNames other (List.mem_append_left _ hOther)
      have hName : IsName name := hNames name (List.mem_append_right _ List.mem_cons_self)
      rw [Node.names, walk_append, ih hAbove]
      exact step_of_isName above.stack hName

/-- The names of a node are among those that the walk went down to. -/
private theorem forall_names_of_moves {good : List Char → Prop}
    (hNames : ∀ name ∈ node.names, good name)
    (hSegment : IsName segment → good segment) (hMove : Moves node segment next) :
    ∀ name ∈ next.names, good name := by
  cases hMove with
  | empty => exact hNames
  | stay => exact hNames
  | up =>
      cases node with
      | root => exact hNames
      | child above name => exact fun other hOther => hNames other (List.mem_append_left _ hOther)
  | down hName =>
      intro other hOther
      rcases List.mem_append.mp hOther with hAbove | hLast
      · exact hNames other hAbove
      · exact List.mem_singleton.mp hLast ▸ hSegment hName

private theorem forall_names_of_leads {good : List Char → Prop}
    (hNames : ∀ name ∈ node.names, good name)
    (hPath : ∀ segment ∈ path, IsName segment → good segment) (hLeads : Leads node path last) :
    ∀ name ∈ last.names, good name := by
  induction hLeads with
  | here => exact hNames
  | on hMove _ ih =>
      have hFirst := forall_names_of_moves hNames (hPath _ List.mem_cons_self) hMove
      exact ih hFirst fun other hOther => hPath other (List.mem_cons_of_mem _ hOther)

end Walk

/-! ## Canonical paths -/

section Canonical

variable {path text name segment : List Char} {node : List (List Char)}

private theorem slash_not_mem_of_mem_segments (hSegment : segment ∈ segments path) :
    '/' ∉ segment := by
  unfold segments at hSegment
  induction path generalizing segment with
  | nil =>
      rw [List.splitOn_nil, List.mem_singleton] at hSegment
      rw [hSegment]
      exact List.not_mem_nil
  | cons c cs ih =>
      rw [List.splitOn_cons_eq_if_modifyHead] at hSegment
      by_cases hSlash : c = '/'
      · rw [if_pos (beq_iff_eq.mpr hSlash)] at hSegment
        rcases List.mem_cons.mp hSegment with rfl | hRest
        · exact List.not_mem_nil
        · exact ih hRest
      · rw [if_neg (by simpa using hSlash)] at hSegment
        cases hSplit : cs.splitOn '/' with
        | nil => exact absurd hSplit (List.splitOn_ne_nil _ _)
        | cons first rest =>
            rw [hSplit, List.modifyHead_cons] at hSegment
            rcases List.mem_cons.mp hSegment with rfl | hRest
            · have hFirst : '/' ∉ first := ih (by rw [hSplit]; exact List.mem_cons_self)
              exact List.not_mem_cons_of_ne_of_not_mem (Ne.symm hSlash) hFirst
            · exact ih (by rw [hSplit]; exact List.mem_cons_of_mem _ hRest)

/-- What a path leads to is named by segments of the path. -/
theorem names_of_leads {last : Node} (hLeads : Leads .root (segments path) last) :
    ∀ name ∈ last.names, IsName name ∧ '/' ∉ name :=
  forall_names_of_leads (fun _ hName => absurd hName List.not_mem_nil)
    (fun _ hSegment hName => ⟨hName, slash_not_mem_of_mem_segments hSegment⟩) hLeads

/-- The names on the way to a node are those of collections and objects. -/
def IsNode (node : List (List Char)) : Prop :=
  ∀ name ∈ node, name ≠ [] ∧ '/' ∉ name

private theorem isNode_walk_segments (path : List Char) : IsNode (walk [] (segments path)) := by
  obtain ⟨last, hLeads⟩ := exists_leads .root (segments path)
  rw [show walk [] (segments path) = last.stack from walk_of_leads hLeads]
  intro name hName
  rw [← List.mem_reverse, Node.reverse_stack] at hName
  have hProper := names_of_leads hLeads name hName
  exact ⟨hProper.1.ne_nil, hProper.2⟩

/-- The path is the spelling of a node below the root. -/
def IsCanonical (path : List Char) : Prop :=
  ∃ name node, IsNode (name :: node) ∧ path = spell (name :: node)

theorem isCanonical_of_normalize? (hText : normalize? path = .ok text) : IsCanonical text := by
  have hWalk := isNode_walk_segments path
  unfold normalize? at hText
  by_cases hRooted : path.head? = some '/'
  · rw [if_pos hRooted] at hText
    cases hEnd : walk [] (segments path) with
    | nil =>
        rw [hEnd] at hText
        cases hText
    | cons name node =>
        rw [hEnd] at hText hWalk
        cases hText
        exact ⟨name, node, hWalk, rfl⟩
  · rw [if_neg hRooted] at hText
    cases hText

theorem spell_cons : spell (name :: node) = spell node ++ '/' :: name := by
  simp [spell, List.flatMap_append]

/-- The spelling of a collection.  Unlike other nodes the root has one of its own. -/
def collection (node : List (List Char)) : List Char :=
  if node = [] then ['/'] else spell node

/-- A canonical path is split into its collection and its name. -/
theorem split_spell (hNode : IsNode (name :: node)) :
    split (spell (name :: node)) = (collection node, name) := by
  have hFree : '/' ∉ name.reverse := by
    rw [List.mem_reverse]
    exact (hNode name List.mem_cons_self).2
  have hReverse : (spell (name :: node)).reverse
      = name.reverse ++ '/' :: (spell node).reverse := by
    rw [spell_cons, List.reverse_append, List.reverse_cons, List.append_assoc]
    rfl
  rw [split, hReverse, Text.cutAt_append hFree]
  cases node with
  | nil =>
      show (['/'], name.reverse.reverse) = (['/'], name)
      rw [List.reverse_reverse]
  | cons above rest =>
      cases hParent : (spell (above :: rest)).reverse with
      | nil =>
          have hNone : spell (above :: rest) = [] := List.reverse_eq_nil_iff.mp hParent
          rw [spell_cons] at hNone
          exact absurd hNone (List.append_ne_nil_of_right_ne_nil _ (List.cons_ne_nil _ _))
      | cons last front =>
          show ((last :: front).reverse, name.reverse.reverse) = (collection (above :: rest), name)
          rw [← hParent, List.reverse_reverse, List.reverse_reverse, collection,
            if_neg (List.cons_ne_nil _ _)]

theorem spell_ne_root (hNode : IsNode node) : spell node ≠ ['/'] := by
  cases node with
  | nil => exact nofun
  | cons name above =>
      intro hRoot
      have hName := (hNode name List.mem_cons_self).1
      have hLength : (spell (name :: above)).length = 1 := by rw [hRoot]; rfl
      have hPositive : 0 < name.length := List.length_pos_iff.mpr hName
      rw [spell_cons, List.length_append, List.length_cons] at hLength
      omega

/-- Collection and name determine a canonical path. -/
theorem eq_of_split_eq {other : List Char} (hPath : IsCanonical path) (hOther : IsCanonical other)
    (hSplit : split path = split other) : path = other := by
  obtain ⟨name, node, hNode, rfl⟩ := hPath
  obtain ⟨name₂, node₂, hNode₂, rfl⟩ := hOther
  rw [split_spell hNode, split_spell hNode₂] at hSplit
  obtain ⟨hCollection, rfl⟩ := Prod.mk.inj hSplit
  have hAbove : IsNode node := fun name hName => hNode name (List.mem_cons_of_mem _ hName)
  have hAbove₂ : IsNode node₂ := fun name hName => hNode₂ name (List.mem_cons_of_mem _ hName)
  have hSpell : spell node = spell node₂ := by
    unfold collection at hCollection
    split at hCollection
    · split at hCollection
      · subst_vars
        rfl
      · exact absurd hCollection.symm (spell_ne_root hAbove₂)
    · split at hCollection
      · exact absurd hCollection (spell_ne_root hAbove)
      · exact hCollection
  rw [spell_cons, spell_cons, hSpell]

/-- The collection stands at the start of the path, the name at its end, and between them
there is at most a slash. -/
theorem split_parts (hPath : IsCanonical path) :
    (split path).1 <+: path ∧ (split path).2 <:+ path ∧
      ∀ c, c ≠ '/' → path.count c = (split path).1.count c + (split path).2.count c := by
  obtain ⟨name, node, hNode, rfl⟩ := hPath
  rw [split_spell hNode, spell_cons, collection]
  cases node with
  | nil =>
      rw [if_pos rfl]
      refine ⟨List.prefix_append ['/'] name, List.suffix_append ['/'] name, ?_⟩
      intro c hSlash
      show List.count c (['/'] ++ name) = List.count c ['/'] + List.count c name
      rw [List.count_append]
  | cons above rest =>
      rw [if_neg (List.cons_ne_nil _ _)]
      refine ⟨List.prefix_append _ _, List.suffix_append_of_suffix (List.suffix_cons _ _), ?_⟩
      intro c hSlash
      rw [List.count_append, List.count_cons_of_ne (Ne.symm hSlash)]

end Canonical

/-! ## Spellings of nodes -/

section Spelling

variable {path text : List Char} {node last : Node}

/-- What is written behind a path and a slash is walked behind the path. -/
theorem segments_append (path more : List Char) :
    segments (path ++ '/' :: more) = segments path ++ segments more :=
  List.splitOnP_append_cons path more (beq_self_eq_true '/')

private theorem flatMap_slash {names : List (List Char)} (hNames : names ≠ []) :
    names.flatMap ('/' :: ·) = '/' :: ['/'].intercalate names := by
  induction names with
  | nil => exact absurd rfl hNames
  | cons name rest ih =>
      cases rest with
      | nil => simp [List.intercalate_singleton]
      | cons next others =>
          rw [List.flatMap_cons, ih (List.cons_ne_nil _ _), List.intercalate_cons_cons]
          simp

theorem Node.names_ne_nil (hBelow : node ≠ .root) : node.names ≠ [] := by
  cases node with
  | root => exact absurd rfl hBelow
  | child above name => exact List.append_ne_nil_of_right_ne_nil _ (List.cons_ne_nil _ _)

private theorem spell_stack (hBelow : node ≠ .root) : spell node.stack = node.spelling := by
  rw [spell, Node.reverse_stack, flatMap_slash (Node.names_ne_nil hBelow), Node.spelling]

/-- Names hold no slash, so that the spelling of a node is taken apart into them. -/
theorem segments_spelling (hFree : ∀ name ∈ node.names, '/' ∉ name) (hBelow : node ≠ .root) :
    segments node.spelling = [] :: node.names := by
  rw [segments, Node.spelling, List.splitOn_cons_eq_if_modifyHead, if_pos (beq_self_eq_true '/'),
    List.splitOn_intercalate '/' hFree (Node.names_ne_nil hBelow)]

/-- A node is known by its spelling. -/
theorem Node.spelling_injective {other : Node} (hFree : ∀ name ∈ node.names, '/' ∉ name)
    (hFree₂ : ∀ name ∈ other.names, '/' ∉ name) (hBelow : node ≠ .root) (hBelow₂ : other ≠ .root)
    (hSame : node.spelling = other.spelling) : node = other := by
  have hSegments := congrArg segments hSame
  rw [segments_spelling hFree hBelow, segments_spelling hFree₂ hBelow₂] at hSegments
  have hNames : node.names = other.names := (List.cons.inj hSegments).2
  rw [← Node.reverse_stack, ← Node.reverse_stack] at hNames
  exact Node.stack_injective (List.reverse_inj.mp hNames)

/-- A path is answered with the spelling of the node that it leads to. -/
private theorem normalize?_of_walk (hWalk : walk [] (segments path) = node.stack) :
    normalize? path =
      if path.head? = some '/' then
        if node = .root then .error .isRoot else .ok node.spelling
      else .error .notAbsolute := by
  unfold normalize?
  by_cases hRooted : path.head? = some '/'
  · rw [if_pos hRooted, if_pos hRooted, hWalk]
    cases node with
    | root => rfl
    | child above name =>
        have hBelow : above.child name ≠ .root := nofun
        rw [if_neg hBelow, ← spell_stack hBelow, Node.stack]
  · rw [if_neg hRooted, if_neg hRooted]

theorem normalize?_eq_ok_iff (hLeads : Leads .root (segments path) node) :
    normalize? path = .ok text ↔
      path.head? = some '/' ∧ node ≠ .root ∧ text = node.spelling := by
  rw [normalize?_of_walk (walk_of_leads hLeads)]
  constructor
  · intro hText
    split at hText
    · rename_i hRooted
      split at hText
      · cases hText
      · rename_i hBelow
        exact ⟨hRooted, hBelow, (Except.ok.inj hText).symm⟩
    · cases hText
  · rintro ⟨hRooted, hBelow, rfl⟩
    rw [if_pos hRooted, if_neg hBelow]

/-- Only the walk decides what a path that starts at the root is answered with. -/
private theorem normalize?_congr {other : List Char} (hRooted : path.head? = some '/')
    (hRooted₂ : other.head? = some '/')
    (hWalk : walk [] (segments path) = walk [] (segments other)) :
    normalize? path = normalize? other := by
  unfold normalize?
  rw [if_pos hRooted, if_pos hRooted₂, hWalk]

end Spelling

/-! ## What the canonical spelling is good for -/

/-- A query for the object states the two parts that its path is cut into, and the path is made of
them.  An object directly below the root is in the collection `/`. -/
structure QueriedByParts (text parent name : List Char) (replica : Replica) : Prop where
  query_eq : Replica.query (.atPath (String.ofList text)) replica
    = "select " ++ ", ".intercalate Attribute.columns ++ " where "
      ++ ("COLL_NAME = '" ++ String.ofList parent ++ "' and DATA_NAME = '"
        ++ String.ofList name ++ "'")
      ++ " and " ++ replica.condition
  ne_nil : name ≠ []
  no_slash : '/' ∉ name
  eq_parts : text = (if parent = ['/'] then [] else parent) ++ '/' :: name

/-- The text is the canonical spelling of a path that leads to the node. -/
structure IsCanonicalFor (path : List Char) (node : Node) (text : List Char) : Prop where
  /-- Behind the slash at the start stand the names of the node, and nothing else. -/
  segments_eq : segments text = [] :: node.names
  isName : ∀ name ∈ node.names, IsName name
  no_slash_last : text.getLast? ≠ some '/'
  /-- It is its own canonical spelling. -/
  fixed : normalize? text = .ok text
  /-- Other paths have it exactly if they lead to the same node. -/
  shared_iff : ∀ (other : List Char) (otherNode : Node) (otherText : List Char),
    Leads .root (segments other) otherNode → normalize? other = .ok otherText →
      (otherText = text ↔ otherNode = node)
  /-- It may stand for the path in front of anything that is written behind. -/
  replaces : ∀ more : List Char,
    normalize? (path ++ '/' :: more) = normalize? (text ++ '/' :: more)
  queried : ∀ replica : Replica, QueriedByParts text (split text).1 (split text).2 replica

section CanonicalFor

variable {path text name : List Char} {node : Node}

/-- What stands in front of the last slash, where only the root has a spelling of its own. -/
private theorem spell_eq_of_collection {above : List (List Char)} (hNode : IsNode above) :
    (if collection above = ['/'] then [] else collection above) = spell above := by
  cases above with
  | nil => rfl
  | cons name rest =>
      have hBelow : collection (name :: rest) = spell (name :: rest) :=
        if_neg (List.cons_ne_nil _ _)
      rw [hBelow, if_neg (spell_ne_root hNode)]

private theorem condition_atPath (text : List Char) :
    (DataObject.atPath (String.ofList text)).condition
      = "COLL_NAME = '" ++ String.ofList (split text).1 ++ "' and DATA_NAME = '"
        ++ String.ofList (split text).2 ++ "'" := by
  have hBetween : ∀ after : String,
      "'" ++ (" and " ++ ("DATA_NAME = '" ++ after)) = "' and DATA_NAME = '" ++ after := by
    intro after
    rw [← String.append_assoc, ← String.append_assoc]
    rfl
  show "COLL_NAME = '" ++ String.ofList (split (String.ofList text).toList).1 ++ "'" ++ " and "
    ++ ("DATA_NAME = '" ++ String.ofList (split (String.ofList text).toList).2 ++ "'") = _
  rw [String.toList_ofList]
  simp only [String.append_assoc, hBetween]

private theorem queriedByParts_of_isCanonical (hText : IsCanonical text) (replica : Replica) :
    QueriedByParts text (split text).1 (split text).2 replica := by
  obtain ⟨name, above, hNode, rfl⟩ := hText
  obtain ⟨hNonempty, hFree⟩ := hNode name List.mem_cons_self
  have hAbove : IsNode above := fun other hOther => hNode other (List.mem_cons_of_mem _ hOther)
  refine ⟨by rw [Replica.query, condition_atPath], ?_, ?_, ?_⟩
  all_goals rw [split_spell hNode]
  · exact hNonempty
  · exact hFree
  · rw [spell_eq_of_collection hAbove, spell_cons]

private theorem getLast?_ne_slash (hText : IsCanonical text) : text.getLast? ≠ some '/' := by
  obtain ⟨name, above, hNode, rfl⟩ := hText
  obtain ⟨hNonempty, hFree⟩ := hNode name List.mem_cons_self
  intro hLast
  rw [spell_cons, List.append_cons, List.getLast?_append,
    List.getLast?_eq_some_getLast hNonempty, Option.some_or] at hLast
  exact hFree (Option.some.inj hLast ▸ List.getLast_mem hNonempty)

/-- The spelling of a node leads to the node. -/
private theorem walk_spelling (hLeads : Leads .root (segments path) node) (hBelow : node ≠ .root) :
    walk [] (segments node.spelling) = node.stack := by
  have hNames := names_of_leads hLeads
  rw [segments_spelling (fun name hName => (hNames name hName).2) hBelow]
  exact walk_names fun name hName => (hNames name hName).1

private theorem isCanonicalFor_of_normalize? (hLeads : Leads .root (segments path) node)
    (hText : normalize? path = .ok text) : IsCanonicalFor path node text := by
  have hCanonical := isCanonical_of_normalize? hText
  obtain ⟨hRooted, hBelow, rfl⟩ := (normalize?_eq_ok_iff hLeads).mp hText
  have hNames := names_of_leads hLeads
  have hFree : ∀ name ∈ node.names, '/' ∉ name := fun name hName => (hNames name hName).2
  have hWalk := walk_spelling hLeads hBelow
  have hSame : walk [] (segments path) = walk [] (segments node.spelling) := by
    rw [hWalk]
    exact walk_of_leads hLeads
  refine
    { segments_eq := segments_spelling hFree hBelow
      isName := fun name hName => (hNames name hName).1
      no_slash_last := getLast?_ne_slash hCanonical
      fixed := (normalize?_congr hRooted rfl hSame).symm.trans hText
      shared_iff := ?_
      replaces := ?_
      queried := queriedByParts_of_isCanonical hCanonical }
  · intro other otherNode otherText hOther hOtherText
    obtain ⟨-, hOtherBelow, rfl⟩ := (normalize?_eq_ok_iff hOther).mp hOtherText
    constructor
    · exact Node.spelling_injective (fun name hName => (names_of_leads hOther name hName).2) hFree
        hOtherBelow hBelow
    · rintro rfl
      rfl
  · intro more
    refine normalize?_congr ?_ rfl ?_
    · rw [List.head?_append, hRooted, Option.some_or]
    · rw [segments_append, segments_append, walk_append, walk_append, hSame]

/-- A typed path comes out if it starts at the root and leads to a node below it, and what comes
out is the canonical spelling of that node. -/
theorem normalize?_spells_node (path : List Char) :
    ∃ node : Node, Leads .root (segments path) node ∧
      (∀ other, Leads .root (segments path) other → other = node) ∧
      (∀ text, normalize? path = .ok text ↔
        path.head? = some '/' ∧ node ≠ .root ∧ text = node.spelling) ∧
      ∀ text, normalize? path = .ok text → IsCanonicalFor path node text := by
  obtain ⟨node, hLeads⟩ := exists_leads .root (segments path)
  exact ⟨node, hLeads, fun other hOther => leads_unique hOther hLeads,
    fun text => normalize?_eq_ok_iff hLeads,
    fun text hText => isCanonicalFor_of_normalize? hLeads hText⟩

/-- A path that climbs above the root and comes back. -/
theorem normalize?_of_climbing :
    normalize? "/a//../../c/./d/".toList = .ok "/c/d".toList ∧
      ∃ node, Leads .root (segments "/a//../../c/./d/".toList) node ∧
        IsCanonicalFor "/a//../../c/./d/".toList node "/c/d".toList := by
  obtain ⟨node, hLeads, -, -, hCanonical⟩ := normalize?_spells_node "/a//../../c/./d/".toList
  have hText : normalize? "/a//../../c/./d/".toList = .ok "/c/d".toList := rfl
  exact ⟨hText, node, hLeads, hCanonical _ hText⟩

end CanonicalFor

end LogicalPath

end GridAdmin
