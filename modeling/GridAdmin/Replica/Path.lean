import GridAdmin.Text.Basic

/-!
# Logical paths

The catalog names collections and data objects by absolute paths. A path that
a user types is walked from the root, segment by segment: empty segments and
`.` stay, `..` goes up and stays at the root, and any other segment goes down.
The node that the walk ends at has one canonical spelling.

## Main definitions

* `LogicalPath.walk`: the node that a list of segments leads to from a node.
* `LogicalPath.normalize?`: the canonical spelling of a typed path.
* `LogicalPath.split`: parent collection and last name of a canonical path.
-/

namespace GridAdmin.LogicalPath

/-- The segments of a path: what stands between slashes. -/
def segments (path : List Char) : List (List Char) :=
  path.splitOn '/'

/-- Where one segment leads from a node. A node is the list of names on the
way down to it, the deepest name first. -/
def step (node : List (List Char)) (segment : List Char) : List (List Char) :=
  if segment = [] ∨ segment = ['.'] then node
  else if segment = ['.', '.'] then node.tail
  else segment :: node

/-- Where a list of segments leads from a node. -/
def walk (node : List (List Char)) (path : List (List Char)) : List (List Char) :=
  path.foldl step node

/-- The canonical spelling of a node below the root. -/
def spell (node : List (List Char)) : List Char :=
  node.reverse.flatMap ('/' :: ·)

/-- Why a typed path names no object. -/
inductive Fault where
  | notAbsolute
  | isRoot
  deriving DecidableEq, Repr

/-- The canonical spelling of a typed path that names an object. -/
def normalize? (path : List Char) : Except Fault (List Char) :=
  if path.head? = some '/' then
    match walk [] (segments path) with
    | [] => .error .isRoot
    | node => .ok (spell node)
  else .error .notAbsolute

/-- Cut at the last slash: what stands before it and what stands behind it. A
name directly below the root has the parent `/`, and so has a text without
any slash. -/
def split (path : List Char) : List Char × List Char :=
  match Text.cutAt '/' path.reverse with
  | none => (['/'], path)
  | some (name, []) => (['/'], name.reverse)
  | some (name, parent) => (parent.reverse, name.reverse)

theorem walk_append (node : List (List Char)) (first second : List (List Char)) :
    walk node (first ++ second) = walk (walk node first) second := by
  simp [walk]

end GridAdmin.LogicalPath
