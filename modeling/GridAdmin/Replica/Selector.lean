import GridAdmin.Attribute
import GridAdmin.Replica.Path
import GridAdmin.ShellError

/-!
# Selecting one replica

A command names a replica by two pairs of words: the data object by its
logical path or its catalog identifier, and the replica by its number or its
resource hierarchy. A query for the replica's attributes states both as
predicates, and its rows are shown under the names of the attributes.

## Main definitions

* `DataObject.resolve`, `Replica.resolve`: what a pair of words selects.
* `Replica.query`: the query for the attributes of a selected replica.
* `Replica.rowLines`: the lines that its rows are shown as.
-/

namespace GridAdmin

/-- The data object that the word `value` selects under the word `kind`. -/
def DataObject.resolve (kind value : String) : Except ShellError DataObject :=
  match kind with
  | "data_id" =>
      match Text.readInt64? value.toList with
      | some id => .ok (.withId id)
      | none => .error (.invalidArgument (.notANumber "data_id" value))
  | "logical_path" =>
      match LogicalPath.normalize? value.toList with
      | .ok path => .ok (.atPath (String.ofList path))
      | .error .notAbsolute => .error (.invalidArgument .relativePath)
      | .error .isRoot => .error (.invalidArgument .rootPath)
  | _ => .error (.invalidArgument .unknownObjectKind)

/-- The replica that the word `value` selects under the word `kind`. -/
def Replica.resolve (kind value : String) : Except ShellError Replica :=
  match kind with
  | "replica_number" =>
      match Text.readInt32? value.toList with
      | some number => .ok (.numbered number)
      | none => .error (.invalidArgument (.notANumber "replica_number" value))
  | "resource_hierarchy" => .ok (.inHierarchy value)
  | _ => .error (.invalidArgument .unknownReplicaKind)

/-- The condition that a column has this value. The value is put between
quotes as it is. -/
def columnIs (column value : String) : String :=
  column ++ " = '" ++ value ++ "'"

/-- The condition of a query that selects the data object. -/
def DataObject.condition : DataObject → String
  | .withId id => columnIs "DATA_ID" (String.ofList (Text.intText id.toInt))
  | .atPath path =>
      let (parent, name) := LogicalPath.split path.toList
      columnIs "COLL_NAME" (String.ofList parent) ++ " and "
        ++ columnIs "DATA_NAME" (String.ofList name)

/-- The condition of a query that selects the replica. -/
def Replica.condition : Replica → String
  | .numbered number => columnIs "DATA_REPL_NUM" (Status.codeText number)
  | .inHierarchy hierarchy => columnIs "DATA_RESC_HIER" hierarchy

/-- The query for every attribute of one replica. -/
def Replica.query (object : DataObject) (replica : Replica) : String :=
  "select " ++ ", ".intercalate Attribute.columns ++ " where " ++ object.condition
    ++ " and " ++ replica.condition

/-- One line for each value of each row, under the name of its column. -/
def Replica.rowLines (rows : List (List String)) : List String :=
  rows.flatMap fun row =>
    (Attribute.columns.zip row).map fun (column, value) => column ++ ": " ++ value

end GridAdmin
