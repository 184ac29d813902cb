import GridAdmin.Proofs.Shell.Downgrade
import GridAdmin.Proofs.Shell.ReplicaListing
import GridAdmin.Proofs.Shell.RodsadminCheck

/-!
# What the two checks ask

Two commands are for a `rodsadmin` only, and a third must not make anybody cease to be one.
Both checks ask the catalog a query and look at the answer by position: at the first value of
the first row, or at the first two values of each row.

A catalog knows the text of a query and nothing else.  Here the texts of both queries are
spelled out, with their columns, their conditions and no hint at a zone.  From the text alone
it follows what stands at the positions that the checks look at.

## Main definitions

* `selectText`: the text of a query for some columns, under conditions on others.
* `valueIn`: the value of a column in a row that answers a query.

## Main results

* `userTypeCall_eq`, `rodsadminCall_eq`: the two queries.
* `valueIn_userTypeQuery`, `valueIn_rodsadminQuery`: what stands at which position.
* `admits_iff_valueIn`: the check for a `rodsadmin` looks at the type of the user.
* `clearingReply_iff_valueIn`: the check of a change of type looks at names and zones.
-/

namespace GridAdmin

/-! ## Texts of queries -/

/-- The text of a query for these columns, where each of the other columns has the value next to
it.  Values stand between quotes as they are. -/
def selectText (columns : List String) (conditions : List (String × String)) : String :=
  "select " ++ ", ".intercalate columns ++ " where " ++
    " and ".intercalate (conditions.map fun (column, value) => column ++ " = '" ++ value ++ "'")

/-- The value of a column in a row that answers a query.  Values come in the order of the columns
that the query asks for. -/
def valueIn (query column : String) (row : List String) : Option String :=
  ((selectList query).idxOf? column).bind fun index => row[index]?

theorem userTypeQuery_eq (user : UserIdentity) :
    Action.userTypeQuery user
      = selectText ["USER_TYPE"] [("USER_NAME", user.name), ("USER_ZONE", user.zone)] := by
  have hHead : "select " ++ "USER_TYPE" ++ " where " = "select USER_TYPE where " := by decide
  have hText : selectText ["USER_TYPE"] [("USER_NAME", user.name), ("USER_ZONE", user.zone)]
      = "select " ++ "USER_TYPE" ++ " where "
        ++ (columnIs "USER_NAME" user.name ++ " and " ++ columnIs "USER_ZONE" user.zone) := rfl
  rw [hText, hHead, ← String.append_assoc, ← String.append_assoc]
  rfl

/-- The query for the type of a user: everything but the user is fixed. -/
theorem userTypeCall_eq (user : UserIdentity) :
    userTypeCall user
      = .generalQuery
          (selectText ["USER_TYPE"] [("USER_NAME", user.name), ("USER_ZONE", user.zone)]) none :=
  congrArg (Call.generalQuery · none) (userTypeQuery_eq user)

theorem rodsadminQuery_eq :
    Action.rodsadminQuery
      = selectText ["USER_NAME", "USER_ZONE"] [("USER_TYPE", "rodsadmin")] := by
  rfl

/-- The query for everybody of type `rodsadmin`, of all zones. -/
theorem rodsadminCall_eq :
    rodsadminCall
      = .generalQuery (selectText ["USER_NAME", "USER_ZONE"] [("USER_TYPE", "rodsadmin")]) none :=
  congrArg (Call.generalQuery · none) rodsadminQuery_eq

/-! ## Positions of columns -/

section Columns

variable {user : UserIdentity} {row : List String}

/-- The columns that the queries ask for can stand in a list of columns. -/
private theorem isColumnName_of_asked :
    ∀ column ∈ ["USER_TYPE", "USER_NAME", "USER_ZONE"], IsColumnName column := by
  have hAsked : ∀ column ∈ ["USER_TYPE", "USER_NAME", "USER_ZONE"],
      ' ' ∉ column.toList ∧ ',' ∉ column.toList ∧ column ≠ "where" := by
    decide +kernel
  intro column hMem
  obtain ⟨hWord, hComma, hLast⟩ := hAsked column hMem
  exact ⟨hWord, hComma, hLast⟩

/-- Whatever the conditions are, a query asks for the columns that it lists. -/
theorem selectList_selectText {columns : List String} (conditions : List (String × String))
    (hAsked : columns ⊆ ["USER_TYPE", "USER_NAME", "USER_ZONE"]) (hSome : columns ≠ []) :
    selectList (selectText columns conditions) = columns :=
  selectList_select (fun column hMem => isColumnName_of_asked column (hAsked hMem)) hSome _

/-- The type of a user is the first value of a row. -/
theorem valueIn_userTypeQuery :
    valueIn (Action.userTypeQuery user) "USER_TYPE" row = row[0]? := by
  rw [valueIn, userTypeQuery_eq, selectList_selectText _ (by decide) (by decide)]
  rfl

/-- The name is the first value and the zone is the second one. -/
theorem valueIn_rodsadminQuery :
    valueIn Action.rodsadminQuery "USER_NAME" row = row[0]? ∧
      valueIn Action.rodsadminQuery "USER_ZONE" row = row[1]? := by
  rw [valueIn, valueIn, rodsadminQuery_eq, selectList_selectText _ (by decide) (by decide)]
  exact ⟨rfl, rfl⟩

end Columns

/-! ## What is looked at -/

/-- An answer admits exactly if it is one and its first row has the type `rodsadmin`. -/
theorem admits_iff_valueIn {user : UserIdentity} {result : Except ClientError GeneralReply} :
    Admits result ↔ ∃ reply row, result = .ok reply ∧ reply.IsAnswer ∧ reply.rows[0]? = some row ∧
      valueIn (Action.userTypeQuery user) "USER_TYPE" row = some "rodsadmin" := by
  constructor
  · rintro ⟨reply, hResult, hAnswer, row, hRow, hType⟩
    exact ⟨reply, row, hResult, hAnswer, hRow, valueIn_userTypeQuery.trans hType⟩
  · rintro ⟨reply, row, hResult, hAnswer, hRow, hType⟩
    exact ⟨reply, hResult, hAnswer, row, hRow, valueIn_userTypeQuery.symm.trans hType⟩

/-- A reply clears a user exactly if there are no rows, or it is no failure and no row has the
user's name together with the user's zone. -/
theorem clearingReply_iff_valueIn {name zone : String} {reply : GeneralReply} :
    ClearingReply name zone reply ↔ reply.status = .noRowsFound ∨
      reply.status.isFailure = false ∧ ∀ row ∈ reply.rows,
        ¬(valueIn Action.rodsadminQuery "USER_NAME" row = some name ∧
          valueIn Action.rodsadminQuery "USER_ZONE" row = some zone) := by
  simp only [ClearingReply, Lists, valueIn_rodsadminQuery]

end GridAdmin
