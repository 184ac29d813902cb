import GridAdmin.Text.Decimal

/-!
# Status codes

Every remote call answers with one signed 32-bit status. Zero and positive
values mean success. A negative status packs a base error and a sub-code,
usually the number of an operating system error, as `base - subCode` with
`0 ≤ subCode < 1000`; bases are multiples of 1000.

The table of known codes is data, and the symbolic name of a status is looked
up by its base, so that a sub-code never hides the name. The exit code of a
session looks at the base alone for the same reason.

## Main definitions

* `Status.base`, `Status.subCode`: the two halves of a failure.
* `Status.name?`, `Status.text`: the symbolic name and the printed form.
* `Status.exitCode`: what a session that ended with this status exits with.
-/

namespace GridAdmin

/-- What a remote call answered. -/
structure Status where
  code : Int32
  deriving DecidableEq, Repr

namespace Status

/-! ## Known codes -/

/-- The call completed. -/
def success : Status := ⟨0⟩
/-- No status could be obtained. -/
def unknownError : Status := ⟨-1⟩
/-- Arguments were rejected before anything was sent. -/
def invalidInput : Status := ⟨-130000⟩
/-- The server refused the operation outright. -/
def notAllowed : Status := ⟨-169000⟩
/-- The server could not be reached. -/
def connectError : Status := ⟨-305000⟩
/-- A user name is not of the form `name[#zone]`. -/
def invalidUserName : Status := ⟨-344000⟩
/-- The caller may not use this call at all. -/
def noApiPrivilege : Status := ⟨-350000⟩
/-- The catalog query matched nothing. -/
def noRowsFound : Status := ⟨-808000⟩
/-- The statement ran but changed no rows. -/
def successWithoutInfo : Status := ⟨-816000⟩
/-- The user type is unknown. -/
def invalidUserType : Status := ⟨-818000⟩
/-- The credentials were rejected. -/
def invalidAuthentication : Status := ⟨-826000⟩
/-- The caller's user type is too weak for the operation. -/
def insufficientPrivilege : Status := ⟨-830000⟩

/-- Symbolic names of the known codes. -/
def names : List (Status × String) :=
  [ (success, "SUCCESS"),
    (unknownError, "SYS_UNKNOWN_ERROR"),
    (invalidInput, "SYS_INVALID_INPUT_PARAM"),
    (notAllowed, "SYS_NOT_ALLOWED"),
    (connectError, "USER_SOCK_CONNECT_ERR"),
    (invalidUserName, "USER_INVALID_USERNAME_FORMAT"),
    (noApiPrivilege, "SYS_NO_API_PRIV"),
    (noRowsFound, "CAT_NO_ROWS_FOUND"),
    (successWithoutInfo, "CAT_SUCCESS_BUT_WITH_NO_INFO"),
    (invalidUserType, "CAT_INVALID_USER_TYPE"),
    (invalidAuthentication, "CAT_INVALID_AUTHENTICATION"),
    (insufficientPrivilege, "CAT_INSUFFICIENT_PRIVILEGE_LEVEL") ]

/-! ## Parts of a status -/

/-- Zero and positive codes mean success. -/
def isSuccess (s : Status) : Bool := decide (0 ≤ s.code)

/-- Negative codes mean failure. -/
def isFailure (s : Status) : Bool := decide (s.code < 0)

/-- The base error with the sub-code stripped; a success is its own base. -/
def base (s : Status) : Status :=
  if 0 ≤ s.code then s else ⟨s.code / 1000 * 1000⟩

/-- The sub-code of a failure; zero for a success. -/
def subCode (s : Status) : Int32 :=
  if 0 ≤ s.code then 0 else -(s.code % 1000)

/-- Symbolic name of the base error, if it is a known code. -/
def name? (s : Status) : Option String :=
  (names.find? fun entry => decide (entry.1 = s.base)).map (·.2)

/-- Symbolic name, with a placeholder for unknown codes. -/
def name (s : Status) : String :=
  s.name?.getD "UNKNOWN_STATUS"

/-- The caller was refused for lack of privilege, whatever the sub-code says. -/
def isPrivilegeDenial (s : Status) : Bool :=
  decide (s.base = noApiPrivilege ∨ s.base = insufficientPrivilege)

/-! ## Printed forms -/

/-- Decimal text of a 32-bit number. -/
def codeText (code : Int32) : String :=
  String.ofList (Text.intText code.toInt)

/-- Code and name, with the sub-code behind them unless it is zero. -/
def text (s : Status) : String :=
  codeText s.code ++ " " ++ s.name ++
    if s.subCode = 0 then "" else " (sub-code " ++ codeText s.subCode ++ ")"

/-- What a session that ran commands exits with. -/
def exitCode (s : Status) : Nat :=
  if s.isPrivilegeDenial then 1 else if s.isFailure then 4 else 0

theorem isSuccess_eq_not_isFailure (s : Status) : s.isSuccess = !s.isFailure := by
  have hOrder : 0 ≤ s.code ↔ ¬s.code < 0 := by
    rw [Int32.le_iff_toInt_le, Int32.lt_iff_toInt_lt]
    omega
  rw [isSuccess, isFailure, decide_eq_decide.mpr hOrder, decide_not]

theorem subCode_of_isSuccess {s : Status} (hSuccess : s.isSuccess = true) :
    s.subCode = 0 := by
  simp only [isSuccess, decide_eq_true_eq] at hSuccess
  simp [subCode, hSuccess]

theorem base_of_isSuccess {s : Status} (hSuccess : s.isSuccess = true) : s.base = s := by
  simp only [isSuccess, decide_eq_true_eq] at hSuccess
  simp [base, hSuccess]

end Status

end GridAdmin
