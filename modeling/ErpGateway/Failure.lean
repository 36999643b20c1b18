/-!
Failures of the gateway: a kind with a stable code, the operation, a message for the caller, and a
detail that is only ever logged.
-/
namespace ErpGateway

inductive FailureKind where
  | queryRequired
  | multipleStatements
  | comments
  | notReadOnly
  | parameterName
  | malformedJson
  | invalidInput
  | notFound
  | unauthorised
  | rowLimit
  | timeout
  | execution
  | unavailable
  | configuration
  | storage
  | internal
deriving DecidableEq, Repr

namespace FailureKind

def code : FailureKind → String
  | queryRequired => "SQL_QUERY_REQUIRED"
  | multipleStatements => "SQL_MULTI_STATEMENT"
  | comments => "SQL_COMMENTS_NOT_ALLOWED"
  | notReadOnly => "SQL_NOT_READ_ONLY"
  | parameterName => "SQL_INVALID_PARAMETER"
  | malformedJson => "INVALID_JSON"
  | invalidInput => "INVALID_INPUT"
  | notFound => "NOT_FOUND"
  | unauthorised => "UNAUTHORIZED"
  | rowLimit => "SQL_ROW_LIMIT"
  | timeout => "SQL_TIMEOUT"
  | execution => "DB_ERROR"
  | unavailable => "DB_UNAVAILABLE"
  | configuration => "CONFIG_INVALID"
  | storage => "IO_ERROR"
  | internal => "INTERNAL"

def name : FailureKind → String
  | queryRequired => "QueryRequired"
  | multipleStatements => "MultiStatement"
  | comments => "CommentsNotAllowed"
  | notReadOnly => "NotReadOnly"
  | parameterName => "InvalidParameterName"
  | malformedJson => "InvalidJson"
  | invalidInput => "InvalidInput"
  | notFound => "NotFound"
  | unauthorised => "Unauthorised"
  | rowLimit => "RowLimitExceeded"
  | timeout => "ExecutionTimeout"
  | execution => "Execution"
  | unavailable => "ResourceUnavailable"
  | configuration => "Config"
  | storage => "Io"
  | internal => "Internal"

def all : List FailureKind :=
  [queryRequired, multipleStatements, comments, notReadOnly, parameterName, malformedJson,
    invalidInput, notFound, unauthorised, rowLimit, timeout, execution, unavailable,
    configuration, storage, internal]

def ofName? (s : String) : Option FailureKind :=
  all.find? fun k => k.name == s

def isValidation : FailureKind → Bool
  | queryRequired | multipleStatements | comments | notReadOnly | parameterName => true
  | _ => false

theorem ofName?_name (k : FailureKind) : ofName? k.name = some k := by
  cases k <;> decide

theorem code_injective {a b : FailureKind} (h : a.code = b.code) : a = b := by
  cases a <;> cases b <;> first | rfl | exact absurd h (by decide)

end FailureKind

structure Failure where
  kind : FailureKind
  op : Option String := none
  message : String := ""
  detail : Option String := none
deriving DecidableEq, Repr

def Failure.describe (f : Failure) : String :=
  let op := match f.op with
    | some op => " in operation '" ++ op ++ "'"
    | none => ""
  let message := if f.message.isEmpty then "" else ": " ++ f.message
  let detail := match f.detail with
    | some detail => " (" ++ detail ++ ")"
    | none => ""
  "[" ++ f.kind.code ++ "]" ++ op ++ message ++ detail

end ErpGateway
