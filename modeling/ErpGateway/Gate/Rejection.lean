import ErpGateway.Failure

namespace ErpGateway.Gate

inductive Rejection where
  | queryRequired
  | multipleStatements
  | comments
  | notReadOnly
  | parameterName
deriving DecidableEq, Repr

namespace Rejection

def message : Rejection → String
  | queryRequired => "Query is required"
  | multipleStatements => "Multiple SQL statements are not allowed"
  | comments => "SQL comments are not allowed"
  | notReadOnly => "Only read-only SELECT or WITH queries are allowed"
  | parameterName => "Parameter names must be plain identifiers"

def kind : Rejection → FailureKind
  | queryRequired => .queryRequired
  | multipleStatements => .multipleStatements
  | comments => .comments
  | notReadOnly => .notReadOnly
  | parameterName => .parameterName

def toFailure (r : Rejection) : Failure :=
  ⟨r.kind, some "validate_query", r.message, none⟩

theorem isValidation_kind (r : Rejection) : r.kind.isValidation = true := by
  cases r <;> rfl

end Rejection

end ErpGateway.Gate
