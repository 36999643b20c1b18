import ErpGateway.Failure
import ErpGateway.Json.Printer

/-!
Refusals: a status, a code and a message for the client. What a failure says is shown only where it was
written for callers.
-/
namespace ErpGateway.Http

structure Refusal where
  status : Nat
  code : String
  message : String
deriving DecidableEq, Repr

def statusOf : FailureKind → Nat
  | .queryRequired | .multipleStatements | .comments | .notReadOnly | .parameterName
  | .malformedJson | .invalidInput => 400
  | .unauthorised => 401
  | .notFound => 404
  | .rowLimit => 413
  | .timeout => 504
  | .unavailable => 503
  | .execution | .configuration | .storage | .internal => 500

def messageOf : FailureKind → String
  | .queryRequired => "Query is required"
  | .multipleStatements => "Multiple statements are not allowed"
  | .comments => "SQL comments are not allowed"
  | .notReadOnly => "Only SELECT queries are allowed"
  | .parameterName => "Invalid parameter name"
  | .malformedJson => "Invalid JSON body"
  | .invalidInput => "Invalid request"
  | .unauthorised => "Unauthorized"
  | .notFound => "Not found"
  | .rowLimit => "Row limit exceeded"
  | .timeout => "Query timeout"
  | .execution => "Query execution failed"
  | .unavailable => "Database connection unavailable"
  | .configuration | .storage | .internal => "Internal server error"

def showsMessage (kind : FailureKind) : Bool :=
  kind.isValidation || kind == .invalidInput

namespace Refusal

def ofKind (kind : FailureKind) : Refusal :=
  ⟨statusOf kind, kind.code, messageOf kind⟩

def ofFailure (f : Failure) : Refusal :=
  if showsMessage f.kind && !f.message.isEmpty then ⟨statusOf f.kind, f.kind.code, f.message⟩
  else ofKind f.kind

def ofPricing (f : Failure) : Refusal :=
  if f.kind = .execution then ⟨500, "PRICE_STOCK_FAILED", "Failed to load price and stock"⟩
  else ofFailure f

def databaseDown : Refusal :=
  ⟨503, FailureKind.unavailable.code, "Database connection failed"⟩

def body (r : Refusal) : String :=
  (Json.object [("error", .text r.message), ("code", .text r.code), ("details", .object [])]).print

end Refusal

end ErpGateway.Http
