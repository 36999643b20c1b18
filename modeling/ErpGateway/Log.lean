import ErpGateway.Failure
import ErpGateway.Text.Blank
import ErpGateway.Text.Ascii

namespace ErpGateway

inductive Level where
  | debug | info | warn | error
deriving DecidableEq, Repr

def Level.name : Level → String
  | debug => "DEBUG"
  | info => "INFO"
  | warn => "WARN"
  | error => "ERROR"

structure Event where
  level : Level
  fields : List (String × String)
deriving DecidableEq, Repr

namespace Event

def started (component op : String) (fields : List (String × String)) : Event :=
  ⟨.info, [("component", component), ("op", op), ("event", "start")] ++ fields⟩

def ended (component op : String) (fields : List (String × String)) : Event :=
  ⟨.info, [("component", component), ("op", op), ("event", "end")] ++ fields⟩

def failed (component op : String) (failure : Failure) : Event :=
  let fields := [("component", component), ("op", op), ("event", "end_error"),
    ("err.kind", failure.kind.name), ("err.code", failure.kind.code)]
  if failure.kind.isValidation then ⟨.warn, fields⟩
  else ⟨.error, fields ++ [("err.detail", failure.detail.getD "")]⟩

def levelOfStatus (status : Nat) : Level :=
  if 500 ≤ status then .error else if 400 ≤ status then .warn else .info

def access (method path : String) (status : Nat) (requestId : String) : Event :=
  ⟨levelOfStatus status, [("event", "access"), ("method", method), ("path", path),
    ("status", toString status), ("request_id", requestId)]⟩

end Event

namespace Log

inductive Profile where
  | development | production | test
deriving DecidableEq, Repr

namespace Profile

def name : Profile → String
  | development => "Development"
  | production => "Production"
  | test => "Test"

def ofText (s : String) : Except String Profile :=
  match Text.lowered (Text.trimmed s) with
  | "development" | "dev" => .ok development
  | "production" | "prod" => .ok production
  | "test" => .ok test
  | other => .error ("unknown logging profile '" ++ other ++ "'")

end Profile

def requestIdLimit : Nat := 128

def isIdCharacter (c : Char) : Bool :=
  c.isAlphanum || c == '-' || c == '_' || c == '.'

def requestId? (raw : String) : Option String :=
  let id := Text.trimmed raw
  if !id.isEmpty && id.utf8ByteSize ≤ requestIdLimit && id.toList.all isIdCharacter then some id
  else none

def redacted : String := "***REDACTED***"

end Log

end ErpGateway
