import ErpGateway.Failure
import ErpGateway.Text.Blank

namespace ErpGateway.Sql

structure ConnectionParams where
  host : String
  port : Nat := 1433
  user : String := ""
  database : String := ""
  instanceName : Option String := none
  trustCertificate : Bool := true
  maxOpen : Nat := 10
  maxLifetimeSeconds : Nat := 1800
  connectTimeoutSeconds : Nat := 5
  applicationName : String := "erpgw"
deriving DecidableEq, Repr

namespace ConnectionParams

def dialledHost (p : ConnectionParams) : String :=
  if p.host = "." then "localhost" else p.host

def address (p : ConnectionParams) : String :=
  p.dialledHost ++ ":" ++ toString p.port

def hostAndPort (p : ConnectionParams) : String :=
  p.host ++ ":" ++ toString p.port

def displayTarget (p : ConnectionParams) : String :=
  match p.instanceName with
  | some name => if Text.allBlank name then p.hostAndPort else p.host ++ "\\" ++ name
  | none => p.hostAndPort

end ConnectionParams

def unavailableFailure (op detail : String) : Failure :=
  ⟨.unavailable, some op, "Database unavailable", some detail⟩

def executionFailure (op detail : String) : Failure :=
  ⟨.execution, some op, "Database query failed", some detail⟩

structure Pool where
  slots : Nat
  closed : Bool := false
deriving DecidableEq, Repr

namespace Pool

def ofParams (p : ConnectionParams) : Pool where
  slots := max p.maxOpen 1

def close (_ : Pool) : Pool := ⟨0, true⟩

def acquireFailure? (p : Pool) : Option Failure :=
  if p.closed then some (unavailableFailure "acquire_connection" "Pool has been closed") else none

end Pool

end ErpGateway.Sql
