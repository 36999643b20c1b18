import ErpGateway.Dialogue
import ErpGateway.Gate.Admission

namespace ErpGateway.Service

open Sql

structure QueryLimits where
  maxRows : Nat := 10000
  /-- The deadline in milliseconds. -/
  timeout : Nat := 8000
deriving DecidableEq, Repr

namespace AdHoc

def op : String := "adhoc_query"

def component : String := "erpgw_engine::commands::adhoc_query"

def statementOf (limits : QueryLimits) (admission : Gate.Admission) : Statement :=
  (({ text := admission.text } : Statement).bindAll admission.bindings).limited limits.maxRows

def dialogue (limits : QueryLimits) (query : Gate.Query) : Dialogue (List Table) :=
  match Gate.admission query with
  | .error rejection => .fail rejection.toFailure
  | .ok admission => .tables (statementOf limits admission)

def rowsOf (tables : List Table) : Table :=
  tables.headD []

def lastEvent : Except Failure (List Table) → Event
  | .ok tables => .ended component op [("result_sets", toString tables.length),
      ("row_count", toString (rowsOf tables).length)]
  | .error failure => .failed component op failure

def run (db : Database) (limits : QueryLimits) (query : Gate.Query) : Transcript (List Table) :=
  ((dialogue limits query).run db op limits.timeout).framed
    (.started component op [("param_count", toString query.parameters.length)]) lastEvent

end AdHoc

end ErpGateway.Service
