import ErpGateway.Sql.Scalar
import ErpGateway.Failure

/-!
Gathering the rows of several result sets under one cap. The row that would exceed the cap is
refused, so the reader can stop there.
-/
namespace ErpGateway.Sql

/-- Rows gathered so far; tables and their rows are held newest first. -/
structure Harvest where
  cap : Option Nat
  total : Nat := 0
  newest : List (List Row) := []

namespace Harvest

def empty (cap : Option Nat) : Harvest where
  cap := cap

def rowLimitFailure (cap : Nat) : Failure where
  kind := .rowLimit
  op := some "collect_rows"
  message := "Result exceeds the " ++ toString cap ++ " row limit"

def startTable (h : Harvest) : Harvest :=
  { h with newest := [] :: h.newest }

def addRow (h : Harvest) (row : Row) : Harvest where
  cap := h.cap
  total := h.total + 1
  newest := match h.newest with
    | [] => [[row]]
    | table :: older => (row :: table) :: older

def pushRow (h : Harvest) (row : Row) : Except Failure Harvest :=
  match h.cap with
  | some cap => if cap ≤ h.total then .error (rowLimitFailure cap) else .ok (h.addRow row)
  | none => .ok (h.addRow row)

def tables (h : Harvest) : List Table :=
  (h.newest.map List.reverse).reverse

def pushRows (h : Harvest) : Table → Except Failure Harvest
  | [] => .ok h
  | row :: rest => (h.pushRow row).bind fun h' => h'.pushRows rest

def pushTables (h : Harvest) : List Table → Except Failure Harvest
  | [] => .ok h
  | table :: rest => (h.startTable.pushRows table).bind fun h' => h'.pushTables rest

end Harvest

end ErpGateway.Sql
