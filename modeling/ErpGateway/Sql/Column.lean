import ErpGateway.Sql.Scalar
import ErpGateway.Json.Printer
import ErpGateway.Text.Blank
import ErpGateway.Text.Ascii
import ErpGateway.Decimal.Signed

namespace ErpGateway.Sql.Row

open Decimal

/-- The column of exactly this name, else the first whose name differs in the case of ASCII letters
at most. -/
def column? (row : Row) (name : String) : Option Json :=
  match row.get? name with
  | some v => some v
  | none => (row.find? fun e => Text.sameLetters e.1 name).map Prod.snd

def textOf : Json → Option String
  | .null => none
  | .text s => let t := Text.trimmed s; if t.isEmpty then none else some t
  | v => some v.print

def floatOf : Json → Option Float
  | .number n => some n.toFloat
  | .text s => float? (Text.trim s.toList)
  | .bool b => some (if b then 1.0 else 0.0)
  | _ => none

def signedOf : Json → Option Signed
  | .text s => Signed.ofChars? (Text.trim s.toList)
  | v => (floatOf v).map Signed.ofFloat

def wholeBelow (x : Float) : Option Int :=
  (whole? x).filter fun n => n.natAbs < twoTo 63

def intOf : Json → Option Int
  | .number n =>
    match n.int64? with
    | some i => some i
    | none => wholeBelow n.toFloat
  | .text s => int64? (Text.trim s.toList)
  | .bool b => some (if b then 1 else 0)
  | _ => none

def flagOf : Json → Bool
  | .bool b => b
  | .number n => n.toFloat != 0.0
  | .text s =>
    let t := Text.uppered (Text.trimmed s)
    t == "Y" || t == "1" || t == "TRUE"
  | _ => false

def text? (row : Row) (name : String) : Option String :=
  (column? row name).bind textOf

def float? (row : Row) (name : String) : Option Float :=
  (column? row name).bind floatOf

def signed? (row : Row) (name : String) : Option Signed :=
  (column? row name).bind signedOf

def int? (row : Row) (name : String) : Option Int :=
  (column? row name).bind intOf

def flag (row : Row) (name : String) : Bool :=
  (column? row name).any flagOf

end ErpGateway.Sql.Row
