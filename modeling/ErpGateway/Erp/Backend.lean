import ErpGateway.Failure
import ErpGateway.Text.Ascii
import ErpGateway.Text.Blank

namespace ErpGateway.Erp

inductive Backend where
  | hasavshevet | sap
deriving DecidableEq, Repr

namespace Backend

def name : Backend → String
  | hasavshevet => "hasavshevet"
  | sap => "sap"

def ofName? (s : String) : Option Backend :=
  [hasavshevet, sap].find? fun b => b.name == s

def ofText (s : String) : Except Failure Backend :=
  let name := Text.lowered (Text.trimmed s)
  match ofName? name with
  | some backend => .ok backend
  | none =>
    .error ⟨.configuration, some "parse_backend", "Unsupported erp '" ++ name ++ "'", none⟩

end Backend

structure Settings where
  defaultWarehouses : List String := ["10"]
  lastPriceList : Int := 99
  invoiceDocument : Int := 1
  orderDocument : Int := 11
  excludedOrderPrefix : String := "90"
deriving DecidableEq, Repr

end ErpGateway.Erp
