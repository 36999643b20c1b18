import ErpGateway.Gate.Admission
import ErpGateway.Json.Record
import ErpGateway.Pricing.Request

namespace ErpGateway.Http

open Text (Octets)

def malformedBody : Failure :=
  ⟨.malformedJson, none, "Invalid JSON body", none⟩

def recordOf? (names : Json.MemberNames) (body : Octets) : Option Json.Record :=
  (Json.Document.read body).bind (Json.Record.ofDocument? names)

structure QueryBody where
  query : String := ""
  params : Option Json.Members := none

namespace QueryBody

def params? : Json.Document → Option (Option Json.Members)
  | .null => some none
  | .object members => (Json.Document.membersAt? 1 members).map some
  | _ => none

def ofRecord? (r : Json.Record) : Option QueryBody := do
  let query ← r.optional "query" "" Json.Document.text?
  let params ← r.optional "params" none params?
  return ⟨query, params⟩

def ofOctets (body : Octets) : Except Failure QueryBody :=
  match (recordOf? [["query"], ["params"]] body).bind ofRecord? with
  | some b => .ok b
  | none => .error malformedBody

def toQuery (b : QueryBody) : Gate.Query :=
  ⟨b.query, b.params.getD []⟩

end QueryBody

structure PriceBody where
  skus : List String := []
  priceList : List String := []
  warehouses : List String := []
  account : String := ""
  date : Option String := none
deriving DecidableEq, Repr

namespace PriceBody

def ofRecord? (r : Json.Record) : Option PriceBody := do
  let skus ← r.optional "skuList" [] Json.Document.texts?
  let priceList ← r.optional "priceList" [] Json.Document.texts?
  let warehouses ← r.optional "warehouses" [] Json.Document.texts?
  let account ← r.optional "userExtId" "" Json.Document.text?
  let date ← r.optional "date" none (Json.Document.nullable? Json.Document.text?)
  return ⟨skus, priceList, warehouses, account, date⟩

def memberNames : Json.MemberNames :=
  [["skuList"], ["priceList"], ["warehouses"], ["userExtId"], ["date"]]

def ofOctets (body : Octets) : Except Failure PriceBody :=
  match (recordOf? memberNames body).bind ofRecord? with
  | some b => .ok b
  | none => .error malformedBody

def dateFailure : Failure :=
  ⟨.invalidInput, some "price_stock", "date must be YYYY-MM-DD", none⟩

def asOf (date : Option String) : Except Failure (Option Calendar.Date) :=
  match Text.trim (date.getD "").toList with
  | [] => .ok none
  | text =>
    match Calendar.Date.ofText? text with
    | some d => .ok (some d)
    | none => .error dateFailure

def toRequest (b : PriceBody) : Except Failure Pricing.Request := do
  let day ← asOf b.date
  return ⟨b.skus, b.priceList, b.warehouses, b.account, day⟩

end PriceBody

def queryOf (body : Octets) : Except Failure Gate.Query :=
  (QueryBody.ofOctets body).map QueryBody.toQuery

def questionOf (body : Octets) : Except Failure Pricing.Request :=
  (PriceBody.ofOctets body).bind PriceBody.toRequest

end ErpGateway.Http
