import ErpGateway.Dialogue
import ErpGateway.Erp.Backend
import ErpGateway.Erp.Sap.Snapshot
import ErpGateway.Erp.Sap.Statements
import ErpGateway.Pricing.Item
import ErpGateway.Pricing.Request

namespace ErpGateway.Erp.Sap

open Sql Pricing

def unknownCustomer (customer : String) : Event :=
  ⟨.warn, [("component", "erpgw_engine::resolvers::rule_engine"), ("card_code", customer),
    ("message", "Unknown customer; items carry stock only")]⟩

def customerRequired : Failure :=
  ⟨.invalidInput, some "price_stock", "userExtId is required", none⟩

def termsOf (s : Snapshot) (sku : String) (base : Float) : Terms where
  base := base
  special := s.specialOf? sku
  rules := s.rulesOf sku
  promotion := s.promotionOf? sku

def putQuote (s : Snapshot) (customer : String) (base : Float) (currency : Option String)
    (item : Item) : Item :=
  let terms := termsOf s item.sku base
  let quote := terms.quote s.customer.mode
  item
    |>.putPrice "priceListPrice" (some quote.base)
    |>.putPrice "specialPrice" ((terms.special.bind SpecialTerms.price).map toFourPlaces)
    |>.putPrice "specialDiscount" ((terms.special.bind SpecialTerms.percent).map toFourPlaces)
    |>.putPrice "groupDiscount" quote.groupPercent
    |>.putPrice "promoDiscount" (terms.promotion.map toFourPlaces)
    |>.putPrice "finalPrice" (some quote.final)
    |>.putDetail "cardCode" (.text customer)
    |>.putDetail "priceList" (Json.ofOption .int s.customer.priceList)
    |>.putDetail "currency" (Json.ofOption .text currency)
    |>.putDetail "priceSource" (.text quote.source.label)
    |>.putDetail "discountMode" (.text s.customer.mode.label)
    |>.putDetail "oedgType" (Json.ofOption .text quote.ruleType)
    |>.putSome "ruleObject" (quote.ruleObject.map fun object => .text object.label)

def withPrice (s : Snapshot) (customer : String) (item : Item) : Item :=
  match s.basePriceOf? item.sku with
  | some ⟨_, some base, currency⟩ => item |> putQuote s customer base currency
  | _ => item

def byWarehouse (stock : Keyed String ComponentStock) (value : ComponentStock → Json) : Json :=
  .object (stock.map fun e => (e.1, value e.2))

def limitedBy (sku : String) (stock : Keyed String ComponentStock) : Keyed String ComponentStock :=
  stock.filter fun e => e.2.item != sku

def withStock (stock : Keyed String ComponentStock) (item : Item) : Item :=
  let stock := stock.sorted
  let limited := limitedBy item.sku stock
  let onHand := stock.filterMap fun e => e.2.figures.onHand.map fun x => (e.1, x.value)
  let item := { item with stock := onHand }
  let item := if stock.isEmpty then item
    else
      item
        |>.putDetail "onOrder" (byWarehouse stock fun c => Json.ofOption .float c.figures.onOrder)
        |>.putDetail "committed"
          (byWarehouse stock fun c => Json.ofOption .float c.figures.committed)
  if limited.isEmpty then item
  else item.putDetail "limitingComponent" (byWarehouse limited fun c => .text c.item)

def itemOf (s : Snapshot) (customer : String) (stock : Keyed String (Keyed String ComponentStock))
    (sku : String) : Item :=
  let item := withPrice s customer { sku := sku }
  match stock.get? sku with
  | some perWarehouse => withStock perWarehouse item
  | none => item

def answer (settings : Settings) (today : Calendar.Date) (request : Request) :
    Dialogue (List Item) := do
  let skus := request.skusAscending
  let customer := request.account
  if skus.isEmpty then return []
  else if customer.isEmpty then .fail customerRequired
  else
    let warehouses := request.warehousesOr settings.defaultWarehouses
    let snapshot := Snapshot.ofTables
      (← Dialogue.tables (batch customer (request.asOfText today) skus warehouses))
    if !snapshot.customer.found then Dialogue.noted (unknownCustomer customer)
    let stock := rollUp (snapshot.candidates skus) warehouses
    return skus.map (itemOf snapshot customer stock)

end ErpGateway.Erp.Sap
