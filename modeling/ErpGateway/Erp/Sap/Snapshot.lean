import ErpGateway.Pricing.Kit
import ErpGateway.Pricing.Quote
import ErpGateway.Sql.Column

namespace ErpGateway.Erp.Sap

open Sql Pricing

structure Customer where
  found : Bool := false
  priceList : Option Int := none
  mode : Aggregation := .highest
deriving DecidableEq

structure BasePrice where
  item : String
  price : Option Float
  currency : Option String
deriving DecidableEq

structure BillLine where
  parent : String
  component : Option String
deriving DecidableEq

structure StockRow where
  item : String
  warehouse : Option String
  figures : Figures
deriving DecidableEq

structure Snapshot where
  customer : Customer
  basePrices : List BasePrice
  specials : List (String × SpecialTerms)
  rules : List (String × GroupRule)
  promotions : List (String × Float)
  bills : List BillLine
  stock : List StockRow

def customerOf (rows : Table) : Customer :=
  match rows with
  | [] => {}
  | r :: _ =>
    { found := (Row.int? r "Found").any fun n => 0 < n
      priceList := Row.int? r "ListNum"
      mode := Aggregation.ofCode (Row.text? r "DiscRel") }

def basePrice? (r : Row) : Option BasePrice := do
  let item ← r.text? "ItemCode"
  return ⟨item, r.float? "PriceListPrice", r.text? "Currency"⟩

def special? (r : Row) : Option (String × SpecialTerms) := do
  let item ← r.text? "ItemCode"
  return (item, ⟨r.float? "Price", r.float? "Discount"⟩)

def rule? (r : Row) : Option (String × GroupRule) := do
  let item ← r.text? "ItemCode"
  let object ← (r.text? "ObjType").bind RuleObject.ofCode?
  return (item, ⟨(r.text? "RuleType").getD "", object, r.signed? "DiscountPct"⟩)

def promotion? (r : Row) : Option (String × Float) := do
  let item ← r.text? "ItemCode"
  let percent ← r.float? "PromoDiscount"
  return (item, percent)

def billLine? (r : Row) : Option BillLine := do
  let parent ← r.text? "Parent"
  return ⟨parent, r.text? "Component"⟩

def stockRow? (r : Row) : Option StockRow := do
  let item ← r.text? "ItemCode"
  return ⟨item, r.text? "WhsCode",
    ⟨r.signed? "OnHand", r.float? "OnOrder", r.float? "IsCommited"⟩⟩

namespace Snapshot

def ofTables (tables : List Table) : Snapshot where
  customer := customerOf (tables.getD 0 [])
  basePrices := (tables.getD 1 []).filterMap basePrice?
  specials := (tables.getD 2 []).filterMap special?
  rules := (tables.getD 3 []).filterMap rule?
  promotions := (tables.getD 4 []).filterMap promotion?
  bills := (tables.getD 5 []).filterMap billLine?
  stock := (tables.getD 6 []).filterMap stockRow?

def basePriceOf? (s : Snapshot) (sku : String) : Option BasePrice :=
  s.basePrices.reverse.find? fun b => b.item == sku

def specialOf? (s : Snapshot) (sku : String) : Option SpecialTerms :=
  (s.specials.find? fun e => e.1 == sku).map Prod.snd

def rulesOf (s : Snapshot) (sku : String) : List GroupRule :=
  (s.rules.filter fun e => e.1 == sku).map Prod.snd

def promotionOf? (s : Snapshot) (sku : String) : Option Float :=
  (s.promotions.reverse.find? fun e => e.1 == sku).map Prod.snd

def billOf? (s : Snapshot) (sku : String) : Option (List String) :=
  match s.bills.filter fun line => line.parent == sku with
  | [] => none
  | lines => some (lines.filterMap BillLine.component)

def componentRows (s : Snapshot) (sku component : String) : List StockCandidate :=
  match s.stock.filter fun row => row.item == component with
  | [] => [{ parent := sku, item := some component }]
  | rows => rows.map fun row => ⟨sku, some component, row.warehouse, row.figures⟩

def candidatesOf (s : Snapshot) (sku : String) : List StockCandidate :=
  match s.billOf? sku with
  | none => s.componentRows sku sku
  | some [] => [{ parent := sku }]
  | some components => components.flatMap (s.componentRows sku)

def candidates (s : Snapshot) (skus : List String) : List StockCandidate :=
  skus.flatMap s.candidatesOf

end Snapshot

end ErpGateway.Erp.Sap
