import ErpGateway.Pricing.Discount
import ErpGateway.Pricing.Item
import ErpGateway.Pricing.Stock
import ErpGateway.Pricing.Transaction
import ErpGateway.Text.Blank

/-!
The cascade: an item starts at its catalog price and passes through stages that may replace it.
Discount rules come first, then special prices, the last price as a floor, the price list that always
sells at the last price, and the clamp at zero.
-/
namespace ErpGateway.Pricing

inductive Provenance where
  | basePrice
  | accountDiscount
  | parentDiscount
  | specialPrice
  | lastPrice
  | lastPricePriceList
deriving DecidableEq, Repr

namespace Provenance

def tag : Provenance → String
  | basePrice => "basePrice"
  | accountDiscount => "accountDiscount"
  | parentDiscount => "parentDiscount"
  | specialPrice => "specialPrice"
  | lastPrice => "lastPrice"
  | lastPricePriceList => "lastPricePriceList"

def all : List Provenance :=
  [basePrice, accountDiscount, parentDiscount, specialPrice, lastPrice, lastPricePriceList]

def ofTag? (s : String) : Option Provenance :=
  all.find? fun p => p.tag == s

end Provenance

structure CatalogEntry where
  sku : String
  itemPrice : Option Float := none
  currency : Option String := none
  vatExempt : Bool := false
  discountCode : Option String := none
  priceList : Option Int := none
  listPrice : Option Float := none
  listCurrency : Option String := none
deriving DecidableEq

structure DiscountRule where
  discountCode : String
  priceList : Int
  percent : Float
deriving DecidableEq

structure ListPrice where
  sku : String
  priceList : Int
  price : Float
deriving DecidableEq

structure SpecialPrice where
  sku : String
  accountId : String
  price : Float
  percent : Float
  currency : Option String := none
deriving DecidableEq

structure ItemState where
  sku : String
  known : Bool := false
  basePrice : Option Float := none
  currency : Option String := none
  vatExempt : Bool := false
  discountCode : Option String := none
  discountPercent : Float := 0.0
  discountResolved : Bool := false
  specialPrice : Bool := false
  specialAmount : Option Float := none
  priceList : Option Int := none
  nominalPrice : Option Float := none
  resolvedPrice : Option Float := none
  lastPrice : Option Float := none
  provenance : Provenance := .basePrice
deriving DecidableEq

def catalogEntry? (catalog : List CatalogEntry) (sku : String) : Option CatalogEntry :=
  catalog.reverse.find? fun e => e.sku == sku

def listPrice? (prices : List ListPrice) (sku : String) (list : Int) : Option Float :=
  (prices.reverse.find? fun p => p.sku == sku && p.priceList == list).map ListPrice.price

namespace CatalogEntry

def price (e : CatalogEntry) : Option Float :=
  e.listPrice.or e.itemPrice

def priceCurrency (e : CatalogEntry) : Option String :=
  (if e.listPrice.isSome then e.listCurrency else none).or e.currency

end CatalogEntry

namespace ItemState

def seed (catalog : List CatalogEntry) (sku : String) : ItemState :=
  match catalogEntry? catalog sku with
  | none => { sku := sku }
  | some e =>
    { sku := sku
      known := true
      basePrice := e.price
      currency := e.priceCurrency
      vatExempt := e.vatExempt
      discountCode := e.discountCode
      priceList := e.priceList
      nominalPrice := e.price
      resolvedPrice := e.price }

def ruleFor? (rules : List DiscountRule) (s : ItemState) : Option DiscountRule :=
  s.discountCode.bind fun code =>
    rules.find? fun r => Text.trimmed r.discountCode == Text.trimmed code

def resolvingRule? (rules : List DiscountRule) (s : ItemState) : Option DiscountRule :=
  if s.discountResolved then none else s.ruleFor? rules

def applyRule (prices : List ListPrice) (provenance : Provenance) (s : ItemState)
    (rule : DiscountRule) : ItemState :=
  let base := (listPrice? prices s.sku rule.priceList).or s.basePrice
  let price := base.map fun p => discounted p rule.percent
  { s with
    basePrice := base
    priceList := some rule.priceList
    discountPercent := rule.percent
    discountResolved := true
    nominalPrice := price
    resolvedPrice := price
    provenance := provenance }

def applyRules (rules : List DiscountRule) (prices : List ListPrice) (provenance : Provenance)
    (s : ItemState) : ItemState :=
  match s.resolvingRule? rules with
  | some rule => s.applyRule prices provenance rule
  | none => s

def specialFor? (specials : List SpecialPrice) (account : String) (parent : Option String)
    (s : ItemState) : Option SpecialPrice :=
  let ownedBy (owner : String) :=
    specials.find? fun p => p.sku == s.sku && Text.trimmed p.accountId == owner
  (ownedBy account).or (parent.bind ownedBy)

def applySpecial (s : ItemState) (special : SpecialPrice) : ItemState :=
  let price := discounted special.price special.percent
  { s with
    basePrice := some price
    discountPercent := special.percent
    specialPrice := true
    specialAmount := some (special.price - price)
    currency := special.currency.or s.currency
    nominalPrice := some price
    resolvedPrice := some price
    provenance := .specialPrice }

def applySpecials (specials : List SpecialPrice) (account : String) (parent : Option String)
    (s : ItemState) : ItemState :=
  match s.specialFor? specials account parent with
  | some special => s.applySpecial special
  | none => s

def applyFloor (last : LastPrices) (s : ItemState) : ItemState :=
  match last.get? s.sku with
  | none => s
  | some row =>
    if s.resolvedPrice.any fun current => row.price < current then
      { s with
        lastPrice := some row.price
        resolvedPrice := some row.price
        provenance := .lastPrice }
    else { s with lastPrice := some row.price }

def applyLastPriceList (last : LastPrices) (list : Int) (s : ItemState) : ItemState :=
  if s.priceList ≠ some list then s
  else
    match last.get? s.sku with
    | none => s
    | some row =>
      { s with
        lastPrice := some row.price
        resolvedPrice := some row.price
        provenance := .lastPricePriceList }

def clamped (price : Float) : Float :=
  if (0.0 : Float) < price then price else 0.0

def clamp (s : ItemState) : ItemState :=
  { s with
    nominalPrice := s.nominalPrice.map clamped
    resolvedPrice := s.resolvedPrice.map clamped }

def toItem (s : ItemState) (stock : StockByWarehouse) : Item :=
  let item : Item := { sku := s.sku, stock := stock }
  if !s.known then item
  else
    item
      |>.putPrice "price" s.basePrice
      |>.putPrice "priceAfterDiscount" s.nominalPrice
      |>.putPrice "finalPrice" s.resolvedPrice
      |>.putPrice "lastPrice" s.lastPrice
      |>.putDetail "provenance" (.text s.provenance.tag)
      |>.putSome "currency" (s.currency.map .text)
      |>.putDetail "discountPrc" (.float s.discountPercent)
      |>.putSome "priceList" (s.priceList.map .int)
      |>.putDetail "specialPrice" (.bool s.specialPrice)
      |>.putSome "specialDiscountAmount" (s.specialAmount.map .float)
      |>.putDetail "vatExempt" (.bool s.vatExempt)

end ItemState

inductive Stage where
  | rules (rows : List DiscountRule) (prices : List ListPrice) (provenance : Provenance)
  | specials (rows : List SpecialPrice) (account : String) (parent : Option String)
  | floor (last : LastPrices)
  | lastPriceList (last : LastPrices) (list : Int)
  | clamp

namespace Stage

def apply : Stage → ItemState → ItemState
  | .rules rows prices provenance, s => s.applyRules rows prices provenance
  | .specials rows account parent, s => s.applySpecials rows account parent
  | .floor last, s => s.applyFloor last
  | .lastPriceList last list, s => s.applyLastPriceList last list
  | .clamp, s => s.clamp

def run (stages : List Stage) (s : ItemState) : ItemState :=
  stages.foldl (fun s stage => stage.apply s) s

end Stage

def resolvedCount (rules : List DiscountRule) (states : List ItemState) : Nat :=
  states.countP fun s => (s.resolvingRule? rules).isSome

end ErpGateway.Pricing
