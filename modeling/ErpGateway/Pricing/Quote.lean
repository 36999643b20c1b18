import ErpGateway.Pricing.Discount
import ErpGateway.Pricing.Least

/-!
Quotes: the price of an item from exactly one source. An explicit special price comes first, then a
special discount, discount groups, a promotion, and the base price.
-/
namespace ErpGateway.Pricing

inductive RuleObject where
  | item | manufacturer | itemGroup
deriving DecidableEq, Repr

namespace RuleObject

def ofCode? (code : String) : Option RuleObject :=
  match String.ofList (Text.trim code.toList) with
  | "4" => some item
  | "43" => some manufacturer
  | "52" => some itemGroup
  | _ => none

def label : RuleObject → String
  | item => "Discount group (item)"
  | manufacturer => "Discount group (manufacturer)"
  | itemGroup => "Discount group (item group)"

end RuleObject

/-- A discount rule that applies to an item. Its type tells whom it was made for: `S` a customer, `C`
a group of customers, anything else everyone. -/
structure GroupRule where
  ruleType : String := ""
  object : RuleObject := .item
  percent : Option Decimal.Signed := none
deriving DecidableEq

structure SpecialTerms where
  price : Option Float := none
  percent : Option Float := none
deriving DecidableEq

inductive PriceSource where
  | specialPrice
  | specialDiscount
  | discountGroups (mode : Aggregation)
  | promotion
  | basePriceList
deriving DecidableEq, Repr

def PriceSource.label : PriceSource → String
  | specialPrice => "Special price (explicit)"
  | specialDiscount => "Special price (discount)"
  | discountGroups mode => "Discount groups (" ++ mode.label ++ ")"
  | promotion => "Promotion"
  | basePriceList => "Base price list"

structure Terms where
  base : Float
  special : Option SpecialTerms := none
  rules : List GroupRule := []
  promotion : Option Float := none

structure Quote where
  base : Float
  final : Float
  source : PriceSource
  groupPercent : Option Float
  ruleType : Option String
  ruleObject : Option RuleObject
deriving DecidableEq

def GroupRule.outranks (mode : Aggregation) (a b : GroupRule) : Bool :=
  noneLast (if mode.prefersLowest then smallerFirst else greaterFirst) a.percent b.percent

def GroupRule.precedes (mode : Aggregation) (a b : GroupRule) : Bool :=
  a.outranks mode b || (!b.outranks mode a && decide (a.ruleType < b.ruleType))

def bestRule? (mode : Aggregation) (rules : List GroupRule) : Option GroupRule :=
  firstLeast (GroupRule.precedes mode) rules

def groupPercent (mode : Aggregation) (rules : List GroupRule) : Option Float :=
  (mode.combine ((rules.filterMap GroupRule.percent).map Decimal.Signed.value)).map toFourPlaces

def SpecialTerms.positivePrice (terms : SpecialTerms) : Option Float :=
  terms.price.filter fun p => (0.0 : Float) < p

namespace Terms

def specialPrice (terms : Terms) : Option Float :=
  terms.special.bind SpecialTerms.positivePrice

def specialPercent (terms : Terms) : Option Float :=
  terms.special.bind SpecialTerms.percent

def priced (terms : Terms) (mode : Aggregation) (source : PriceSource) (price : Float) : Quote where
  base := toFourPlaces terms.base
  final := toFourPlaces price
  source := source
  groupPercent := Pricing.groupPercent mode terms.rules
  ruleType := none
  ruleObject := none

def quote (terms : Terms) (mode : Aggregation) : Quote :=
  match terms.specialPrice, terms.specialPercent, Pricing.groupPercent mode terms.rules,
      terms.promotion with
  | some price, _, _, _ => terms.priced mode .specialPrice price
  | none, some percent, _, _ => terms.priced mode .specialDiscount (discounted terms.base percent)
  | none, none, some percent, _ =>
    let best := bestRule? mode terms.rules
    { terms.priced mode (.discountGroups mode) (discounted terms.base percent) with
      ruleType := best.map GroupRule.ruleType
      ruleObject := best.map GroupRule.object }
  | none, none, none, some percent =>
    { terms.priced mode .promotion (discounted terms.base percent) with ruleType := some "A" }
  | none, none, none, none => terms.priced mode .basePriceList terms.base

end Terms

end ErpGateway.Pricing
