import ErpGateway.Dialogue
import ErpGateway.Erp.Hasavshevet.Rows
import ErpGateway.Erp.Hasavshevet.Statements
import ErpGateway.Pricing.Request

/-!
Answers from Hasavshevet: a statement for each stage of the cascade, then the stages on the rows.
-/
namespace ErpGateway.Erp.Hasavshevet

open Sql Pricing

def rulesApplied (rules resolved : Nat) (provenance : Provenance) : Event :=
  ⟨.debug, [("component", "erpgw_engine::resolvers::cascade"), ("rules", toString rules),
    ("resolved", toString resolved), ("provenance", provenance.tag),
    ("message", "Discount rules applied")]⟩

def parentFor (account : String) : Dialogue (Option String) :=
  if account.isEmpty then return none
  else return parentOf account (← Dialogue.rows (parentAccount account))

def listsOf (rules : List DiscountRule) : List Int :=
  (rules.map DiscountRule.priceList).eraseDups.mergeSort fun a b => decide (a ≤ b)

def discounted (skus : List String) (asOf owner : String) (provenance : Provenance)
    (states : List ItemState) : Dialogue (List ItemState × Nat) := do
  let rules := (← Dialogue.rows (discountRules skus owner)).filterMap discountRule?
  if rules.isEmpty then return (states, 0)
  else
    let prices := (← Dialogue.rows (listPrices skus (listsOf rules) asOf)).filterMap listPrice?
    let resolved := resolvedCount rules states
    Dialogue.noted (rulesApplied rules.length resolved provenance)
    return (states.map (Stage.rules rules prices provenance).apply, resolved)

def discountedByRules (skus : List String) (asOf account : String) (parent : Option String)
    (states : List ItemState) : Dialogue (List ItemState) := do
  let (states, resolved) ← discounted skus asOf account .accountDiscount states
  match parent, resolved with
  | some parent, 0 => return (← discounted skus asOf parent .parentDiscount states).1
  | _, _ => return states

def pricedForAccount (settings : Settings) (skus : List String) (asOf account : String)
    (parent : Option String) (states : List ItemState) : Dialogue (List ItemState) := do
  let states ← discountedByRules skus asOf account parent states
  let specials := (← Dialogue.rows (specialPrices skus account parent)).filterMap specialPrice?
  let rows := (← Dialogue.rows (lastPrices settings skus account)).filterMap (transaction? settings)
  let last := LastPrices.ofRows rows
  let stages := [.specials specials account parent, .floor last,
    .lastPriceList last settings.lastPriceList]
  return states.map (Stage.run stages)

def withRequest (document : Int) (account : String) (parent : Option String) (known : Bool)
    (item : Item) : Item :=
  if known then
    item
      |>.putDetail "documentId" (.int document)
      |>.putDetail "accountId" (.text account)
      |>.putSome "parentAccountId" (parent.map .text)
  else item

def answer (settings : Settings) (today : Calendar.Date) (request : Request) :
    Dialogue (List Item) := do
  let skus := request.skusAsAsked
  if skus.isEmpty then return []
  else
    let account := request.account
    let asOf := request.asOfText today
    let parent ← parentFor account
    let entries := (← Dialogue.rows (catalog skus asOf)).filterMap catalogEntry?
    let states := skus.map (ItemState.seed entries)
    let states ← if account.isEmpty then pure states
      else pricedForAccount settings skus asOf account parent states
    let states := states.map Stage.clamp.apply
    let warehouses := request.warehousesOr settings.defaultWarehouses
    let stock := netStock ((← Dialogue.rows (stock settings skus warehouses)).filterMap stockMovement?)
    return states.map fun s =>
      withRequest request.document account parent s.known
        (s.toItem ((stock.get? s.sku).getD []))

end ErpGateway.Erp.Hasavshevet
