import ErpGateway.Proofs.Erp.Script
import ErpGateway.Proofs.Sql.Bound
import ErpGateway.Proofs.Sql.Rows

namespace ErpGateway.Erp.Hasavshevet

open Sql Pricing

structure Content where
  accounts : String → Table
  catalog : Table
  rules : String → Table
  listPrices : Table
  specials : String → Option String → Table
  lastPrices : String → Table
  stock : List String → Table

namespace Content

variable (c : Content)

def codesOf (skus : List String) : List String :=
  (rowsIn "ItemKey" skus c.catalog).filterMap fun r =>
    (Row.text? r "DiscountCode").map Text.trimmed

def rulesFor (skus : List String) (owner : String) : Table :=
  (c.rules owner).filter fun r =>
    (Row.text? r "DiscountCode").any fun code => (c.codesOf skus).contains (Text.trimmed code)

def listPricesFor (skus : List String) (lists : List Int) : Table :=
  (rowsIn "ItemKey" skus c.listPrices).filter fun r =>
    (Row.int? r "PriceListNumber").any lists.contains

/-- The database answers every statement that is asked, at once, with the rows of the content about the
items of the statement. -/
structure Serves (settings : Settings) (asOf : String) (db : Database) : Prop where
  parentAccount : ∀ earlier account,
    db earlier (Hasavshevet.parentAccount account) = ⟨0, .ok [c.accounts account]⟩
  catalog : ∀ earlier skus, skus ≠ [] →
    db earlier (Hasavshevet.catalog skus asOf) = ⟨0, .ok [rowsIn "ItemKey" skus c.catalog]⟩
  discountRules : ∀ earlier skus owner, skus ≠ [] →
    db earlier (Hasavshevet.discountRules skus owner) = ⟨0, .ok [c.rulesFor skus owner]⟩
  listPrices : ∀ earlier skus lists, skus ≠ [] → lists ≠ [] →
    db earlier (Hasavshevet.listPrices skus lists asOf) = ⟨0, .ok [c.listPricesFor skus lists]⟩
  specialPrices : ∀ earlier skus account parent, skus ≠ [] →
    db earlier (Hasavshevet.specialPrices skus account parent) =
      ⟨0, .ok [rowsIn "ItemKey" skus (c.specials account parent)]⟩
  lastPrices : ∀ earlier skus account, skus ≠ [] →
    db earlier (Hasavshevet.lastPrices settings skus account) =
      ⟨0, .ok [rowsIn "ItemKey" skus (c.lastPrices account)]⟩
  stock : ∀ earlier skus warehouses, skus ≠ [] →
    db earlier (Hasavshevet.stock settings skus warehouses) =
      ⟨0, .ok [rowsIn "ItemKey" skus (c.stock warehouses)]⟩

section Database

def rowsFor (s : Statement) : Table :=
  let skus := (s.valuesOf "sku").filterMap Scalar.text?
  let account := ((s.param? "account").bind Scalar.text?).getD ""
  if (s.param? "excludedOrders").isSome then
    rowsIn "ItemKey" skus (c.stock ((s.valuesOf "wh").filterMap Scalar.text?))
  else if (s.param? "invoiceDoc").isSome then rowsIn "ItemKey" skus (c.lastPrices account)
  else
    match s.param? "parent" with
    | some parent => rowsIn "ItemKey" skus (c.specials account parent.text?)
    | none =>
      if (s.param? "asOf").isSome then
        if (s.valuesOf "pl").isEmpty then rowsIn "ItemKey" skus c.catalog
        else c.listPricesFor skus ((s.valuesOf "pl").filterMap Scalar.int?)
      else if skus.isEmpty then c.accounts account
      else c.rulesFor skus account

def database : Database :=
  fun _ s => ⟨0, .ok [c.rowsFor s]⟩

@[simp] lemma filterMap_text?_texts (values : List String) :
    (texts values).filterMap Scalar.text? = values := by
  rw [texts, List.filterMap_map]
  exact List.filterMap_some

@[simp] lemma int?_int (n : Int) : (Scalar.int n).int? = some n :=
  rfl

@[simp] lemma text?_text (s : String) : (Scalar.text s).text? = some s :=
  rfl

@[simp] lemma text?_ofText? (s : Option String) : (Scalar.ofText? s).text? = s := by
  cases s <;> rfl

lemma serves_database (settings : Settings) (asOf : String) :
    c.Serves settings asOf c.database where
  parentAccount _ account := by
    simp (disch := decide) [database, rowsFor, Hasavshevet.parentAccount]
  catalog _ skus _ := by
    simp (disch := decide) [database, rowsFor, Hasavshevet.catalog]
  discountRules _ skus owner hskus := by
    simp (disch := decide) [database, rowsFor, Hasavshevet.discountRules, hskus]
  listPrices _ skus lists _ hlists := by
    simp (disch := decide) [database, rowsFor, Hasavshevet.listPrices, hlists, Function.comp_def]
  specialPrices _ skus account parent _ := by
    simp (disch := decide) [database, rowsFor, Hasavshevet.specialPrices]
  lastPrices _ skus account _ := by
    simp (disch := decide) [database, rowsFor, Hasavshevet.lastPrices]
  stock _ skus warehouses _ := by
    simp (disch := decide) [database, rowsFor, Hasavshevet.stock]

end Database

end Content

end ErpGateway.Erp.Hasavshevet
