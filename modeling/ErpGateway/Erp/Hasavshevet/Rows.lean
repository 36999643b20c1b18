import ErpGateway.Pricing.Cascade
import ErpGateway.Sql.Column
import ErpGateway.Erp.Backend

/-!
The rows that Hasavshevet answers with. A row that lacks a column it cannot do without is passed over.
-/
namespace ErpGateway.Erp.Hasavshevet

open Sql Pricing

def parentOf (account : String) (rows : Table) : Option String :=
  (rows.head?.bind fun r => Row.text? r "ParentAccount").filter fun parent => parent != account

def catalogEntry? (r : Row) : Option CatalogEntry := do
  let sku ← r.text? "ItemKey"
  return {
    sku := sku
    itemPrice := r.float? "ItemPrice"
    currency := r.text? "Coin"
    vatExempt := r.flag "VatExampt"
    discountCode := r.text? "DiscountCode"
    priceList := r.int? "PriceListNumber"
    listPrice := r.float? "ListPrice"
    listCurrency := r.text? "ListCoin" }

def discountRule? (r : Row) : Option DiscountRule := do
  let code ← r.text? "DiscountCode"
  let list ← r.int? "PriceListNumber"
  return ⟨code, list, (r.float? "DiscountPrc").getD 0.0⟩

def listPrice? (r : Row) : Option ListPrice := do
  let sku ← r.text? "ItemKey"
  let list ← r.int? "PriceListNumber"
  let price ← r.float? "Price"
  return ⟨sku, list, price⟩

def specialPrice? (r : Row) : Option SpecialPrice := do
  let sku ← r.text? "ItemKey"
  let account ← r.text? "AccountKey"
  let price ← r.float? "Price"
  return ⟨sku, account, price, (r.float? "DiscountPrc").getD 0.0, r.text? "Coin"⟩

def sourceOf? (settings : Settings) (document : Int) : Option TransactionSource :=
  if document = settings.invoiceDocument then some .invoice
  else if document = settings.orderDocument then some .order
  else none

def transaction? (settings : Settings) (r : Row) : Option Transaction := do
  let document ← r.int? "DocumentID"
  let source ← sourceOf? settings document
  let sku ← r.text? "ItemKey"
  let price ← r.float? "Price"
  return ⟨sku, source, price, r.text? "ValueDate", (r.int? "LineId").getD 0⟩

def stockMovement? (r : Row) : Option StockMovement := do
  let sku ← r.text? "ItemKey"
  let warehouse ← r.text? "Warehouse"
  return ⟨sku, warehouse, (r.float? "OnHand").getD 0.0, (r.float? "OpenOrders").getD 0.0⟩

end ErpGateway.Erp.Hasavshevet
