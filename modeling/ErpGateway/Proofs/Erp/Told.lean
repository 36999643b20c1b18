import ErpGateway.Proofs.Erp.Batching

namespace ErpGateway.Erp.Hasavshevet

open Sql Pricing

section Columns

variable {settings : Settings} {r : Row}

lemma columns_of_catalogRow {e : CatalogEntry} (h : catalogEntry? r = some e) :
    Row.text? r "ItemKey" = some e.sku ∧ Row.text? r "DiscountCode" = e.discountCode := by
  obtain ⟨sku, hsku, hentry⟩ := Option.bind_eq_some_iff.mp h
  obtain rfl := Option.some.inj hentry
  exact ⟨hsku, rfl⟩

lemma code_of_ruleRow {rule : DiscountRule} (h : discountRule? r = some rule) :
    Row.text? r "DiscountCode" = some rule.discountCode := by
  obtain ⟨code, hcode, hrest⟩ := Option.bind_eq_some_iff.mp h
  obtain ⟨list, -, hrule⟩ := Option.bind_eq_some_iff.mp hrest
  obtain rfl := Option.some.inj hrule
  exact hcode

lemma columns_of_listPriceRow {p : ListPrice} (h : listPrice? r = some p) :
    Row.text? r "ItemKey" = some p.sku ∧ Row.int? r "PriceListNumber" = some p.priceList := by
  obtain ⟨sku, hsku, hrest⟩ := Option.bind_eq_some_iff.mp h
  obtain ⟨list, hlist, hlater⟩ := Option.bind_eq_some_iff.mp hrest
  obtain ⟨price, -, hp⟩ := Option.bind_eq_some_iff.mp hlater
  obtain rfl := Option.some.inj hp
  exact ⟨hsku, hlist⟩

lemma sku_of_specialRow {p : SpecialPrice} (h : specialPrice? r = some p) :
    Row.text? r "ItemKey" = some p.sku := by
  obtain ⟨sku, hsku, hrest⟩ := Option.bind_eq_some_iff.mp h
  obtain ⟨account, -, hlater⟩ := Option.bind_eq_some_iff.mp hrest
  obtain ⟨price, -, hp⟩ := Option.bind_eq_some_iff.mp hlater
  obtain rfl := Option.some.inj hp
  exact hsku

lemma sku_of_transactionRow {t : Transaction} (h : transaction? settings r = some t) :
    Row.text? r "ItemKey" = some t.sku := by
  obtain ⟨document, -, hsource⟩ := Option.bind_eq_some_iff.mp h
  obtain ⟨source, -, hrest⟩ := Option.bind_eq_some_iff.mp hsource
  obtain ⟨sku, hsku, hlater⟩ := Option.bind_eq_some_iff.mp hrest
  obtain ⟨price, -, ht⟩ := Option.bind_eq_some_iff.mp hlater
  obtain rfl := Option.some.inj ht
  exact hsku

lemma sku_of_stockRow {m : StockMovement} (h : stockMovement? r = some m) :
    Row.text? r "ItemKey" = some m.sku := by
  obtain ⟨sku, hsku, hrest⟩ := Option.bind_eq_some_iff.mp h
  obtain ⟨warehouse, -, hm⟩ := Option.bind_eq_some_iff.mp hrest
  obtain rfl := Option.some.inj hm
  exact hsku

end Columns

namespace Content

variable {c : Content} {settings : Settings} {skus : List String} {sku : String} {e : CatalogEntry}

def stockOf (c : Content) (warehouses : List String) (sku : String) : StockByWarehouse :=
  ((netStock ((c.stock warehouses).filterMap stockMovement?)).get? sku).getD []

lemma mem_codesOf {account code : String} (hsku : sku ∈ skus)
    (he : (c.facts settings account).listed? sku = some e) (hcode : e.discountCode = some code) :
    Text.trimmed code ∈ c.codesOf skus := by
  rw [Facts.listed?, Pricing.catalogEntry?] at he
  have hfound := List.find?_some he
  have hown : e.sku = sku := beq_iff_eq.mp hfound
  have hmem := List.mem_reverse.mp (List.mem_of_find?_eq_some he)
  obtain ⟨r, hr, hentry⟩ := List.mem_filterMap.mp hmem
  obtain ⟨hkey, hrow⟩ := columns_of_catalogRow hentry
  rw [codesOf, List.mem_filterMap]
  refine ⟨r, ?_, ?_⟩
  · rw [rowsIn, List.mem_filter, hkey, hown]
    exact ⟨hr, List.contains_iff_mem.mpr hsku⟩
  · rw [hrow, hcode]
    rfl

lemma ruleFor?_rulesFor {account : String} (hsku : sku ∈ skus)
    (he : (c.facts settings account).listed? sku = some e) (owner : String) :
    e.ruleFor? ((c.rulesFor skus owner).filterMap discountRule?) =
      e.ruleFor? ((c.rules owner).filterMap discountRule?) := by
  rw [CatalogEntry.ruleFor?, CatalogEntry.ruleFor?]
  cases hcode : e.discountCode with
  | none => rfl
  | some code =>
    have hmem := mem_codesOf hsku he hcode
    let q : Row → Bool := fun r =>
      (Row.text? r "DiscountCode").any fun text => Text.trimmed text == Text.trimmed code
    -- the rows with the item's own code are all among those about the batch
    have hrows : (c.rulesFor skus owner).filter q = (c.rules owner).filter q := by
      rw [rulesFor, List.filter_filter]
      refine List.filter_congr fun r _ => ?_
      dsimp only [q]
      cases Row.text? r "DiscountCode" with
      | none => rfl
      | some text =>
        rw [Option.any_some, Option.any_some]
        by_cases hsame : Text.trimmed text = Text.trimmed code
        · rw [hsame, List.contains_iff_mem.mpr hmem, Bool.and_true]
        · rw [beq_eq_false_iff_ne.mpr hsame, Bool.false_and]
    refine find?_filterMap_congr (fun r rule hrule hsame => ?_) hrows
    dsimp only [q]
    rw [code_of_ruleRow hrule]
    exact hsame

lemma listPrice?_listPricesFor {lists : List Int} {list : Int} (hsku : sku ∈ skus)
    (hlist : list ∈ lists) :
    Pricing.listPrice? ((c.listPricesFor skus lists).filterMap listPrice?) sku list =
      Pricing.listPrice? (c.listPrices.filterMap listPrice?) sku list := by
  let q : Row → Bool := fun r =>
    Row.int? r "PriceListNumber" == some list && Row.text? r "ItemKey" == some sku
  have hrows : (c.listPricesFor skus lists).filter q = c.listPrices.filter q := by
    have hlists : ∀ r, (q r && (Row.int? r "PriceListNumber").any lists.contains) = q r := by
      intro r
      dsimp only [q]
      by_cases hr : Row.int? r "PriceListNumber" = some list
      · rw [hr, Option.any_some, List.contains_iff_mem.mpr hlist, Bool.and_true]
      · rw [beq_eq_false_iff_ne.mpr hr, Bool.false_and, Bool.false_and]
    rw [listPricesFor, List.filter_filter]
    simp only [hlists]
    dsimp only [q]
    rw [← List.filter_filter, ← List.filter_filter]
    exact congrArg _ (rowsOf_rowsIn "ItemKey" hsku c.listPrices)
  rw [Pricing.listPrice?, Pricing.listPrice?]
  refine congrArg _ (find?_reverse_filterMap_congr (fun r p hp hsame => ?_) hrows)
  obtain ⟨hkey, hnumber⟩ := columns_of_listPriceRow hp
  obtain ⟨hown, hon⟩ := Bool.and_eq_true_iff.mp hsame
  dsimp only [q]
  rw [hkey, hnumber, beq_iff_eq.mp hown, beq_iff_eq.mp hon, beq_self_eq_true, beq_self_eq_true]
  rfl

lemma ruleFor?_told {account owner : String} {rules : List Table} (hsku : sku ∈ skus)
    (he : (c.facts settings account).listed? sku = some e)
    (hrules : rules.headD [] = c.rulesFor skus owner) :
    e.ruleFor? (rulesIn rules) = e.ruleFor? ((c.rules owner).filterMap discountRule?) := by
  rw [rulesIn, hrules]
  exact ruleFor?_rulesFor hsku he owner

lemma ruled?_told {account owner : String} {rules prices : List Table} (hsku : sku ∈ skus)
    (he : (c.facts settings account).listed? sku = some e)
    (hrules : rules.headD [] = c.rulesFor skus owner)
    (hprices : rulesIn rules ≠ [] →
      prices.headD [] = c.listPricesFor skus (listsOf (rulesIn rules))) (provenance : Provenance) :
    ruled? (rulesIn rules) (pricesIn prices) provenance sku e =
      ruled? ((c.rules owner).filterMap discountRule?) (c.listPrices.filterMap listPrice?)
        provenance sku e := by
  rw [ruled?, ruled?, ← ruleFor?_told hsku he hrules]
  refine Option.map_congr fun rule hrule => ?_
  have hmem := CatalogEntry.mem_of_ruleFor? hrule
  rw [pricesIn, hprices (List.ne_nil_of_mem hmem), listPrice?_listPricesFor hsku (mem_listsOf hmem)]

end Content

section Told

variable {c : Content} {settings : Settings} {request : Request} {a : Answers} {sku : String}
  {e : CatalogEntry}

namespace Content.Tells

lemma parent_eq (h : c.Tells settings request a) :
    (a.facts settings request).parent = (c.facts settings request.account).parent := by
  rw [Answers.facts, h.parent]
  rfl

lemma listed_eq (h : c.Tells settings request a) (hsku : sku ∈ request.skusAsAsked) :
    (a.facts settings request).listed? sku = (c.facts settings request.account).listed? sku := by
  rw [Facts.listed?, Answers.facts, h.catalog]
  exact find?_reverse_filterMap_congr (own_of_key (fun _ _ he => (columns_of_catalogRow he).1) sku)
    (rowsOf_rowsIn "ItemKey" hsku c.catalog)

lemma resolvedByAccount_eq (h : c.Tells settings request a) :
    (a.facts settings request).resolvedByAccount request.skusAsAsked =
      (c.facts settings request.account).resolvedByAccount request.skusAsAsked := by
  refine List.countP_congr fun sku hsku => ?_
  rw [h.listed_eq hsku]
  cases he : (c.facts settings request.account).listed? sku with
  | none => rfl
  | some e =>
    have hrule : e.ruleFor? (a.facts settings request).accountRules =
        e.ruleFor? (c.facts settings request.account).accountRules :=
      ruleFor?_told hsku he h.accountRules
    rw [Option.bind_some, Option.bind_some, hrule]

lemma chosen_eq (h : c.Tells settings request a) (hsku : sku ∈ request.skusAsAsked)
    (he : (c.facts settings request.account).listed? sku = some e) :
    (a.facts settings request).chosen? request.skusAsAsked sku e =
      (c.facts settings request.account).chosen? request.skusAsAsked sku e := by
  have haccount := ruled?_told hsku he h.accountRules h.accountPrices .accountDiscount
  rw [Facts.chosen?_eq, Facts.chosen?_eq, ← h.resolvedByAccount_eq, ← h.parent_eq]
  refine congrArg₂ Option.or haccount ?_
  split
  · -- the parent's rules were asked for, as they count
    rename_i hasked
    obtain ⟨hnone, hsome⟩ := hasked
    rw [h.parent_eq] at hsome
    obtain ⟨parent, hparent⟩ := Option.isSome_iff_exists.mp hsome
    rw [c.parentRules_facts settings hparent]
    exact ruled?_told hsku he (h.parentRules parent hparent hnone)
      (h.parentPrices parent hparent hnone) .parentDiscount
  · rfl

lemma special_eq (h : c.Tells settings request a) (hsku : sku ∈ request.skusAsAsked) :
    (a.facts settings request).special? sku =
      (c.facts settings request.account).special? sku := by
  have howned : ∀ owner, (a.facts settings request).specialOf? owner sku =
      (c.facts settings request.account).specialOf? owner sku := by
    intro owner
    rw [Facts.specialOf?, Answers.facts, h.specials]
    refine find?_filterMap_congr (fun r p hp hown => ?_) (rowsOf_rowsIn "ItemKey" hsku _)
    obtain ⟨hsame, -⟩ := Bool.and_eq_true_iff.mp hown
    rw [sku_of_specialRow hp, beq_iff_eq.mp hsame]
    exact beq_self_eq_true _
  rw [Facts.special?, Facts.special?, h.parent_eq, howned]
  simp only [howned]
  rfl

lemma last_eq (h : c.Tells settings request a) (hsku : sku ∈ request.skusAsAsked) :
    (a.facts settings request).last? sku = (c.facts settings request.account).last? sku := by
  have hown : (a.facts settings request).transactions.filter (fun t => decide (t.sku = sku)) =
      (c.facts settings request.account).transactions.filter fun t => decide (t.sku = sku) := by
    rw [Answers.facts, h.last]
    exact filter_filterMap_congr (own_of_key (fun _ _ => sku_of_transactionRow) sku)
      (rowsOf_rowsIn "ItemKey" hsku _)
  rw [Facts.last?, Facts.last?, get?_ofRows_filter, hown, ← get?_ofRows_filter]

lemma agreesOn (h : c.Tells settings request a) (hsku : sku ∈ request.skusAsAsked) :
    (a.facts settings request).AgreesOn request.skusAsAsked (c.facts settings request.account)
      request.skusAsAsked sku where
  account := rfl
  parent := h.parent_eq
  listed := h.listed_eq hsku
  chosen _ he := h.chosen_eq hsku (h.listed_eq hsku ▸ he)
  special := h.special_eq hsku
  last := h.last_eq hsku

lemma stockOf_eq (h : c.Tells settings request a) (hsku : sku ∈ request.skusAsAsked) :
    a.stockOf sku = c.stockOf (request.warehousesOr settings.defaultWarehouses) sku := by
  let movements : Table → List StockMovement := List.filterMap stockMovement?
  have hown : (movements (a.stock.headD [])).filter (fun m => decide (m.sku = sku)) =
      (movements (c.stock (request.warehousesOr settings.defaultWarehouses))).filter
        fun m => decide (m.sku = sku) := by
    rw [h.stock]
    exact filter_filterMap_congr (own_of_key (fun _ _ => sku_of_stockRow) sku)
      (rowsOf_rowsIn "ItemKey" hsku _)
  rw [Answers.stockOf, stockOf, get?_netStock_filter, hown, ← get?_netStock_filter]

end Content.Tells

namespace Answers

variable {a' : Answers} {request' : Request}

lemma item_congr (hdocument : request.document = request'.document)
    (hfacts : (a.facts settings request).AgreesOn request.skusAsAsked
      (a'.facts settings request') request'.skusAsAsked sku)
    (hstock : a.stockOf sku = a'.stockOf sku) :
    a.item settings request sku = a'.item settings request' sku := by
  rw [item, item, ← hfacts.listed]
  cases he : (a.facts settings request).listed? sku with
  | none =>
    dsimp only
    rw [hstock]
  | some e =>
    dsimp only
    rw [hdocument, hfacts.account, hfacts.parent, hfacts.priced_eq he, hstock]

end Answers

end Told

end ErpGateway.Erp.Hasavshevet
