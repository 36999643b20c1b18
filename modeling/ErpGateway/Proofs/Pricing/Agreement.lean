import ErpGateway.Proofs.Keyed
import ErpGateway.Proofs.Pricing.ClosedForm
import ErpGateway.Proofs.Pricing.LastPrices

namespace ErpGateway.Pricing

namespace CatalogEntry

lemma mem_of_ruleFor? {rules : List DiscountRule} {e : CatalogEntry} {rule : DiscountRule}
    (h : e.ruleFor? rules = some rule) : rule ∈ rules := by
  obtain ⟨code, -, hfind⟩ := Option.bind_eq_some_iff.mp h
  exact List.mem_of_find?_eq_some hfind

lemma ruleFor?_nil (e : CatalogEntry) : e.ruleFor? [] = none := by
  rw [ruleFor?]
  cases e.discountCode <;> rfl

end CatalogEntry

def ruled? (rules : List DiscountRule) (prices : List ListPrice) (provenance : Provenance)
    (sku : String) (e : CatalogEntry) : Option (DiscountRule × Provenance × Option Float) :=
  (e.ruleFor? rules).map fun rule => (rule, provenance, listPrice? prices sku rule.priceList)

namespace Facts

variable {f f' f'' : Facts} {skus skus' skus'' : List String} {sku : String} {e : CatalogEntry}

def chosen? (f : Facts) (skus : List String) (sku : String) (e : CatalogEntry) :
    Option (DiscountRule × Provenance × Option Float) :=
  (f.choice? skus e).map fun c => (c.rule, c.provenance, listPrice? c.prices sku c.rule.priceList)

lemma chosen?_eq : f.chosen? skus sku e =
    (ruled? f.accountRules f.accountPrices .accountDiscount sku e).or
      (if f.resolvedByAccount skus = 0 ∧ f.parent.isSome then
        ruled? f.parentRules f.parentPrices .parentDiscount sku e
      else none) := by
  rw [chosen?, choice?, ruled?, ruled?]
  cases e.ruleFor? f.accountRules with
  | some rule => rfl
  | none =>
    dsimp only
    rw [Option.map_none, Option.none_or]
    split
    · rw [Option.map_map]
      rfl
    · rfl

lemma resolvedByAccount_alone (he : f.listed? sku = some e)
    (hrule : e.ruleFor? f.accountRules = none) : f.resolvedByAccount [sku] = 0 := by
  rw [resolvedByAccount, List.countP_eq_zero]
  intro other hother
  obtain rfl := List.mem_singleton.mp hother
  rw [he, Option.bind_some, hrule]
  exact Bool.false_ne_true

lemma chosen?_alone (he : f.listed? sku = some e)
    (hpassed : e.ruleFor? f.accountRules = none → f.parent.isSome = true →
      (e.ruleFor? f.parentRules).isSome = true → f.resolvedByAccount skus = 0) :
    f.chosen? skus sku e = f.chosen? [sku] sku e := by
  rw [chosen?_eq, chosen?_eq]
  cases hrule : e.ruleFor? f.accountRules with
  | some rule => rw [ruled?, hrule, Option.map_some, Option.some_or, Option.some_or]
  | none =>
    rw [resolvedByAccount_alone he hrule]
    by_cases hparent : f.parent.isSome = true
    · cases hfound : e.ruleFor? f.parentRules with
      | none => simp only [ruled?, hfound, Option.map_none, ite_self]
      | some rule => rw [hpassed hrule hparent (by rw [hfound, Option.isSome_some])]
    · rw [if_neg fun h => hparent h.2, if_neg fun h => hparent h.2]

structure AgreesOn (f : Facts) (skus : List String) (f' : Facts) (skus' : List String)
    (sku : String) : Prop where
  account : f.account = f'.account
  parent : f.parent = f'.parent
  listed : f.listed? sku = f'.listed? sku
  chosen : ∀ e, f.listed? sku = some e → f.chosen? skus sku e = f'.chosen? skus' sku e
  special : f.special? sku = f'.special? sku
  last : f.last? sku = f'.last? sku

lemma agreesOn_of_chosen (haccount : f.account = f'.account) (hparent : f.parent = f'.parent)
    (hcatalog : f.catalog = f'.catalog) (hspecials : f.specials = f'.specials)
    (htransactions : f.transactions = f'.transactions)
    (hchosen : ∀ e, f.listed? sku = some e → f.chosen? skus sku e = f'.chosen? skus' sku e) :
    f.AgreesOn skus f' skus' sku where
  account := haccount
  parent := hparent
  listed := by rw [listed?, listed?, hcatalog]
  chosen := hchosen
  special := by
    have howned : f.specialOf? = f'.specialOf? := by
      funext owner sku
      rw [specialOf?, specialOf?, hspecials]
    rw [special?, special?, haccount, hparent, howned]
  last := by rw [last?, last?, htransactions]

lemma AgreesOn.symm (h : f.AgreesOn skus f' skus' sku) : f'.AgreesOn skus' f skus sku where
  account := h.account.symm
  parent := h.parent.symm
  listed := h.listed.symm
  chosen e he := (h.chosen e (h.listed.trans he)).symm
  special := h.special.symm
  last := h.last.symm

lemma AgreesOn.trans (h : f.AgreesOn skus f' skus' sku) (h' : f'.AgreesOn skus' f'' skus'' sku) :
    f.AgreesOn skus f'' skus'' sku where
  account := h.account.trans h'.account
  parent := h.parent.trans h'.parent
  listed := h.listed.trans h'.listed
  chosen e he := (h.chosen e he).trans (h'.chosen e (h.listed.symm.trans he))
  special := h.special.trans h'.special
  last := h.last.trans h'.last

lemma AgreesOn.nominal_eq (h : f.AgreesOn skus f' skus' sku) (he : f.listed? sku = some e) :
    f.nominal skus sku e = f'.nominal skus' sku e := by
  have hchosen := h.chosen e he
  rw [chosen?, chosen?] at hchosen
  rw [nominal, nominal, basePrice, basePrice, percent, percent, priceList, priceList, nominalPrice,
    nominalPrice, nominalProvenance, nominalProvenance, h.special]
  cases hc : f.choice? skus e with
  | none =>
    rw [hc, Option.map_none] at hchosen
    rw [Option.map_eq_none_iff.mp hchosen.symm]
  | some c =>
    rw [hc, Option.map_some] at hchosen
    obtain ⟨c', hc', hsame⟩ := Option.map_eq_some_iff.mp hchosen.symm
    have hrule : c.rule = c'.rule := (congrArg Prod.fst hsame).symm
    have hprovenance : c.provenance = c'.provenance :=
      (congrArg (fun chosen => chosen.2.1) hsame).symm
    have hprice : listPrice? c.prices sku c.rule.priceList =
        listPrice? c'.prices sku c'.rule.priceList :=
      (congrArg (fun chosen => chosen.2.2) hsame).symm
    have hbase : ruleBase sku e c = ruleBase sku e c' := by
      rw [ruleBase, ruleBase, hprice]
    rw [hc']
    cases f'.special? sku with
    | none =>
      dsimp only [Option.isSome_some]
      rw [hbase, hrule, hprovenance]
    | some special =>
      dsimp only [Option.isSome_some]
      rw [hrule]

lemma AgreesOn.priced_eq (h : f.AgreesOn skus f' skus' sku) (he : f.listed? sku = some e)
    (list : Int) : f.priced skus list sku e = f'.priced skus' list sku e := by
  have hnominal := h.nominal_eq he
  have hbase : f.basePrice skus sku e = f'.basePrice skus' sku e :=
    congrArg ItemState.basePrice hnominal
  have hpercent : f.percent skus sku e = f'.percent skus' sku e :=
    congrArg ItemState.discountPercent hnominal
  have hresolved : (f.choice? skus e).isSome = (f'.choice? skus' e).isSome :=
    congrArg ItemState.discountResolved hnominal
  have hlist : f.priceList skus e = f'.priceList skus' e := congrArg ItemState.priceList hnominal
  have hprice : f.nominalPrice skus sku e = f'.nominalPrice skus' sku e :=
    congrArg ItemState.nominalPrice hnominal
  have hprovenance : f.nominalProvenance skus sku e = f'.nominalProvenance skus' sku e :=
    congrArg ItemState.provenance hnominal
  have hunder : f.undercuts skus sku e = f'.undercuts skus' sku e := by
    funext row
    rw [undercuts, undercuts, hprice]
  rw [priced, priced, resolvedPrice, resolvedPrice, provenance, provenance, hbase, hpercent,
    hresolved, hlist, hprice, hprovenance, hunder, h.special, h.last]

end Facts

lemma get?_ofRows_filter (rows : List Transaction) (sku : String) :
    (LastPrices.ofRows rows).get? sku =
      (LastPrices.ofRows (rows.filter fun row => decide (row.sku = sku))).get? sku := by
  rw [LastPrices.get?_ofRows, LastPrices.get?_ofRows, LastPrices.rowsFor, LastPrices.rowsFor,
    List.filter_filter]
  simp only [Bool.and_self]

lemma get?_netStock_filter (movements : List StockMovement) (sku : String) :
    (netStock movements).get? sku =
      (netStock (movements.filter fun m => decide (m.sku = sku))).get? sku := by
  refine Keyed.get?_foldl_filter ?_ ?_ movements
  · intro stock m hother
    rw [addMovement, Keyed.get?_modify, if_neg (Ne.symm hother)]
  · rintro stock stock' m rfl h
    rw [addMovement, addMovement, Keyed.get?_modify, Keyed.get?_modify, if_pos rfl, if_pos rfl, h]

end ErpGateway.Pricing
