import ErpGateway.Proofs.Decimal.Order
import ErpGateway.Proofs.Keyed
import ErpGateway.Proofs.Pricing.Invariant

/-! Negative prices of items whose stages end with the clamp: which of the reported prices the clamp
reaches, and where those that it does not reach come from. -/

namespace ErpGateway.Pricing

section Floats

lemma isFinite_zero : (0.0 : Float).isFinite = true := by
  decide +kernel

lemma not_neg_clamped {price : Float} (h : (ItemState.clamped price).isFinite = true) :
    ¬ ItemState.clamped price < 0.0 := by
  rw [ItemState.clamped] at h ⊢
  split at h
  · rename_i hpos
    rw [if_pos hpos]
    rw [Decimal.lt_iff_ordinal isFinite_zero h] at hpos
    rw [Decimal.lt_iff_ordinal h isFinite_zero]
    omega
  · rename_i hpos
    rw [if_neg hpos, Decimal.lt_iff_ordinal isFinite_zero isFinite_zero]
    exact Int.lt_irrefl _

end Floats

namespace Item

variable (label other : String) (price : Option Float) (item : Item)

lemma get?_prices_putPrice :
    (item.putPrice label price).prices.get? other =
      if other = label then (price.filter Float.isFinite).or (item.prices.get? label)
      else item.prices.get? other := by
  cases hprice : price.filter Float.isFinite with
  | none =>
    have hkept : (item.putPrice label price).prices = item.prices := by rw [putPrice, hprice]
    rw [hkept, Option.none_or]
    split
    · rename_i hlabel
      rw [hlabel]
    · rfl
  | some p =>
    rw [putPrice, hprice]
    exact Keyed.get?_put label other p item.prices

lemma nodup_prices_putPrice (h : (item.prices.map Prod.fst).Nodup) :
    ((item.putPrice label price).prices.map Prod.fst).Nodup := by
  rw [putPrice]
  split
  · exact Keyed.nodup_keys_put h
  · exact h

lemma prices_putSome (key : String) (value : Option Json) :
    (item.putSome key value).prices = item.prices := by
  cases value <;> rfl

end Item

namespace ItemState

def Unclamped (s : ItemState) (price : Float) : Prop :=
  s.basePrice = some price ∨ s.lastPrice = some price

def labelled (s : ItemState) (label : String) : Option Float :=
  if label = "price" then s.basePrice
  else if label = "priceAfterDiscount" then s.nominalPrice
  else if label = "finalPrice" then s.resolvedPrice
  else if label = "lastPrice" then s.lastPrice
  else none

section Reported

variable (s : ItemState) (stock : StockByWarehouse)

def pricedItem : Item :=
  (({ sku := s.sku, stock := stock } : Item).putPrice "price" s.basePrice
    |>.putPrice "priceAfterDiscount" s.nominalPrice
    |>.putPrice "finalPrice" s.resolvedPrice
    |>.putPrice "lastPrice" s.lastPrice)

lemma prices_toItem :
    (s.toItem stock).prices = if s.known then (s.pricedItem stock).prices else [] := by
  rw [toItem]
  cases s.known with
  | false => rfl
  | true => simp [pricedItem, Item.putDetail, Item.prices_putSome]

lemma get?_prices_pricedItem (label : String) :
    (s.pricedItem stock).prices.get? label = (s.labelled label).filter Float.isFinite := by
  simp only [pricedItem, Item.get?_prices_putPrice, labelled]
  by_cases hprice : label = "price"
  · subst hprice
    simp [Keyed.get?]
  · by_cases hnominal : label = "priceAfterDiscount"
    · subst hnominal
      simp [Keyed.get?]
    · by_cases hfinal : label = "finalPrice"
      · subst hfinal
        simp [Keyed.get?]
      · by_cases hlast : label = "lastPrice"
        · subst hlast
          simp [Keyed.get?]
        · simp [hprice, hnominal, hfinal, hlast, Keyed.get?]

lemma nodup_prices_pricedItem : ((s.pricedItem stock).prices.map Prod.fst).Nodup := by
  refine Item.nodup_prices_putPrice _ _ _ (Item.nodup_prices_putPrice _ _ _
    (Item.nodup_prices_putPrice _ _ _ (Item.nodup_prices_putPrice _ _ _ ?_)))
  exact List.nodup_nil

variable {s stock}

lemma mem_prices_toItem_iff {e : String × Float} :
    e ∈ (s.toItem stock).prices ↔
      s.known = true ∧ s.labelled e.1 = some e.2 ∧ e.2.isFinite = true := by
  rw [prices_toItem]
  cases s.known with
  | false => simp
  | true =>
    rw [if_pos rfl, and_iff_right rfl, ← Option.filter_eq_some_iff, ← get?_prices_pricedItem s stock]
    exact ⟨Keyed.get?_of_mem (s.nodup_prices_pricedItem stock), Keyed.mem_of_get?⟩

lemma unclamped_of_labelled_clamp {e : String × Float} (h : s.clamp.labelled e.1 = some e.2)
    (hfinite : e.2.isFinite = true) (hneg : e.2 < 0.0) :
    e.1 = "price" ∧ s.clamp.basePrice = some e.2 ∨
      e.1 = "lastPrice" ∧ s.clamp.lastPrice = some e.2 := by
  have hclamped : ∀ price : Option Float, price.map clamped ≠ some e.2 := by
    intro price hprice
    obtain ⟨p, -, hp⟩ := Option.map_eq_some_iff.mp hprice
    rw [← hp] at hfinite hneg
    exact not_neg_clamped hfinite hneg
  rw [labelled] at h
  split at h
  · exact .inl ⟨‹_›, h⟩
  · split at h
    · exact absurd h (hclamped s.nominalPrice)
    · split at h
      · exact absurd h (hclamped s.resolvedPrice)
      · split at h
        · exact .inr ⟨‹_›, h⟩
        · cases h

end Reported

end ItemState

section Origin

/-- The amounts that a stage may make the base price or the last price of an item: prices on lists,
special prices less their discounts, and last prices. -/
def Stage.Offers (sku : String) (price : Float) : Stage → Prop
  | .rules _ prices _ => ∃ row ∈ prices, row.sku = sku ∧ row.price = price
  | .specials rows _ _ =>
    ∃ row ∈ rows, row.sku = sku ∧ discounted row.price row.percent = price
  | .floor last | .lastPriceList last _ => ∃ row, last.get? sku = some row ∧ row.price = price
  | .clamp => False

variable {s : ItemState} {price : Float}

lemma exists_of_listPrice? {prices : List ListPrice} {sku : String} {list : Int}
    (h : listPrice? prices sku list = some price) :
    ∃ row ∈ prices, row.sku = sku ∧ row.price = price := by
  obtain ⟨row, hrow, rfl⟩ := Option.map_eq_some_iff.mp h
  have hsku := List.find?_some hrow
  rw [Bool.and_eq_true, beq_iff_eq] at hsku
  exact ⟨row, List.mem_reverse.mp (List.mem_of_find?_eq_some hrow), hsku.1, rfl⟩

lemma exists_of_specialFor? {rows : List SpecialPrice} {account : String} {parent : Option String}
    {special : SpecialPrice} (h : s.specialFor? rows account parent = some special) :
    special ∈ rows ∧ special.sku = s.sku := by
  have hfound : ∀ owner, rows.find? (fun p => p.sku == s.sku &&
      Text.trimmed p.accountId == owner) = some special → special ∈ rows ∧ special.sku = s.sku := by
    intro owner hfind
    have hsku := List.find?_some hfind
    rw [Bool.and_eq_true, beq_iff_eq] at hsku
    exact ⟨List.mem_of_find?_eq_some hfind, hsku.1⟩
  rw [ItemState.specialFor?, Option.or_eq_some_iff] at h
  rcases h with h | ⟨-, h⟩
  · exact hfound _ h
  · obtain ⟨owner, -, h⟩ := Option.bind_eq_some_iff.mp h
    exact hfound _ h

lemma unclamped_apply {stage : Stage} (h : (stage.apply s).Unclamped price) :
    s.Unclamped price ∨ stage.Offers s.sku price := by
  cases stage with
  | rules rows prices provenance =>
    rw [Stage.apply, ItemState.applyRules] at h
    split at h
    · rename_i rule _
      rcases h with h | h
      · rcases Option.or_eq_some_iff.mp h with h | ⟨-, h⟩
        · exact .inr (exists_of_listPrice? h)
        · exact .inl (.inl h)
      · exact .inl (.inr h)
    · exact .inl h
  | specials rows account parent =>
    rw [Stage.apply, ItemState.applySpecials] at h
    split at h
    · rename_i special hspecial
      obtain ⟨hmem, hsku⟩ := exists_of_specialFor? hspecial
      rcases h with h | h
      · exact .inr ⟨special, hmem, hsku, Option.some.inj h⟩
      · exact .inl (.inr h)
    · exact .inl h
  | floor last =>
    rw [Stage.apply] at h
    cases hlast : last.get? s.sku with
    | none =>
      rw [ItemState.applyFloor_of_none hlast] at h
      exact .inl h
    | some row =>
      rw [ItemState.applyFloor_of_some hlast] at h
      split at h
      · exact h.imp .inl fun h => ⟨row, hlast, Option.some.inj h⟩
      · exact h.imp .inl fun h => ⟨row, hlast, Option.some.inj h⟩
  | lastPriceList last list =>
    rw [Stage.apply] at h
    by_cases hlist : s.priceList = some list
    · cases hlast : last.get? s.sku with
      | none =>
        rw [ItemState.applyLastPriceList_of_none hlast] at h
        exact .inl h
      | some row =>
        rw [ItemState.applyLastPriceList_of_some hlist hlast] at h
        exact h.imp .inl fun h => ⟨row, hlast, Option.some.inj h⟩
    · rw [ItemState.applyLastPriceList_of_ne hlist] at h
      exact .inl h
  | clamp => exact .inl h

lemma unclamped_run {stages : List Stage} (h : (Stage.run stages s).Unclamped price) :
    s.Unclamped price ∨ ∃ stage ∈ stages, stage.Offers s.sku price := by
  induction stages generalizing s with
  | nil => exact .inl h
  | cons stage stages ih =>
    rcases ih h with h | ⟨later, hlater, hoffers⟩
    · refine (unclamped_apply h).imp id fun hoffers => ⟨stage, List.mem_cons_self, hoffers⟩
    · rw [(Stage.apply_keeps stage s).1] at hoffers
      exact .inr ⟨later, List.mem_cons_of_mem _ hlater, hoffers⟩

lemma unclamped_seed {catalog : List CatalogEntry} {sku : String}
    (h : (ItemState.seed catalog sku).Unclamped price) :
    ∃ e, catalogEntry? catalog sku = some e ∧ e.price = some price := by
  rw [ItemState.seed] at h
  split at h
  · rcases h with h | h <;> cases h
  · rename_i e he
    rcases h with h | h
    · exact ⟨e, he, h⟩
    · cases h

end Origin

/-- The stages of a request end with the clamp. Then the prices after discounts and the final prices
are never negative. An item has a negative price exactly when it is known and its base price or its last
price is a negative number; such an amount is the catalog's price of the item, or one of the stages had
it as a price on a list, as a special price less its discount, or as a last price. -/
theorem negative_prices_of_clamped (skus : List String) (catalog : List CatalogEntry)
    (stages : List Stage) (stock : StockByWarehouse) {s : ItemState}
    (hs : s ∈ Stage.runAll (stages ++ [.clamp]) (skus.map (ItemState.seed catalog))) :
    ((∃ e ∈ (s.toItem stock).prices, e.2 < 0.0) ↔
      s.known = true ∧ ∃ price, s.Unclamped price ∧ price.isFinite = true ∧ price < 0.0) ∧
    ∀ e ∈ (s.toItem stock).prices, e.2 < 0.0 →
      (e.1 = "price" ∧ s.basePrice = some e.2 ∨ e.1 = "lastPrice" ∧ s.lastPrice = some e.2) ∧
      ((∃ row, catalogEntry? catalog s.sku = some row ∧ row.price = some e.2) ∨
        ∃ stage ∈ stages, stage.Offers s.sku e.2) := by
  rw [Stage.runAll_eq_map, List.map_map, List.mem_map] at hs
  obtain ⟨sku, -, rfl⟩ := hs
  have hclamp : Stage.run (stages ++ [.clamp]) (ItemState.seed catalog sku) =
      (Stage.run stages (ItemState.seed catalog sku)).clamp := List.foldl_append
  have hsku : (Stage.run stages (ItemState.seed catalog sku)).clamp.sku = sku := by
    refine (Stage.run_keeps stages _).1.trans ?_
    rw [ItemState.seed]
    split <;> rfl
  have hseed : (ItemState.seed catalog sku).sku = sku := by
    rw [ItemState.seed]
    split <;> rfl
  rw [Function.comp_apply, hclamp, hsku]
  have hreported : ∀ e ∈ ((Stage.run stages (ItemState.seed catalog sku)).clamp.toItem stock).prices,
      e.2 < 0.0 → _ := fun e he hneg =>
    have hmem := ItemState.mem_prices_toItem_iff.mp he
    ItemState.unclamped_of_labelled_clamp hmem.2.1 hmem.2.2 hneg
  refine ⟨⟨?_, ?_⟩, ?_⟩
  · rintro ⟨e, he, hneg⟩
    obtain ⟨hknown, -, hfinite⟩ := ItemState.mem_prices_toItem_iff.mp he
    exact ⟨hknown, e.2, (hreported e he hneg).imp And.right And.right, hfinite, hneg⟩
  · rintro ⟨hknown, price, hbase | hlast, hfinite, hneg⟩
    · exact ⟨("price", price), ItemState.mem_prices_toItem_iff.mpr ⟨hknown, hbase, hfinite⟩, hneg⟩
    · exact ⟨("lastPrice", price),
        ItemState.mem_prices_toItem_iff.mpr ⟨hknown, hlast, hfinite⟩, hneg⟩
  · intro e he hneg
    have hlabel := hreported e he hneg
    refine ⟨hlabel, ?_⟩
    have hunclamped : (Stage.run stages (ItemState.seed catalog sku)).Unclamped e.2 :=
      hlabel.imp And.right And.right
    rcases unclamped_run hunclamped with h | h
    · exact .inl (unclamped_seed h)
    · rw [hseed] at h
      exact .inr h

section Refund

def refundCatalog : List CatalogEntry :=
  [{ sku := "A", itemPrice := some 100.0 }]

def refundStages : List Stage :=
  [.specials [⟨"A", "10", 80.0, 150.0, none⟩] "10" none,
    .floor [("A", ⟨"A", .invoice, -60.0, none, 0⟩)]]

def refunded : ItemState :=
  Stage.run (refundStages ++ [.clamp]) (ItemState.seed refundCatalog "A")

lemma refunded_mem :
    refunded ∈ Stage.runAll (refundStages ++ [.clamp]) (["A"].map (ItemState.seed refundCatalog)) := by
  rw [Stage.runAll_eq_map]
  exact List.mem_cons_self

lemma prices_refunded : (refunded.toItem []).prices =
    [("price", -40.0), ("priceAfterDiscount", 0.0), ("finalPrice", 0.0), ("lastPrice", -60.0)] := by
  decide +kernel

theorem negative_prices_of_clamped_refund :
    refunded ∈ Stage.runAll (refundStages ++ [.clamp]) (["A"].map (ItemState.seed refundCatalog)) ∧
      ("lastPrice", -60.0) ∈ (refunded.toItem []).prices ∧
      ∃ stage ∈ refundStages, stage.Offers "A" (-60.0) := by
  have hprice : ("lastPrice", -60.0) ∈ (refunded.toItem []).prices := by
    rw [prices_refunded]
    exact List.mem_of_getElem? (i := 3) rfl
  refine ⟨refunded_mem, hprice, ?_⟩
  have horigin := (negative_prices_of_clamped ["A"] refundCatalog refundStages [] refunded_mem).2
    _ hprice (by decide +kernel)
  refine horigin.2.resolve_left ?_
  rintro ⟨row, hrow, hneg⟩
  obtain rfl := List.mem_singleton.mp (List.mem_reverse.mp (List.mem_of_find?_eq_some hrow))
  exact absurd hneg (by decide +kernel)

theorem clamped_item_with_negative_prices :
    (refunded.toItem []).prices =
      [("price", -40.0), ("priceAfterDiscount", 0.0), ("finalPrice", 0.0), ("lastPrice", -60.0)] ∧
      refunded ∈ Stage.runAll (refundStages ++ [.clamp]) (["A"].map (ItemState.seed refundCatalog)) ∧
      (-40.0 : Float) < 0.0 ∧ (-60.0 : Float) < 0.0 :=
  ⟨prices_refunded, refunded_mem, by decide +kernel, by decide +kernel⟩

end Refund

end ErpGateway.Pricing
