import ErpGateway.Proofs.Pricing.ClosedForm
import Mathlib.Data.List.Forall2

namespace ErpGateway.Pricing

def Provenance.IsLast (p : Provenance) : Prop :=
  p = .lastPrice ∨ p = .lastPricePriceList

def Provenance.IsDiscount (p : Provenance) : Prop :=
  p = .accountDiscount ∨ p = .parentDiscount

def Stage.IsTagged : Stage → Prop
  | .rules _ _ provenance => provenance.IsDiscount
  | _ => True

def Stage.runAll (stages : List Stage) (states : List ItemState) : List ItemState :=
  stages.foldl (fun states stage => states.map stage.apply) states

lemma Stage.runAll_eq_map (stages : List Stage) (states : List ItemState) :
    Stage.runAll stages states = states.map (Stage.run stages) := by
  induction stages generalizing states with
  | nil => exact (List.map_id states).symm
  | cons stage stages ih =>
    refine (ih _).trans ?_
    rw [List.map_map]
    rfl

namespace ItemState

structure Consistent (seeded s : ItemState) : Prop where
  sku : s.sku = seeded.sku
  known : s.known = seeded.known
  vatExempt : s.vatExempt = seeded.vatExempt
  discountCode : s.discountCode = seeded.discountCode
  resolved_eq_nominal : ¬ s.provenance.IsLast → s.resolvedPrice = s.nominalPrice
  last_isSome : s.provenance.IsLast → s.lastPrice.isSome
  resolved_isSome : s.nominalPrice.isSome → s.resolvedPrice.isSome
  special_iff : s.specialPrice = true ↔ s.specialAmount.isSome
  discount_resolved : s.provenance.IsDiscount → s.discountResolved = true
  special_price : s.provenance = .specialPrice → s.specialPrice = true
  base_price : s.provenance = .basePrice → s.discountResolved = false ∧ s.specialPrice = false
  unknown : s.known = false → s.discountResolved = false
  ruled : s.discountResolved = true → s.discountCode.isSome ∧ s.priceList.isSome

lemma not_isLast_of_isDiscount {p : Provenance} (h : p.IsDiscount) : ¬ p.IsLast := by
  rcases h with rfl | rfl <;> rintro (h | h) <;> cases h

lemma consistent_seed (catalog : List CatalogEntry) (sku : String) :
    Consistent (seed catalog sku) (seed catalog sku) := by
  have hbase : (seed catalog sku).provenance = .basePrice := by
    rw [seed]
    split <;> rfl
  have hdiscount : (seed catalog sku).discountResolved = false := by
    rw [seed]
    split <;> rfl
  have hspecial : (seed catalog sku).specialPrice = false ∧
      (seed catalog sku).specialAmount = none := by
    rw [seed]
    split <;> exact ⟨rfl, rfl⟩
  have hprices : (seed catalog sku).resolvedPrice = (seed catalog sku).nominalPrice := by
    rw [seed]
    split <;> rfl
  exact
    { sku := rfl
      known := rfl
      vatExempt := rfl
      discountCode := rfl
      resolved_eq_nominal := fun _ => hprices
      last_isSome := by rw [hbase]; rintro (h | h) <;> cases h
      resolved_isSome := by rw [hprices]; exact id
      special_iff := by simp [hspecial]
      discount_resolved := by rw [hbase]; rintro (h | h) <;> cases h
      special_price := by rw [hbase]; intro h; cases h
      base_price := fun _ => ⟨hdiscount, hspecial.1⟩
      unknown := fun _ => hdiscount
      ruled := by rw [hdiscount]; intro h; cases h }

lemma discountCode_of_unknown {catalog : List CatalogEntry} {sku : String}
    (h : (seed catalog sku).known = false) : (seed catalog sku).discountCode = none := by
  rw [seed] at h ⊢
  split at h
  · rfl
  · cases h

section Steps

variable {seeded s : ItemState} (h : Consistent seeded s)
include h

lemma Consistent.applyRule (hseeded : seeded.known = false → seeded.discountCode = none)
    {rules : List DiscountRule} {rule : DiscountRule} (hrule : s.ruleFor? rules = some rule)
    {provenance : Provenance} (hprovenance : provenance.IsDiscount) (prices : List ListPrice) :
    Consistent seeded (s.applyRule prices provenance rule) where
  sku := h.sku
  known := h.known
  vatExempt := h.vatExempt
  discountCode := h.discountCode
  resolved_eq_nominal _ := rfl
  last_isSome hlast := absurd hlast (not_isLast_of_isDiscount hprovenance)
  resolved_isSome := id
  special_iff := h.special_iff
  discount_resolved _ := rfl
  special_price hspecial := by
    rcases hprovenance with rfl | rfl <;> cases hspecial
  base_price hbase := by
    rcases hprovenance with rfl | rfl <;> cases hbase
  unknown hknown := by
    -- without a discount code no rule is for the item
    have hcode : s.discountCode = none := by
      rw [h.discountCode]
      exact hseeded (h.known.symm.trans hknown)
    rw [ruleFor?, hcode] at hrule
    cases hrule
  ruled _ := by
    refine ⟨?_, rfl⟩
    change s.discountCode.isSome = true
    rw [ruleFor?] at hrule
    obtain ⟨code, hcode, -⟩ := Option.bind_eq_some_iff.mp hrule
    rw [hcode]
    rfl

lemma Consistent.applySpecial (special : SpecialPrice) :
    Consistent seeded (s.applySpecial special) where
  sku := h.sku
  known := h.known
  vatExempt := h.vatExempt
  discountCode := h.discountCode
  resolved_eq_nominal _ := rfl
  last_isSome := by rintro (hlast | hlast) <;> cases hlast
  resolved_isSome := id
  special_iff := ⟨fun _ => rfl, fun _ => rfl⟩
  discount_resolved := by rintro (hdiscount | hdiscount) <;> cases hdiscount
  special_price _ := rfl
  base_price hbase := by cases hbase
  unknown := h.unknown
  ruled := h.ruled

lemma Consistent.noting (row : Transaction) : Consistent seeded (s.noting row) where
  sku := h.sku
  known := h.known
  vatExempt := h.vatExempt
  discountCode := h.discountCode
  resolved_eq_nominal := h.resolved_eq_nominal
  last_isSome _ := rfl
  resolved_isSome := h.resolved_isSome
  special_iff := h.special_iff
  discount_resolved := h.discount_resolved
  special_price := h.special_price
  base_price := h.base_price
  unknown := h.unknown
  ruled := h.ruled

lemma Consistent.selling (row : Transaction) {provenance : Provenance}
    (hprovenance : provenance.IsLast) : Consistent seeded (s.selling row provenance) where
  sku := h.sku
  known := h.known
  vatExempt := h.vatExempt
  discountCode := h.discountCode
  resolved_eq_nominal hlast := absurd hprovenance hlast
  last_isSome _ := rfl
  resolved_isSome _ := rfl
  special_iff := h.special_iff
  discount_resolved hdiscount := absurd hprovenance (not_isLast_of_isDiscount hdiscount)
  special_price hspecial := by
    rcases hprovenance with rfl | rfl <;> cases hspecial
  base_price hbase := by
    rcases hprovenance with rfl | rfl <;> cases hbase
  unknown := h.unknown
  ruled := h.ruled

lemma Consistent.clamp : Consistent seeded s.clamp where
  sku := h.sku
  known := h.known
  vatExempt := h.vatExempt
  discountCode := h.discountCode
  resolved_eq_nominal hlast := congrArg (Option.map clamped) (h.resolved_eq_nominal hlast)
  last_isSome := h.last_isSome
  resolved_isSome hnominal := by
    change (s.resolvedPrice.map clamped).isSome = true
    rw [Option.isSome_map]
    apply h.resolved_isSome
    rwa [← Option.isSome_map (f := clamped)]
  special_iff := h.special_iff
  discount_resolved := h.discount_resolved
  special_price := h.special_price
  base_price := h.base_price
  unknown := h.unknown
  ruled := h.ruled

lemma Consistent.apply (hseeded : seeded.known = false → seeded.discountCode = none)
    {stage : Stage} (hstage : stage.IsTagged) : Consistent seeded (stage.apply s) := by
  cases stage with
  | rules rows prices provenance =>
    change Consistent seeded (s.applyRules rows prices provenance)
    cases hresolved : s.discountResolved with
    | true =>
      rw [applyRules_of_resolved hresolved]
      exact h
    | false =>
      cases hrule : s.ruleFor? rows with
      | none =>
        rw [applyRules_of_ruleFor?_none hrule]
        exact h
      | some rule =>
        rw [applyRules_of_ruleFor? hresolved hrule]
        exact h.applyRule hseeded hrule hstage prices
  | specials rows account parent =>
    rw [Stage.apply, applySpecials]
    split
    · exact h.applySpecial _
    · exact h
  | floor last =>
    rw [Stage.apply]
    cases hlast : last.get? s.sku with
    | none =>
      rw [applyFloor_of_none hlast]
      exact h
    | some row =>
      rw [applyFloor_of_some hlast]
      split
      · exact h.selling row (Or.inl rfl)
      · exact h.noting row
  | lastPriceList last list =>
    rw [Stage.apply]
    by_cases hlist : s.priceList = some list
    · cases hlast : last.get? s.sku with
      | none =>
        rw [applyLastPriceList_of_none hlast]
        exact h
      | some row =>
        rw [applyLastPriceList_of_some hlist hlast]
        exact h.selling row (Or.inr rfl)
    · rw [applyLastPriceList_of_ne hlist]
      exact h
  | clamp => exact h.clamp

lemma Consistent.run (hseeded : seeded.known = false → seeded.discountCode = none)
    {stages : List Stage} (hstages : ∀ stage ∈ stages, stage.IsTagged) :
    Consistent seeded (Stage.run stages s) := by
  induction stages generalizing s with
  | nil => exact h
  | cons stage stages ih =>
    have hstep : Consistent seeded (stage.apply s) := h.apply hseeded (hstages stage (by simp))
    exact ih hstep fun later hlater => hstages later (by simp [hlater])

end Steps

lemma apply_of_resolved {s : ItemState} (h : s.discountResolved = true) (stage : Stage) :
    (stage.apply s).discountResolved = true ∧ (stage.apply s).priceList = s.priceList := by
  cases stage with
  | rules rows prices provenance =>
    rw [Stage.apply, applyRules_of_resolved h]
    exact ⟨h, rfl⟩
  | specials rows account parent =>
    rw [Stage.apply, applySpecials]
    split <;> exact ⟨h, rfl⟩
  | floor last =>
    rw [Stage.apply, applyFloor]
    split
    · exact ⟨h, rfl⟩
    · split <;> exact ⟨h, rfl⟩
  | lastPriceList last list =>
    rw [Stage.apply, applyLastPriceList]
    split
    · exact ⟨h, rfl⟩
    · split <;> exact ⟨h, rfl⟩
  | clamp => exact ⟨h, rfl⟩

lemma run_of_resolved {s : ItemState} (h : s.discountResolved = true) (stages : List Stage) :
    (Stage.run stages s).discountResolved = true ∧
      (Stage.run stages s).priceList = s.priceList := by
  induction stages generalizing s with
  | nil => exact ⟨h, rfl⟩
  | cons stage stages ih =>
    obtain ⟨hresolved, hlist⟩ := apply_of_resolved h stage
    obtain ⟨hlater, hlists⟩ := ih hresolved
    exact ⟨hlater, hlists.trans hlist⟩

end ItemState

/-- Whatever stages the items of a request go through, every item keeps its place and its state is
consistent with its catalog row; a discount that a rule gave is never taken back, nor its price list
exchanged, and no further rule is applied. -/
theorem consistent_runAll (skus : List String) (catalog : List CatalogEntry) (stages : List Stage)
    (hstages : ∀ stage ∈ stages, stage.IsTagged) :
    List.Forall₂ (fun sku s => s.sku = sku ∧ ItemState.Consistent (ItemState.seed catalog sku) s)
        skus (Stage.runAll stages (skus.map (ItemState.seed catalog))) ∧
      ∀ before after, stages = before ++ after →
        List.Forall₂
          (fun s s' => s.discountResolved = true →
            s'.discountResolved = true ∧ s'.priceList = s.priceList ∧
              ∀ rules prices provenance, s.applyRules rules prices provenance = s)
          (Stage.runAll before (skus.map (ItemState.seed catalog)))
          (Stage.runAll stages (skus.map (ItemState.seed catalog))) := by
  constructor
  · rw [Stage.runAll_eq_map, List.map_map, List.forall₂_map_right_iff, List.forall₂_same]
    intro sku _
    have hrun : ItemState.Consistent (ItemState.seed catalog sku)
        (Stage.run stages (ItemState.seed catalog sku)) :=
      (ItemState.consistent_seed catalog sku).run ItemState.discountCode_of_unknown hstages
    refine ⟨?_, hrun⟩
    rw [Function.comp_apply, hrun.sku, ItemState.seed]
    split <;> rfl
  · rintro before after rfl
    rw [Stage.runAll_eq_map, Stage.runAll_eq_map, List.map_map, List.map_map,
      List.forall₂_map_left_iff, List.forall₂_map_right_iff, List.forall₂_same]
    intro sku _ hresolved
    have hrun : Stage.run (before ++ after) (ItemState.seed catalog sku) =
        Stage.run after (Stage.run before (ItemState.seed catalog sku)) := List.foldl_append
    rw [Function.comp_apply, Function.comp_apply, hrun]
    obtain ⟨hkept, hlist⟩ := ItemState.run_of_resolved hresolved after
    exact ⟨hkept, hlist, fun _ _ _ => ItemState.applyRules_of_resolved hresolved⟩

def shelf : List CatalogEntry :=
  [{ sku := "A", itemPrice := some 100.0, discountCode := some "D" }]

def tour : List Stage :=
  [.rules [⟨"D", 3, 10.0⟩] [] .accountDiscount, .floor [("A", ⟨"A", .invoice, 50.0, none, 0⟩)],
    .specials [⟨"A", "10", 80.0, 50.0, none⟩] "10" none, .clamp,
    .rules [⟨"D", 4, 20.0⟩] [] .parentDiscount]

theorem consistent_runAll_tour :
    (∀ stage ∈ tour, stage.IsTagged) ∧
      List.Forall₂
        (fun sku s => s.sku = sku ∧ ItemState.Consistent (ItemState.seed shelf sku) s)
        ["A", "B"] (Stage.runAll tour (["A", "B"].map (ItemState.seed shelf))) ∧
      (Stage.runAll tour (["A", "B"].map (ItemState.seed shelf))).map
          (fun s => (s.discountResolved, s.priceList, s.provenance)) =
        [(true, some 3, .specialPrice), (false, none, .basePrice)] := by
  have htagged : ∀ stage ∈ tour, stage.IsTagged := by
    intro stage hstage
    simp only [tour, List.mem_cons, List.not_mem_nil, or_false] at hstage
    rcases hstage with rfl | rfl | rfl | rfl | rfl
    · exact Or.inl rfl
    · trivial
    · trivial
    · trivial
    · exact Or.inr rfl
  exact ⟨htagged, (consistent_runAll ["A", "B"] shelf tour htagged).1, by decide +kernel⟩

end ErpGateway.Pricing
