import ErpGateway.Pricing.Cascade
import Mathlib.Tactic.Common

/-! The cascade item by item: what the stages leave of an item, said in one go from the rows that
were answered. -/

namespace ErpGateway.Pricing

structure Facts where
  account : String
  parent : Option String
  catalog : List CatalogEntry
  accountRules : List DiscountRule
  accountPrices : List ListPrice
  parentRules : List DiscountRule
  parentPrices : List ListPrice
  specials : List SpecialPrice
  transactions : List Transaction

structure Choice where
  rule : DiscountRule
  prices : List ListPrice
  provenance : Provenance

def CatalogEntry.ruleFor? (rules : List DiscountRule) (e : CatalogEntry) : Option DiscountRule :=
  e.discountCode.bind fun code =>
    rules.find? fun r => Text.trimmed r.discountCode == Text.trimmed code

namespace Facts

variable (f : Facts)

def listed? (sku : String) : Option CatalogEntry :=
  catalogEntry? f.catalog sku

def resolvedByAccount (skus : List String) : Nat :=
  skus.countP fun sku =>
    ((f.listed? sku).bind (CatalogEntry.ruleFor? f.accountRules)).isSome

def choice? (skus : List String) (e : CatalogEntry) : Option Choice :=
  match e.ruleFor? f.accountRules with
  | some rule => some ⟨rule, f.accountPrices, .accountDiscount⟩
  | none =>
    if f.resolvedByAccount skus = 0 ∧ f.parent.isSome then
      (e.ruleFor? f.parentRules).map fun rule => ⟨rule, f.parentPrices, .parentDiscount⟩
    else none

def specialOf? (owner sku : String) : Option SpecialPrice :=
  f.specials.find? fun p => p.sku == sku && Text.trimmed p.accountId == owner

def special? (sku : String) : Option SpecialPrice :=
  (f.specialOf? f.account sku).or (f.parent.bind fun parent => f.specialOf? parent sku)

def last? (sku : String) : Option Transaction :=
  (LastPrices.ofRows f.transactions).get? sku

variable (skus : List String) (list : Int) (sku : String) (e : CatalogEntry)

def ruleBase (c : Choice) : Option Float :=
  (listPrice? c.prices sku c.rule.priceList).or e.price

def basePrice : Option Float :=
  match f.special? sku, f.choice? skus e with
  | some special, _ => some (discounted special.price special.percent)
  | none, some c => ruleBase sku e c
  | none, none => e.price

def nominalPrice : Option Float :=
  match f.special? sku, f.choice? skus e with
  | some special, _ => some (discounted special.price special.percent)
  | none, some c => (ruleBase sku e c).map fun p => discounted p c.rule.percent
  | none, none => e.price

def nominalProvenance : Provenance :=
  match f.special? sku, f.choice? skus e with
  | some _, _ => .specialPrice
  | none, some c => c.provenance
  | none, none => .basePrice

def percent : Float :=
  match f.special? sku, f.choice? skus e with
  | some special, _ => special.percent
  | none, some c => c.rule.percent
  | none, none => 0.0

-- a special price does not change the list
def priceList : Option Int :=
  match f.choice? skus e with
  | some c => some c.rule.priceList
  | none => e.priceList

def undercuts (row : Transaction) : Bool :=
  (f.nominalPrice skus sku e).any fun price => row.price < price

def resolvedPrice : Option Float :=
  match f.last? sku with
  | some row =>
    if f.priceList skus e = some list ∨ f.undercuts skus sku e row then some row.price
    else f.nominalPrice skus sku e
  | none => f.nominalPrice skus sku e

def provenance : Provenance :=
  match f.last? sku with
  | some row =>
    if f.priceList skus e = some list then .lastPricePriceList
    else if f.undercuts skus sku e row then .lastPrice
    else f.nominalProvenance skus sku e
  | none => f.nominalProvenance skus sku e

def priced : ItemState where
  sku := sku
  known := true
  basePrice := f.basePrice skus sku e
  currency := ((f.special? sku).bind SpecialPrice.currency).or e.priceCurrency
  vatExempt := e.vatExempt
  discountCode := e.discountCode
  discountPercent := f.percent skus sku e
  discountResolved := (f.choice? skus e).isSome
  specialPrice := (f.special? sku).isSome
  specialAmount := (f.special? sku).map fun special =>
    special.price - discounted special.price special.percent
  priceList := f.priceList skus e
  nominalPrice := (f.nominalPrice skus sku e).map ItemState.clamped
  resolvedPrice := (f.resolvedPrice skus list sku e).map ItemState.clamped
  lastPrice := (f.last? sku).map Transaction.price
  provenance := f.provenance skus list sku e

def ruleStages (resolved : Nat) : List Stage :=
  .rules f.accountRules f.accountPrices .accountDiscount ::
    if resolved = 0 ∧ f.parent.isSome then [.rules f.parentRules f.parentPrices .parentDiscount]
    else []

def laterStages : List Stage :=
  let last := LastPrices.ofRows f.transactions
  [.specials f.specials f.account f.parent, .floor last, .lastPriceList last list]

def staged : ItemState :=
  Stage.clamp.apply (Stage.run (f.laterStages list)
    (Stage.run (f.ruleStages (f.resolvedByAccount skus)) (ItemState.seed f.catalog sku)))

end Facts

namespace ItemState

variable {rules : List DiscountRule} {prices : List ListPrice} {provenance : Provenance}
  {s : ItemState}

lemma resolvingRule?_nil : s.resolvingRule? [] = none := by
  have hrule : s.ruleFor? [] = none := by
    rw [ruleFor?]
    cases s.discountCode <;> rfl
  rw [resolvingRule?, hrule, ite_self]

lemma applyRules_nil : s.applyRules [] prices provenance = s := by
  rw [applyRules, resolvingRule?_nil]

lemma applyRules_of_resolved (h : s.discountResolved = true) :
    s.applyRules rules prices provenance = s := by
  rw [applyRules, resolvingRule?, if_pos h]

lemma applyRules_of_ruleFor? {rule : DiscountRule} (h : s.discountResolved = false)
    (hrule : s.ruleFor? rules = some rule) :
    s.applyRules rules prices provenance = s.applyRule prices provenance rule := by
  rw [applyRules, resolvingRule?, if_neg (by simp [h]), hrule]

lemma applyRules_of_ruleFor?_none (hrule : s.ruleFor? rules = none) :
    s.applyRules rules prices provenance = s := by
  rw [applyRules, resolvingRule?, hrule, ite_self]

def selling (s : ItemState) (row : Transaction) (provenance : Provenance) : ItemState :=
  { s with
    lastPrice := some row.price
    resolvedPrice := some row.price
    provenance := provenance }

def noting (s : ItemState) (row : Transaction) : ItemState :=
  { s with lastPrice := some row.price }

section Last

variable {last : LastPrices} {list : Int} {row : Transaction}

lemma applyFloor_of_none (h : last.get? s.sku = none) : s.applyFloor last = s := by
  rw [applyFloor, h]

lemma applyFloor_of_some (h : last.get? s.sku = some row) : s.applyFloor last =
    if s.resolvedPrice.any fun price => row.price < price then s.selling row .lastPrice
    else s.noting row := by
  rw [applyFloor, h]
  rfl

lemma applyLastPriceList_of_ne (h : s.priceList ≠ some list) :
    s.applyLastPriceList last list = s := by
  rw [applyLastPriceList, if_pos h]

lemma applyLastPriceList_of_none (h : last.get? s.sku = none) :
    s.applyLastPriceList last list = s := by
  rw [applyLastPriceList, h, ite_self]

lemma applyLastPriceList_of_some (hlist : s.priceList = some list)
    (h : last.get? s.sku = some row) :
    s.applyLastPriceList last list = s.selling row .lastPricePriceList := by
  rw [applyLastPriceList, if_neg (not_not_intro hlist), h]
  rfl

lemma applyLastPriceList_applyFloor (h : last.get? s.sku = some row) :
    (s.applyFloor last).applyLastPriceList last list =
      if s.priceList = some list then s.selling row .lastPricePriceList
      else if s.resolvedPrice.any fun price => row.price < price then s.selling row .lastPrice
      else s.noting row := by
  rw [applyFloor_of_some h]
  by_cases hlist : s.priceList = some list
  · rw [if_pos hlist]
    split
    · exact applyLastPriceList_of_some (s := s.selling row .lastPrice) hlist h
    · exact applyLastPriceList_of_some (s := s.noting row) hlist h
  · rw [if_neg hlist]
    split
    · exact applyLastPriceList_of_ne (s := s.selling row .lastPrice) hlist
    · exact applyLastPriceList_of_ne (s := s.noting row) hlist

end Last

end ItemState

namespace Stage

lemma apply_keeps (stage : Stage) (s : ItemState) :
    (stage.apply s).sku = s.sku ∧ (stage.apply s).known = s.known := by
  cases stage with
  | rules rows prices provenance =>
    rw [apply, ItemState.applyRules]
    split <;> exact ⟨rfl, rfl⟩
  | specials rows account parent =>
    rw [apply, ItemState.applySpecials]
    split <;> exact ⟨rfl, rfl⟩
  | floor last =>
    rw [apply, ItemState.applyFloor]
    split
    · exact ⟨rfl, rfl⟩
    · split <;> exact ⟨rfl, rfl⟩
  | lastPriceList last list =>
    rw [apply, ItemState.applyLastPriceList]
    split
    · exact ⟨rfl, rfl⟩
    · split <;> exact ⟨rfl, rfl⟩
  | clamp => exact ⟨rfl, rfl⟩

lemma run_keeps (stages : List Stage) (s : ItemState) :
    (run stages s).sku = s.sku ∧ (run stages s).known = s.known := by
  induction stages generalizing s with
  | nil => exact ⟨rfl, rfl⟩
  | cons stage stages ih =>
    obtain ⟨hsku, hknown⟩ := ih (stage.apply s)
    exact ⟨hsku.trans (stage.apply_keeps s).1, hknown.trans (stage.apply_keeps s).2⟩

end Stage

namespace Facts

variable (f : Facts) (skus : List String) (list : Int) {sku : String} {e : CatalogEntry}

lemma resolvedCount_seed :
    resolvedCount f.accountRules (skus.map (ItemState.seed f.catalog)) =
      f.resolvedByAccount skus := by
  rw [resolvedCount, resolvedByAccount, List.countP_map]
  congr 1
  funext sku
  rw [Function.comp_apply, ItemState.seed, listed?]
  cases catalogEntry? f.catalog sku <;> rfl

def seeded (sku : String) (e : CatalogEntry) : ItemState where
  sku := sku
  known := true
  basePrice := e.price
  currency := e.priceCurrency
  vatExempt := e.vatExempt
  discountCode := e.discountCode
  priceList := e.priceList
  nominalPrice := e.price
  resolvedPrice := e.price

lemma seed_eq (h : f.listed? sku = some e) :
    ItemState.seed f.catalog sku = seeded sku e := by
  rw [listed?] at h
  rw [ItemState.seed, h]
  rfl

lemma run_ruleStages (h : f.listed? sku = some e) :
    Stage.run (f.ruleStages (f.resolvedByAccount skus)) (ItemState.seed f.catalog sku) =
      match f.choice? skus e with
      | some c => (seeded sku e).applyRule c.prices c.provenance c.rule
      | none => seeded sku e := by
  have hrule : ∀ rules, (seeded sku e).ruleFor? rules = e.ruleFor? rules := fun _ => rfl
  rw [f.seed_eq h, ruleStages, choice?, Stage.run, List.foldl_cons, Stage.apply]
  cases haccount : e.ruleFor? f.accountRules with
  | some rule =>
    -- an item that the account's rule resolves passes the parent's rules unchanged
    rw [ItemState.applyRules_of_ruleFor? rfl ((hrule _).trans haccount)]
    split
    · rw [List.foldl_cons, Stage.apply, ItemState.applyRules_of_resolved rfl]
      rfl
    · rfl
  | none =>
    rw [ItemState.applyRules_of_ruleFor?_none ((hrule _).trans haccount)]
    dsimp only
    split
    · cases hparent : e.ruleFor? f.parentRules with
      | some rule => exact ItemState.applyRules_of_ruleFor? rfl ((hrule _).trans hparent)
      | none => exact ItemState.applyRules_of_ruleFor?_none ((hrule _).trans hparent)
    · rfl

def nominal (sku : String) (e : CatalogEntry) : ItemState where
  sku := sku
  known := true
  basePrice := f.basePrice skus sku e
  currency := ((f.special? sku).bind SpecialPrice.currency).or e.priceCurrency
  vatExempt := e.vatExempt
  discountCode := e.discountCode
  discountPercent := f.percent skus sku e
  discountResolved := (f.choice? skus e).isSome
  specialPrice := (f.special? sku).isSome
  specialAmount := (f.special? sku).map fun special =>
    special.price - discounted special.price special.percent
  priceList := f.priceList skus e
  nominalPrice := f.nominalPrice skus sku e
  resolvedPrice := f.nominalPrice skus sku e
  provenance := f.nominalProvenance skus sku e

lemma specialFor?_eq (s : ItemState) :
    s.specialFor? f.specials f.account f.parent = f.special? s.sku := rfl

lemma applySpecials_ruleStages (h : f.listed? sku = some e) :
    (Stage.run (f.ruleStages (f.resolvedByAccount skus))
      (ItemState.seed f.catalog sku)).applySpecials f.specials f.account f.parent =
    f.nominal skus sku e := by
  rw [f.run_ruleStages skus h, ItemState.applySpecials, specialFor?_eq, nominal, basePrice, percent,
    priceList, nominalPrice, nominalProvenance]
  cases f.choice? skus e with
  | some c =>
    have hsku : ((seeded sku e).applyRule c.prices c.provenance c.rule).sku = sku := rfl
    dsimp only
    rw [hsku]
    cases f.special? sku <;> rfl
  | none =>
    have hsku : (seeded sku e).sku = sku := rfl
    dsimp only
    rw [hsku]
    cases f.special? sku <;> rfl

theorem staged_eq_priced (h : f.listed? sku = some e) :
    f.staged skus list sku = f.priced skus list sku e := by
  have hstaged : f.staged skus list sku =
      (((f.nominal skus sku e).applyFloor (LastPrices.ofRows f.transactions)).applyLastPriceList
        (LastPrices.ofRows f.transactions) list).clamp := by
    rw [← f.applySpecials_ruleStages skus h]
    rfl
  rw [hstaged]
  have hget : (LastPrices.ofRows f.transactions).get? (f.nominal skus sku e).sku =
      f.last? sku := rfl
  cases hlast : f.last? sku with
  | none =>
    rw [hlast] at hget
    rw [ItemState.applyFloor_of_none hget, ItemState.applyLastPriceList_of_none hget, priced,
      resolvedPrice, provenance, hlast]
    rfl
  | some row =>
    -- the two stages compare with the list and the price that the special prices left
    rw [hlast] at hget
    have hlist : (f.nominal skus sku e).priceList = f.priceList skus e := rfl
    have hunder : ((f.nominal skus sku e).resolvedPrice.any fun price => row.price < price) =
        f.undercuts skus sku e row := rfl
    rw [ItemState.applyLastPriceList_applyFloor hget, hlist, hunder, priced, resolvedPrice,
      provenance, hlast]
    dsimp only
    by_cases hsentinel : f.priceList skus e = some list
    · rw [if_pos hsentinel, if_pos (Or.inl hsentinel), if_pos hsentinel]
      rfl
    · rw [if_neg hsentinel, if_neg hsentinel]
      simp only [hsentinel, false_or]
      split <;> rfl

lemma staged_of_catalog_only (hparent : f.parent = none) (hrules : f.accountRules = [])
    (hspecials : f.specials = []) (htransactions : f.transactions = []) (sku : String) :
    f.staged skus list sku = (ItemState.seed f.catalog sku).clamp := by
  have hruled : ∀ s, Stage.run (f.ruleStages (f.resolvedByAccount skus)) s = s := by
    intro s
    rw [ruleStages, hrules, hparent, if_neg (by simp)]
    exact ItemState.applyRules_nil
  have hlater : ∀ s, Stage.run (f.laterStages list) s = s := by
    intro s
    rw [laterStages, hspecials, hparent, htransactions]
    have hspecial : s.applySpecials [] f.account none = s := rfl
    have hfloor : s.applyFloor [] = s := rfl
    have hlist : s.applyLastPriceList [] list = s := ItemState.applyLastPriceList_of_none rfl
    change ((s.applySpecials [] f.account none).applyFloor []).applyLastPriceList [] list = s
    rw [hspecial, hfloor, hlist]
  rw [staged, hruled, hlater]
  rfl

lemma sku_staged (sku : String) : (f.staged skus list sku).sku = sku := by
  rw [staged, (Stage.apply_keeps _ _).1, (Stage.run_keeps _ _).1, (Stage.run_keeps _ _).1,
    ItemState.seed]
  cases catalogEntry? f.catalog sku <;> rfl

lemma known_staged (sku : String) :
    (f.staged skus list sku).known = (f.listed? sku).isSome := by
  rw [staged, (Stage.apply_keeps _ _).2, (Stage.run_keeps _ _).2, (Stage.run_keeps _ _).2,
    ItemState.seed, listed?]
  cases catalogEntry? f.catalog sku <;> rfl

end Facts

end ErpGateway.Pricing
