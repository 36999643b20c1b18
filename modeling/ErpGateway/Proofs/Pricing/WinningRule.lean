import ErpGateway.Pricing.Quote
import ErpGateway.Proofs.Decimal.Order
import ErpGateway.Proofs.Pricing.Least
import Mathlib

namespace ErpGateway.Pricing

open Decimal

section Order

variable (mode : Aggregation) {rules : List GroupRule} {rule : GroupRule}

def percentRank (rule : GroupRule) : WithTop Int :=
  rule.percent.elim ⊤ fun p =>
    ((if mode.prefersLowest then p.orderKey else -p.orderKey : Int) : WithTop Int)

def ruleRank (rule : GroupRule) : WithTop Int ×ₗ String :=
  toLex (percentRank mode rule, rule.ruleType)

lemma outranks_iff (a b : GroupRule) :
    a.outranks mode b = true ↔ percentRank mode a < percentRank mode b := by
  refine noneLast_iff ?_ a.percent b.percent
  intro p q
  cases mode.prefersLowest
  · exact greaterFirst_iff p q
  · exact smallerFirst_iff p q

lemma precedes_iff (a b : GroupRule) :
    a.precedes mode b = true ↔ ruleRank mode a < ruleRank mode b := by
  rw [GroupRule.precedes, ruleRank, ruleRank, Prod.Lex.toLex_lt_toLex, Bool.or_eq_true,
    Bool.and_eq_true, Bool.not_eq_true', ← Bool.not_eq_true, outranks_iff, outranks_iff, not_lt,
    decide_eq_true_iff]
  constructor
  · rintro (hlt | ⟨hle, htype⟩)
    · exact .inl hlt
    · exact hle.lt_or_eq.imp_right fun heq => ⟨heq, htype⟩
  · exact Or.imp_right fun h => ⟨h.1.le, h.2⟩

lemma firstLeast_of_bestRule? (h : bestRule? mode rules = some rule) :
    FirstLeast (ruleRank mode) rules rule :=
  firstLeast_spec (precedes_iff mode) h

end Order

section Fold

variable {pick : Float → Float → Float} {key : Float → Int} {x seed : Float} {xs : List Float}

def Picks (pick : Float → Float → Float) (key : Float → Int) : Prop :=
  ∀ a b, a.isFinite = true → b.isFinite = true →
    (pick a b = a ∨ pick a b = b) ∧ key a ≤ key (pick a b) ∧ key b ≤ key (pick a b)

lemma picks_greater : Picks greater ordinal := by
  intro a b ha hb
  rw [greater]
  split
  · rename_i hlt
    exact ⟨.inr rfl, ((lt_iff_ordinal ha hb).mp hlt).le, le_rfl⟩
  · rename_i hnot
    exact ⟨.inl rfl, le_rfl, not_lt.mp fun hlt => hnot ((lt_iff_ordinal ha hb).mpr hlt)⟩

lemma picks_lesser : Picks lesser fun x => -ordinal x := by
  intro a b ha hb
  rw [lesser]
  split
  · rename_i hlt
    have hle := ((lt_iff_ordinal hb ha).mp hlt).le
    exact ⟨.inr rfl, Int.neg_le_neg hle, le_rfl⟩
  · rename_i hnot
    have hle : ordinal a ≤ ordinal b := not_lt.mp fun hlt => hnot ((lt_iff_ordinal hb ha).mpr hlt)
    exact ⟨.inl rfl, le_rfl, Int.neg_le_neg hle⟩

lemma Picks.foldl (hpick : Picks pick key) (hseed : seed.isFinite = true)
    (hxs : ∀ x ∈ xs, x.isFinite = true) :
    xs.foldl pick seed ∈ seed :: xs ∧ ∀ x ∈ seed :: xs, key x ≤ key (xs.foldl pick seed) := by
  induction xs generalizing seed with
  | nil => simp
  | cons x xs ih =>
    rw [List.forall_mem_cons] at hxs
    obtain ⟨htaken, hle, hle'⟩ := hpick seed x hseed hxs.1
    have hfinite : (pick seed x).isFinite = true := by
      rcases htaken with h | h <;> rw [h]
      · exact hseed
      · exact hxs.1
    -- the rest is folded from what is picked here, which stands above the seed and above `x`
    obtain ⟨hmem, hall⟩ := ih hfinite hxs.2
    rw [List.forall_mem_cons] at hall
    rw [List.foldl_cons]
    refine ⟨?_, ?_⟩
    · rcases List.mem_cons.mp hmem with h | h
      · rw [h]
        rcases htaken with h | h <;> simp [h]
      · exact List.mem_cons_of_mem _ (List.mem_cons_of_mem _ h)
    · rw [List.forall_mem_cons, List.forall_mem_cons]
      exact ⟨hle.trans hall.1, hle'.trans hall.1, hall.2⟩

lemma Picks.key_foldl (hpick : Picks pick key) (hseed : seed.isFinite = true)
    (hbelow : ∀ x, x.isFinite = true → key seed ≤ key x) (hxs : ∀ x ∈ xs, x.isFinite = true)
    (hx : x ∈ xs) (hmax : ∀ y ∈ xs, key y ≤ key x) : key x = key (xs.foldl pick seed) := by
  obtain ⟨hmem, hle⟩ := hpick.foldl hseed hxs
  refine le_antisymm (hle x (List.mem_cons_of_mem _ hx)) ?_
  rcases List.mem_cons.mp hmem with h | h
  · rw [h]
    exact hbelow x (hxs x hx)
  · exact hmax _ h

lemma Picks.isFinite_foldl (hpick : Picks pick key) (hseed : seed.isFinite = true)
    (hxs : ∀ x ∈ xs, x.isFinite = true) : (xs.foldl pick seed).isFinite = true := by
  rcases List.mem_cons.mp (hpick.foldl hseed hxs).1 with h | h
  · rwa [h]
  · exact hxs _ h

lemma ordinal_greatestFinite : ordinal greatestFinite = 9218868437227405311 := by
  decide +kernel

lemma ordinal_neg_greatestFinite : ordinal (-greatestFinite) = -9218868437227405311 := by
  decide +kernel

lemma ordinal_bounds (hx : x.isFinite = true) :
    ordinal (-greatestFinite) ≤ ordinal x ∧ ordinal x ≤ ordinal greatestFinite := by
  have hlt := magnitude_lt hx
  rw [twoTo_52] at hlt
  rw [ordinal_greatestFinite, ordinal_neg_greatestFinite, ordinal]
  split <;> omega

end Fold

section Combined

variable {mode : Aggregation} {rules : List GroupRule} {rule other : GroupRule} {p q : Signed}
  {x c : Float} {xs : List Float}

def percentsOf (rules : List GroupRule) : List Float :=
  (rules.filterMap GroupRule.percent).map Signed.value

lemma mem_percentsOf :
    x ∈ percentsOf rules ↔ ∃ rule ∈ rules, ∃ p, rule.percent = some p ∧ p.value = x := by
  rw [percentsOf, List.mem_map]
  constructor
  · rintro ⟨p, hp, rfl⟩
    obtain ⟨rule, hrule, hsome⟩ := List.mem_filterMap.mp hp
    exact ⟨rule, hrule, p, hsome, rfl⟩
  · rintro ⟨rule, hrule, p, hsome, rfl⟩
    exact ⟨p, List.mem_filterMap.mpr ⟨rule, hrule, hsome⟩, rfl⟩

def standing (mode : Aggregation) (x : Float) : Int :=
  if mode.prefersLowest then -ordinal x else ordinal x

lemma not_lt_of_standing (hp : p.IsFinite) (hq : q.IsFinite)
    (h : standing mode q.value ≤ standing mode p.value) :
    if mode.prefersLowest then ¬ q.value < p.value else ¬ p.value < q.value := by
  rw [standing, standing] at h
  rw [lt_iff_ordinal hp.isFinite hq.isFinite, lt_iff_ordinal hq.isFinite hp.isFinite]
  split at h <;> rename_i hmode
  · rw [if_pos hmode]
    omega
  · rw [if_neg hmode]
    omega

lemma combine_isSome_iff : (mode.combine xs).isSome = true ↔ xs ≠ [] := by
  rw [Aggregation.combine.eq_def]
  split <;> simp_all

lemma beq_combine (hmode : mode = .highest ∨ mode = .lowest) (hxs : ∀ x ∈ xs, x.isFinite = true)
    (hx : x ∈ xs) (hmax : ∀ y ∈ xs, standing mode y ≤ standing mode x)
    (hc : mode.combine xs = some c) : (x == c) = true := by
  have hgreatest : greatestFinite.isFinite = true := by decide +kernel
  have hleast : (-greatestFinite).isFinite = true := by decide +kernel
  have hsome : xs.isEmpty = false := by simpa using List.ne_nil_of_mem hx
  rw [Aggregation.combine.eq_def, hsome] at hc
  rcases hmode with rfl | rfl
  · obtain rfl := Option.some.inj hc
    rw [beq_iff_ordinal (hxs x hx) (picks_greater.isFinite_foldl hleast hxs)]
    exact picks_greater.key_foldl hleast (fun y hy => (ordinal_bounds hy).1) hxs hx hmax
  · obtain rfl := Option.some.inj hc
    rw [beq_iff_ordinal (hxs x hx) (picks_lesser.isFinite_foldl hgreatest hxs), ← neg_inj]
    exact picks_lesser.key_foldl hgreatest (fun y hy => Int.neg_le_neg (ordinal_bounds hy).2) hxs hx
      hmax

lemma percentRank_le (h : FirstLeast (ruleRank mode) rules rule) (hother : other ∈ rules) :
    percentRank mode rule ≤ percentRank mode other := by
  have hle := h.le hother
  rw [ruleRank, ruleRank, Prod.Lex.toLex_le_toLex] at hle
  exact hle.elim le_of_lt fun heq => heq.1.le

lemma standing_le (h : FirstLeast (ruleRank mode) rules rule) (hother : other ∈ rules)
    (hq : other.percent = some q) (hfinite : ∀ p, rule.percent = some p → p.IsFinite)
    (hq' : q.IsFinite) :
    ∃ p, rule.percent = some p ∧ standing mode q.value ≤ standing mode p.value := by
  have hle := percentRank_le h hother
  rw [percentRank, percentRank, hq] at hle
  cases hp : rule.percent with
  | none =>
    rw [hp] at hle
    simp at hle
  | some p =>
    refine ⟨p, rfl, ?_⟩
    rw [hp, Option.elim_some, Option.elim_some, WithTop.coe_le_coe] at hle
    rw [standing, standing]
    split at hle <;> rename_i hmode
    · rw [if_pos hmode, if_pos hmode]
      exact Int.neg_le_neg (Signed.ordinal_le (hfinite p hp) hq' hle)
    · rw [if_neg hmode, if_neg hmode]
      exact Signed.ordinal_le hq' (hfinite p hp) (Int.neg_le_neg_iff.mp hle)

end Combined

section Quote

variable {terms : Terms} {mode : Aggregation} {rules : List GroupRule} {price percent : Float}

def Terms.Charges (terms : Terms) (price : Float) : Prop :=
  ∃ special, terms.special = some special ∧ special.price = some price ∧ (0.0 : Float) < price

def Terms.Grants (terms : Terms) (percent : Float) : Prop :=
  ∃ special, terms.special = some special ∧ special.percent = some percent

inductive PricedFrom (terms : Terms) (mode : Aggregation) (group : Option Float) :
    PriceSource → Float → Prop
  | specialPrice {price : Float} (hprice : terms.Charges price) :
      PricedFrom terms mode group .specialPrice price
  | specialDiscount {percent : Float} (hprice : ∀ price, ¬ terms.Charges price)
      (hpercent : terms.Grants percent) :
      PricedFrom terms mode group .specialDiscount (discounted terms.base percent)
  | discountGroups {percent : Float} (hprice : ∀ price, ¬ terms.Charges price)
      (hpercent : ∀ percent, ¬ terms.Grants percent) (hgroup : group = some percent) :
      PricedFrom terms mode group (.discountGroups mode) (discounted terms.base percent)
  | promotion {percent : Float} (hprice : ∀ price, ¬ terms.Charges price)
      (hpercent : ∀ percent, ¬ terms.Grants percent) (hgroup : group = none)
      (hpromotion : terms.promotion = some percent) :
      PricedFrom terms mode group .promotion (discounted terms.base percent)
  | basePriceList (hprice : ∀ price, ¬ terms.Charges price)
      (hpercent : ∀ percent, ¬ terms.Grants percent) (hgroup : group = none)
      (hpromotion : terms.promotion = none) : PricedFrom terms mode group .basePriceList terms.base

/-- The rule stands for all rules with a percentage: it is the first in the order of percentages and
types, no percentage is numerically beyond its own, and its own is the combined one where the mode takes
one of them. -/
structure Represents (mode : Aggregation) (rules : List GroupRule) (rule : GroupRule)
    (group : Option Float) : Prop where
  first : FirstLeast (ruleRank mode) rules rule
  combined : ∃ p c, rule.percent = some p ∧ mode.combine (percentsOf rules) = some c ∧
    group = some (toFourPlaces c) ∧ (mode = .highest ∨ mode = .lowest → (p.value == c) = true)
  extreme : ∀ other ∈ rules, ∀ p q, rule.percent = some p → other.percent = some q →
    if mode.prefersLowest then ¬ q.value < p.value else ¬ p.value < q.value

lemma specialPrice_eq_some_iff : terms.specialPrice = some price ↔ terms.Charges price := by
  simp [Terms.specialPrice, SpecialTerms.positivePrice, Terms.Charges, Option.bind_eq_some_iff,
    Option.filter_eq_some_iff]

lemma specialPercent_eq_some_iff : terms.specialPercent = some percent ↔ terms.Grants percent :=
  Option.bind_eq_some_iff

lemma isSome_groupPercent_iff :
    (groupPercent mode rules).isSome = true ↔ ∃ rule ∈ rules, rule.percent.isSome = true := by
  rw [groupPercent, Option.isSome_map, combine_isSome_iff, ← percentsOf,
    ← List.length_pos_iff, List.length_pos_iff_exists_mem]
  simp only [mem_percentsOf, Option.isSome_iff_exists]
  constructor
  · rintro ⟨-, rule, hrule, p, hp, -⟩
    exact ⟨rule, hrule, p, hp⟩
  · rintro ⟨rule, hrule, p, hp⟩
    exact ⟨p.value, rule, hrule, p, hp, rfl⟩

lemma exists_represents (hfinite : ∀ rule ∈ rules, ∀ p, rule.percent = some p → p.IsFinite)
    (hgroup : groupPercent mode rules = some percent) :
    ∃ rule, bestRule? mode rules = some rule ∧ Represents mode rules rule (some percent) := by
  have hsome : (groupPercent mode rules).isSome = true := by
    rw [hgroup]
    rfl
  obtain ⟨other, hother, hsome⟩ := isSome_groupPercent_iff.mp hsome
  obtain ⟨q, hq⟩ := Option.isSome_iff_exists.mp hsome
  obtain ⟨c, hc, rfl⟩ := Option.map_eq_some_iff.mp hgroup
  obtain ⟨rule, hrule⟩ := exists_firstLeast (GroupRule.precedes mode) (List.ne_nil_of_mem hother)
  have hfirst := firstLeast_of_bestRule? mode hrule
  have hown := hfinite rule hfirst.mem
  -- some rule has a percentage, so that the first one has
  obtain ⟨p, hp, -⟩ := standing_le hfirst hother hq hown (hfinite other hother q hq)
  have hmax : ∀ other ∈ rules, ∀ q, other.percent = some q →
      standing mode q.value ≤ standing mode p.value := by
    intro other hother q hq
    obtain ⟨p', hp', hle⟩ := standing_le hfirst hother hq hown (hfinite other hother q hq)
    rw [hp] at hp'
    rwa [Option.some.inj hp']
  refine ⟨rule, hrule, hfirst, ⟨p, c, hp, hc, rfl, ?_⟩, ?_⟩
  · intro hmode
    refine beq_combine hmode ?_ (mem_percentsOf.mpr ⟨rule, hfirst.mem, p, hp, rfl⟩) ?_ hc
    · intro x hx
      obtain ⟨other, hother, q, hq, rfl⟩ := mem_percentsOf.mp hx
      exact (hfinite other hother q hq).isFinite
    · intro x hx
      obtain ⟨other, hother, q, hq, rfl⟩ := mem_percentsOf.mp hx
      exact hmax other hother q hq
  · intro other hother p' q hp' hq
    rw [hp] at hp'
    obtain rfl := Option.some.inj hp'
    exact not_lt_of_standing (hown p hp) (hfinite other hother q hq) (hmax other hother q hq)

/-- A quote has one source, the first that has a price, and the rule that it names is the one that stands
for the discount rules, where these are the source. -/
theorem quote_of_finite (hfinite : ∀ rule ∈ terms.rules, ∀ p, rule.percent = some p → p.IsFinite)
    (mode : Aggregation) :
    let q := terms.quote mode
    (q.groupPercent.isSome = true ↔ ∃ rule ∈ terms.rules, rule.percent.isSome = true) ∧
      (∃ price, PricedFrom terms mode q.groupPercent q.source price ∧ q.final = toFourPlaces price) ∧
      (q.source = .discountGroups mode → ∃ rule, Represents mode terms.rules rule q.groupPercent ∧
        q.ruleType = some rule.ruleType ∧ q.ruleObject = some rule.object) ∧
      (q.source = .promotion → q.ruleType = some "A" ∧ q.ruleObject = none) ∧
      (q.source ≠ .discountGroups mode → q.source ≠ .promotion →
        q.ruleType = none ∧ q.ruleObject = none) := by
  have hnone : terms.specialPrice = none → ∀ price, ¬ terms.Charges price := by
    intro hprice price h
    rw [← specialPrice_eq_some_iff, hprice] at h
    cases h
  have hnone' : terms.specialPercent = none → ∀ percent, ¬ terms.Grants percent := by
    intro hpercent percent h
    rw [← specialPercent_eq_some_iff, hpercent] at h
    cases h
  intro q
  have hq : terms.quote mode = q := rfl
  clear_value q
  rw [Terms.quote] at hq
  split at hq <;> subst hq
  · rename_i price hprice
    refine ⟨isSome_groupPercent_iff, ⟨price, .specialPrice (specialPrice_eq_some_iff.mp hprice), rfl⟩,
      nofun, nofun, fun _ _ => ⟨rfl, rfl⟩⟩
  · rename_i percent hprice hpercent
    refine ⟨isSome_groupPercent_iff,
      ⟨_, .specialDiscount (hnone hprice) (specialPercent_eq_some_iff.mp hpercent), rfl⟩,
      nofun, nofun, fun _ _ => ⟨rfl, rfl⟩⟩
  · rename_i percent hprice hpercent hgroup
    obtain ⟨rule, hrule, hrepresents⟩ := exists_represents hfinite hgroup
    refine ⟨isSome_groupPercent_iff,
      ⟨_, .discountGroups (hnone hprice) (hnone' hpercent) hgroup, rfl⟩, ?_, nofun, ?_⟩
    · intro _
      rw [← hgroup] at hrepresents
      exact ⟨rule, hrepresents, congrArg (Option.map GroupRule.ruleType) hrule,
        congrArg (Option.map GroupRule.object) hrule⟩
    · intro h
      exact absurd rfl h
  · rename_i percent hprice hpercent hgroup hpromotion
    refine ⟨isSome_groupPercent_iff,
      ⟨_, .promotion (hnone hprice) (hnone' hpercent) hgroup hpromotion, rfl⟩,
      nofun, fun _ => ⟨rfl, rfl⟩, ?_⟩
    intro _ h
    exact absurd rfl h
  · rename_i hprice hpercent hgroup hpromotion
    refine ⟨isSome_groupPercent_iff,
      ⟨_, .basePriceList (hnone hprice) (hnone' hpercent) hgroup hpromotion, rfl⟩,
      nofun, nofun, fun _ _ => ⟨rfl, rfl⟩⟩

end Quote

def tiedTerms : Terms where
  base := 200.0
  rules := [⟨"C", .itemGroup, some (.ofFloat 10.0)⟩, ⟨"S", .item, some (.ofFloat 20.0)⟩,
    ⟨"A", .manufacturer, some (.ofFloat 20.0)⟩, ⟨"", .item, none⟩]

theorem quote_of_finite_tied :
    (∀ rule ∈ tiedTerms.rules, ∀ p, rule.percent = some p → p.IsFinite) ∧
      (tiedTerms.quote .highest).source = .discountGroups .highest ∧
      ∃ rule, Represents .highest tiedTerms.rules rule (some 20.0) ∧
        some rule.ruleType = some "A" ∧ some rule.object = some .manufacturer := by
  have hfinite : ∀ rule ∈ tiedTerms.rules, ∀ p, rule.percent = some p → p.IsFinite := by
    simp only [tiedTerms, List.forall_mem_cons, List.not_mem_nil, Option.some.injEq, forall_eq']
    refine ⟨?_, ?_, ?_, nofun, nofun⟩ <;> exact Signed.isFinite_ofFloat (by decide +kernel)
  have hsource : (tiedTerms.quote .highest).source = .discountGroups .highest := by decide +kernel
  have hgroup : (tiedTerms.quote .highest).groupPercent = some 20.0 := by decide +kernel
  have htype : (tiedTerms.quote .highest).ruleType = some "A" := by decide +kernel
  have hobject : (tiedTerms.quote .highest).ruleObject = some .manufacturer := by decide +kernel
  obtain ⟨-, -, hnamed, -, -⟩ := quote_of_finite hfinite .highest
  obtain ⟨rule, hrepresents, hrule, hrule'⟩ := hnamed hsource
  rw [hgroup] at hrepresents
  rw [htype] at hrule
  rw [hobject] at hrule'
  exact ⟨hfinite, hsource, rule, hrepresents, hrule.symm, hrule'.symm⟩

end ErpGateway.Pricing
