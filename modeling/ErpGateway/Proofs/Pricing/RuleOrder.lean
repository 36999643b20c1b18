import ErpGateway.Proofs.Pricing.WinningRule

namespace ErpGateway.Pricing

open Decimal

section Fields

variable {terms : Terms} {mode : Aggregation} {rules : List GroupRule}

lemma ruleType_quote (terms : Terms) (mode : Aggregation) :
    (terms.quote mode).ruleType =
      if (terms.quote mode).source = .discountGroups mode then
        (bestRule? mode terms.rules).map GroupRule.ruleType
      else if (terms.quote mode).source = .promotion then some "A" else none := by
  rw [Terms.quote]
  split <;> simp [Terms.priced]

lemma ruleObject_quote (terms : Terms) (mode : Aggregation) :
    (terms.quote mode).ruleObject =
      if (terms.quote mode).source = .discountGroups mode then
        (bestRule? mode terms.rules).map GroupRule.object
      else none := by
  rw [Terms.quote]
  split <;> simp [Terms.priced]

lemma source_quote (terms : Terms) (mode : Aggregation) :
    (terms.quote mode).source =
      if terms.specialPrice.isSome then .specialPrice
      else if terms.specialPercent.isSome then .specialDiscount
      else if (groupPercent mode terms.rules).isSome then .discountGroups mode
      else if terms.promotion.isSome then .promotion else .basePriceList := by
  rw [Terms.quote]
  split <;> simp [Terms.priced, *]

lemma source_quote_of_perm (h : rules.Perm terms.rules) :
    (Terms.quote { terms with rules := rules } mode).source = (terms.quote mode).source := by
  have hgroup : (groupPercent mode rules).isSome = (groupPercent mode terms.rules).isSome := by
    rw [Bool.eq_iff_iff, isSome_groupPercent_iff, isSome_groupPercent_iff]
    simp only [h.mem_iff]
  rw [source_quote, source_quote, hgroup]
  rfl

end Fields

section Best

variable {mode : Aggregation} {rules rules' : List GroupRule} {a b : GroupRule}

lemma ruleType_eq_of_foremost (ha : Foremost (ruleRank mode) rules a)
    (hb : Foremost (ruleRank mode) rules b) : a.ruleType = b.ruleType :=
  congrArg (fun rank => (ofLex rank).2) (ha.key_eq hb)

lemma bestRule?_of_perm (mode : Aggregation) (h : rules'.Perm rules) :
    (bestRule? mode rules' = none ∧ bestRule? mode rules = none) ∨
      ∃ a b, bestRule? mode rules' = some a ∧ bestRule? mode rules = some b ∧
        Foremost (ruleRank mode) rules a ∧ Foremost (ruleRank mode) rules b :=
  firstLeast_of_perm (precedes_iff mode) h

lemma map_ruleType_bestRule?_of_perm (h : rules'.Perm rules) :
    (bestRule? mode rules').map GroupRule.ruleType =
      (bestRule? mode rules).map GroupRule.ruleType := by
  rcases bestRule?_of_perm mode h with ⟨h', h⟩ | ⟨a, b, h', h, ha, hb⟩
  · rw [h', h]
  · rw [h', h]
    exact congrArg some (ruleType_eq_of_foremost ha hb)

end Best

/-- The order of the discount rules does not show in the source or in the type of the rule that is named.
It shows in what that rule is about exactly when the rules are the source and two of the foremost, which
have one percentage and one type, are about different things. -/
theorem quote_of_reordered_rules (terms : Terms) (mode : Aggregation) :
    (∀ rules, rules.Perm terms.rules →
      let q := Terms.quote { terms with rules := rules } mode
      q.source = (terms.quote mode).source ∧ q.ruleType = (terms.quote mode).ruleType) ∧
    ((∀ rules, rules.Perm terms.rules →
        (Terms.quote { terms with rules := rules } mode).ruleObject =
          (terms.quote mode).ruleObject) ↔
      ((terms.quote mode).source = .discountGroups mode →
        ∀ a b, Foremost (ruleRank mode) terms.rules a → Foremost (ruleRank mode) terms.rules b →
          a.object = b.object)) := by
  refine ⟨?_, ?_, ?_⟩
  · intro rules hperm q
    have hsource : q.source = (terms.quote mode).source := source_quote_of_perm hperm
    refine ⟨hsource, ?_⟩
    rw [ruleType_quote, ruleType_quote, hsource, map_ruleType_bestRule?_of_perm hperm]
  · intro hsame hsource
    -- each of the foremost is named in some order, so that all are about what is named in this one
    have hnamed : ∀ a, Foremost (ruleRank mode) terms.rules a →
        (terms.quote mode).ruleObject = some a.object := by
      intro a ha
      obtain ⟨rules, hperm, hbest⟩ := ha.exists_perm (precedes_iff mode)
      have hbest' : bestRule? mode rules = some a := hbest
      rw [← hsame rules hperm, ruleObject_quote, source_quote_of_perm hperm, if_pos hsource]
      exact congrArg (Option.map GroupRule.object) hbest'
    intro a b ha hb
    exact Option.some.inj ((hnamed a ha).symm.trans (hnamed b hb))
  · intro hobject rules hperm
    rw [ruleObject_quote, ruleObject_quote, source_quote_of_perm hperm]
    split
    · rename_i hsource
      rcases bestRule?_of_perm mode hperm with ⟨h', h⟩ | ⟨a, b, h', h, ha, hb⟩
      · rw [h', h]
      · rw [h', h]
        exact congrArg some (hobject hsource a b ha hb)
    · rfl

def evenTerms : Terms where
  base := 100.0
  rules := [⟨"S", .item, some (.ofFloat 10.0)⟩, ⟨"S", .manufacturer, some (.ofFloat 10.0)⟩]

theorem quote_names_first_of_even_rules :
    (∀ rule ∈ evenTerms.rules, ∀ p, rule.percent = some p → p.IsFinite) ∧
      ∃ rules, rules.Perm evenTerms.rules ∧
        (evenTerms.quote .highest).ruleObject = some .item ∧
        (Terms.quote { evenTerms with rules := rules } .highest).ruleObject = some .manufacturer := by
  refine ⟨?_, evenTerms.rules.reverse, List.reverse_perm _, by decide +kernel, by decide +kernel⟩
  simp only [evenTerms, List.forall_mem_cons, List.not_mem_nil, Option.some.injEq, forall_eq']
  refine ⟨?_, ?_, nofun⟩ <;> exact Signed.isFinite_ofFloat (by decide +kernel)

end ErpGateway.Pricing
