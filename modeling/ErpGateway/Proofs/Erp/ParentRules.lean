import ErpGateway.Proofs.Erp.Told

namespace ErpGateway.Erp.Hasavshevet

open Sql Pricing

namespace Content

def ruleOf? (c : Content) (owner sku : String) : Option DiscountRule :=
  (Pricing.catalogEntry? (c.catalog.filterMap catalogEntry?) sku).bind
    (CatalogEntry.ruleFor? ((c.rules owner).filterMap discountRule?))

/-- The parent has a rule for the item, and the account has none for it, but one for another item of the
request. -/
structure PassesOver (c : Content) (request : Request) (parent sku : String) : Prop where
  account : request.account.isEmpty = false
  inherits : c.parentOf? request.account = some parent
  rule : (c.ruleOf? parent sku).isSome = true
  unruled : c.ruleOf? request.account sku = none
  ruled : ∃ other, request.Names other ∧ (c.ruleOf? request.account other).isSome = true

def withoutRules (c : Content) (owner : String) : Content :=
  { c with rules := fun account => if account = owner then [] else c.rules account }

variable {c : Content} {settings : Settings} {request : Request} {parent sku : String}
  {e : CatalogEntry}

lemma rules_withoutRules (owner : String) : (c.withoutRules owner).rules owner = [] :=
  if_pos rfl

lemma rules_withoutRules_of_ne {account owner : String} (h : account ≠ owner) :
    (c.withoutRules owner).rules account = c.rules account :=
  if_neg h

lemma ne_of_parentOf? {account : String} (h : c.parentOf? account = some parent) :
    account ≠ parent := by
  obtain ⟨-, hother⟩ := Option.filter_eq_some_iff.mp h
  rintro rfl
  simp at hother

lemma resolvedByAccount_ne_zero_iff :
    (c.facts settings request.account).resolvedByAccount request.skusAsAsked ≠ 0 ↔
      ∃ other, request.Names other ∧ (c.ruleOf? request.account other).isSome = true := by
  rw [← Nat.pos_iff_ne_zero, Facts.resolvedByAccount, List.countP_pos_iff]
  simp only [Request.mem_skusAsAsked]
  rfl

lemma ruleOf?_eq (settings : Settings) {account : String}
    (he : (c.facts settings account).listed? sku = some e) (owner : String) :
    c.ruleOf? owner sku = e.ruleFor? ((c.rules owner).filterMap discountRule?) := by
  have hlisted : Pricing.catalogEntry? (c.catalog.filterMap catalogEntry?) sku = some e := he
  rw [ruleOf?, hlisted, Option.bind_some]

lemma agreesOn_alone (h : ∀ parent, ¬ c.PassesOver request parent sku) :
    ((c.seenBy request.account).facts settings request.account).AgreesOn request.skusAsAsked
      ((c.seenBy request.account).facts settings request.account) [sku] sku where
  account := rfl
  parent := rfl
  listed := rfl
  chosen e he := by
    refine Facts.chosen?_alone he fun hunruled hsome hrule => ?_
    cases haccount : request.account.isEmpty with
    | true =>
      -- nothing is seen of a parent
      rw [seenBy, if_pos haccount] at hsome
      exact absurd hsome Bool.false_ne_true
    | false =>
      rw [c.seenBy_of_account haccount] at he hunruled hsome hrule ⊢
      obtain ⟨parent, hparent⟩ := Option.isSome_iff_exists.mp hsome
      rw [c.parentRules_facts settings hparent] at hrule
      by_contra hresolved
      refine h parent ⟨haccount, hparent, ?_, ?_, resolvedByAccount_ne_zero_iff.mp hresolved⟩
      · rw [ruleOf?_eq settings he]
        exact hrule
      · rw [ruleOf?_eq settings he]
        exact hunruled
  special := rfl
  last := rfl

lemma agreesOn_withoutRules (h : c.PassesOver request parent sku) :
    ((c.seenBy request.account).facts settings request.account).AgreesOn request.skusAsAsked
      (((c.withoutRules parent).seenBy request.account).facts settings request.account) [sku]
      sku := by
  rw [c.seenBy_of_account h.account, (c.withoutRules parent).seenBy_of_account h.account]
  refine Facts.agreesOn_of_chosen rfl rfl rfl rfl rfl fun e he => ?_
  have hunruled : e.ruleFor? (c.facts settings request.account).accountRules = none :=
    (ruleOf?_eq settings he _).symm.trans h.unruled
  have hsame : ((c.withoutRules parent).facts settings request.account).accountRules =
      (c.facts settings request.account).accountRules :=
    congrArg (List.filterMap discountRule?) (rules_withoutRules_of_ne (ne_of_parentOf? h.inherits))
  have hempty : ((c.withoutRules parent).facts settings request.account).parentRules = [] := by
    rw [(c.withoutRules parent).parentRules_facts settings h.inherits, rules_withoutRules]
    rfl
  have hresolved : (c.facts settings request.account).resolvedByAccount request.skusAsAsked ≠ 0 :=
    resolvedByAccount_ne_zero_iff.mpr h.ruled
  rw [Facts.chosen?_eq, Facts.chosen?_eq, if_neg fun hasked => hresolved hasked.1, hsame, hempty,
    ruled?, ruled?, ruled?, hunruled, CatalogEntry.ruleFor?_nil]
  simp only [Option.map_none, ite_self]

end Content

section Run

variable {c c' : Content} {settings : Settings} {today : Calendar.Date} {request : Request}
  {db db' : Database} {a : Answers} {parent sku : String}

lemma Content.Serves.exists_told (h : c.Serves settings (request.asOfText today) db)
    (hskus : request.skusAsAsked ≠ []) (limit : Nat) :
    let t := Service.PriceStock.run db .hasavshevet settings today limit request
    ∃ a : Answers, (c.seenBy request.account).Tells settings request a ∧
      t.calls = (a.script settings today request).map Prod.fst ∧
      t.outcome = .ok (request.skusAsAsked.map (a.item settings request)) := by
  obtain ⟨a, hanonymous, hheard, hcalls, hout⟩ := h.exists_answers hskus limit
  refine ⟨a, ?_, hcalls, hout⟩
  cases haccount : request.account.isEmpty with
  | true => exact h.tells_of_anonymous hskus haccount (hanonymous haccount) hheard
  | false => exact h.tells_of_account hskus haccount hheard

lemma param?_discountRules (skus : List String) (owner : String) :
    (discountRules skus owner).param? "account" = some (.text owner) := by
  simp (disch := decide) [discountRules]

lemma param?_ruleTalk {skus : List String} {asOf owner : String} {rules prices : List Table}
    {p : Statement × List Table} (hp : p ∈ ruleTalk skus asOf owner rules prices)
    {other : String} (hother : owner ≠ other) : p.1.param? "account" ≠ some (.text other) := by
  rw [ruleTalk, List.mem_cons] at hp
  rcases hp with rfl | hp
  · rw [param?_discountRules]
    simpa using hother
  · split at hp
    · exact absurd hp List.not_mem_nil
    · obtain rfl := List.mem_singleton.mp hp
      simp (disch := decide) [listPrices]

lemma Answers.param?_talk {p : Statement × List Table} (hp : p ∈ a.talk settings today request)
    (hresolved : (a.facts settings request).resolvedByAccount request.skusAsAsked ≠ 0)
    {other : String} (hother : request.account ≠ other) :
    p.1.param? "account" ≠ some (.text other) := by
  have howner : (a.facts settings request).account = request.account := rfl
  simp only [Answers.talk, RuleAnswers.talk, howner, List.mem_cons, List.mem_append,
    List.not_mem_nil, or_false] at hp
  rcases hp with rfl | rfl | (hp | hp) | rfl | rfl | rfl
  · simpa (disch := decide) [parentAccount] using hother
  · simp (disch := decide) [Hasavshevet.catalog]
  · exact param?_ruleTalk hp hother
  · split at hp
    · rename_i hnone
      exact absurd hnone hresolved
    · exact absurd hp List.not_mem_nil
  · simpa (disch := decide) [specialPrices] using hother
  · simpa (disch := decide) [lastPrices] using hother
  · simp (disch := decide) [Hasavshevet.stock]

lemma Content.PassesOver.not_mem_script (h : c.PassesOver request parent sku)
    (ha : (c.seenBy request.account).Tells settings request a) (skus : List String) :
    discountRules skus parent ∉ (a.script settings today request).map Prod.fst := by
  intro hmem
  obtain ⟨p, hp, hrules⟩ := List.mem_map.mp hmem
  rw [c.seenBy_of_account h.account] at ha
  have hresolved : (a.facts settings request).resolvedByAccount request.skusAsAsked ≠ 0 := by
    rw [ha.resolvedByAccount_eq]
    exact Content.resolvedByAccount_ne_zero_iff.mpr h.ruled
  rw [Answers.script, if_neg (by simp [h.account])] at hp
  refine Answers.param?_talk hp hresolved (Content.ne_of_parentOf? h.inherits) ?_
  rw [hrules, param?_discountRules]

lemma Content.Serves.run_alone (h : c'.Serves settings (request.asOfText today) db')
    (hsku : request.Names sku) (ha : (c.seenBy request.account).Tells settings request a)
    (hfacts : ((c.seenBy request.account).facts settings request.account).AgreesOn
      request.skusAsAsked ((c'.seenBy request.account).facts settings request.account) [sku] sku)
    (hstock : c.stock = c'.stock) (limit : Nat) :
    (Service.PriceStock.run db' .hasavshevet settings today limit (request.alone sku)).outcome =
      .ok [a.item settings request sku] := by
  have halone := Request.skusAsAsked_alone hsku
  have hmem : sku ∈ (request.alone sku).skusAsAsked := by
    rw [halone]
    exact List.mem_singleton_self sku
  have hserves : c'.Serves settings ((request.alone sku).asOfText today) db' := h
  obtain ⟨a', ha', -, hout⟩ := hserves.exists_told (List.ne_nil_of_mem hmem) limit
  have htold := ha.agreesOn (Request.mem_skusAsAsked.mpr hsku)
  have htold' := ha'.agreesOn hmem
  have hitem : a.item settings request sku = a'.item settings (request.alone sku) sku := by
    refine Answers.item_congr rfl (htold.trans (Facts.AgreesOn.trans ?_ htold'.symm)) ?_
    · rw [halone]
      exact hfacts
    · rw [ha.stockOf_eq (Request.mem_skusAsAsked.mpr hsku), ha'.stockOf_eq hmem, Content.stockOf,
        Content.stockOf, Content.stock_seenBy, Content.stock_seenBy, hstock]
      rfl
  rw [hout, halone, List.map_singleton, hitem]

/-- An item comes out of a batch as it does alone. When the account has no rule for it, but one for another
item of the batch, the parent's rules are passed over: they are not asked for, and the item comes out as it
does alone where the parent has no rules. -/
theorem item_of_batch (h : c.Serves settings (request.asOfText today) db)
    (hsku : request.Names sku) (limit : Nat) :
    let batch := Service.PriceStock.run db .hasavshevet settings today limit request
    ∃ items item, batch.outcome = .ok items ∧ itemIn? items sku = some item ∧
      ((∀ parent, ¬ c.PassesOver request parent sku) →
        (Service.PriceStock.run db .hasavshevet settings today limit
          (request.alone sku)).outcome = .ok [item]) ∧
      ∀ parent, c.PassesOver request parent sku →
        (∀ skus, discountRules skus parent ∉ batch.calls) ∧
        ∀ db', (c.withoutRules parent).Serves settings (request.asOfText today) db' →
          (Service.PriceStock.run db' .hasavshevet settings today limit
            (request.alone sku)).outcome = .ok [item] := by
  have hmem := Request.mem_skusAsAsked.mpr hsku
  obtain ⟨a, ha, hcalls, hout⟩ := h.exists_told (List.ne_nil_of_mem hmem) limit
  refine ⟨_, a.item settings request sku, hout, itemIn?_map (fun sku => a.sku_item sku) hmem,
    fun hnone => ?_, fun parent hpassed => ⟨fun skus => ?_, fun db' h' => ?_⟩⟩
  · exact h.run_alone hsku ha (Content.agreesOn_alone hnone) rfl limit
  · rw [hcalls]
    exact hpassed.not_mem_script ha skus
  · exact h'.run_alone hsku ha (Content.agreesOn_withoutRules hpassed) rfl limit

end Run

def pairRequest : Request where
  skus := ["A", "B"]
  accountId := "10"

def dividedRules : Content where
  accounts _ := [[("AccountKey", .text "10"), ("ParentAccount", .text "P1")]]
  catalog := [[("ItemKey", .text "A"), ("DiscountCode", .text "DA")],
    [("ItemKey", .text "B"), ("DiscountCode", .text "DB")]]
  rules owner := [[("DiscountCode", .text (if owner = "10" then "DA" else "DB")),
    ("PriceListNumber", .number (.int 1))]]
  listPrices := []
  specials _ _ := []
  lastPrices _ := []
  stock _ := []

lemma names_pairRequest {sku : String} (h : sku ∈ ["A", "B"]) : pairRequest.Names sku := by
  have hskus : pairRequest.skusAsAsked = ["A", "B"] := by decide +kernel
  exact Request.mem_skusAsAsked.mp (hskus ▸ h)

lemma passesOver_dividedRules : dividedRules.PassesOver pairRequest "P1" "B" where
  account := by decide +kernel
  inherits := by decide +kernel
  rule := by decide +kernel
  unruled := Option.isNone_iff_eq_none.mp (by decide +kernel)
  ruled := ⟨"A", names_pairRequest (by decide), by decide +kernel⟩

theorem item_of_batch_divided :
    let run := fun db request =>
      Service.PriceStock.run db .hasavshevet {} ⟨2024, 5, 1⟩ 8000 request
    ∃ items first second, (run dividedRules.database pairRequest).outcome = .ok items ∧
      itemIn? items "A" = some first ∧ itemIn? items "B" = some second ∧
      (run dividedRules.database (pairRequest.alone "A")).outcome = .ok [first] ∧
      discountRules ["A", "B"] "P1" ∉ (run dividedRules.database pairRequest).calls ∧
      (run (dividedRules.withoutRules "P1").database (pairRequest.alone "B")).outcome =
        .ok [second] := by
  have hserves := dividedRules.serves_database {} (pairRequest.asOfText ⟨2024, 5, 1⟩)
  have hnamed : pairRequest.Names "A" ∧ pairRequest.Names "B" :=
    ⟨names_pairRequest (by decide), names_pairRequest (by decide)⟩
  obtain ⟨items, first, hout, hfirst, halone, -⟩ := item_of_batch hserves hnamed.1 8000
  obtain ⟨items', second, hout', hsecond, -, hpassed⟩ := item_of_batch hserves hnamed.2 8000
  obtain rfl := Except.ok.inj (hout.symm.trans hout')
  obtain ⟨hasked, hwithout⟩ := hpassed "P1" passesOver_dividedRules
  refine ⟨items, first, second, hout, hfirst, hsecond, halone fun parent h => ?_, hasked _, ?_⟩
  · have hrule : (dividedRules.ruleOf? pairRequest.account "A").isSome = true := by decide +kernel
    rw [h.unruled] at hrule
    exact nomatch hrule
  · exact hwithout _ (Content.serves_database _ _ _)

def provenanceTold (sku : String) (out : Except Failure (List Item)) : Option String :=
  match out with
  | .ok items =>
    (itemIn? items sku).bind fun item => (item.details.get? "provenance").bind Row.textOf
  | .error _ => none

theorem batch_ne_alone :
    let run := fun request =>
      (Service.PriceStock.run dividedRules.database .hasavshevet {} ⟨2024, 5, 1⟩ 8000 request).outcome
    dividedRules.Serves {} (pairRequest.asOfText ⟨2024, 5, 1⟩) dividedRules.database ∧
      pairRequest.Names "B" ∧
      ∃ items item other, run pairRequest = .ok items ∧ itemIn? items "B" = some item ∧
        run (pairRequest.alone "B") = .ok [other] ∧ item ≠ other := by
  have hserves := dividedRules.serves_database {} (pairRequest.asOfText ⟨2024, 5, 1⟩)
  have hnamed : pairRequest.Names "B" := names_pairRequest (by decide)
  have hmem := Request.mem_skusAsAsked.mpr hnamed
  have hskus := Request.skusAsAsked_alone hnamed
  have halone : dividedRules.Serves {} ((pairRequest.alone "B").asOfText ⟨2024, 5, 1⟩)
      dividedRules.database := hserves
  obtain ⟨a, -, -, hout⟩ := hserves.exists_told (List.ne_nil_of_mem hmem) 8000
  obtain ⟨a', -, -, hout'⟩ := halone.exists_told (hskus ▸ List.cons_ne_nil _ _) 8000
  rw [hskus, List.map_singleton] at hout'
  have hsku : ∀ sku, (a.item {} pairRequest sku).sku = sku := fun sku => a.sku_item sku
  have hitem := itemIn?_map hsku hmem
  have hother : itemIn? [a'.item {} (pairRequest.alone "B") "B"] "B" =
      some (a'.item {} (pairRequest.alone "B") "B") :=
    itemIn?_map (fun sku => a'.sku_item sku) (List.mem_singleton_self "B")
  refine ⟨hserves, hnamed, _, _, _, hout, hitem, hout', fun hsame => ?_⟩
  have hbatch : provenanceTold "B" (Service.PriceStock.run dividedRules.database .hasavshevet {}
      ⟨2024, 5, 1⟩ 8000 pairRequest).outcome = some "basePrice" := by decide +kernel
  have hparent : provenanceTold "B" (Service.PriceStock.run dividedRules.database .hasavshevet {}
      ⟨2024, 5, 1⟩ 8000 (pairRequest.alone "B")).outcome = some "parentDiscount" := by
    decide +kernel
  rw [hout, provenanceTold, hitem, Option.bind_some, hsame] at hbatch
  rw [hout', provenanceTold, hother, Option.bind_some, hbatch] at hparent
  exact absurd hparent (by decide)

end ErpGateway.Erp.Hasavshevet
