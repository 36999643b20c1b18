import ErpGateway.Proofs.Erp.Content
import ErpGateway.Proofs.Pricing.Agreement

namespace ErpGateway.Erp.Hasavshevet

open Sql Pricing

lemma mem_listsOf {rules : List DiscountRule} {rule : DiscountRule} (h : rule ∈ rules) :
    rule.priceList ∈ listsOf rules := by
  rw [listsOf, List.mem_mergeSort, List.mem_eraseDups]
  exact List.mem_map_of_mem h

lemma listsOf_ne_nil {rules : List DiscountRule} (h : rules ≠ []) : listsOf rules ≠ [] := by
  obtain ⟨rule, rest, rfl⟩ := List.exists_cons_of_ne_nil h
  exact List.ne_nil_of_mem (mem_listsOf List.mem_cons_self)

section Served

variable {c : Content} {settings : Settings} {today : Calendar.Date} {request : Request}
  {db : Database} {a : Answers} {skus : List String} {asOf : String}

lemma Content.Serves.exists_rows_of_ruleTalk (h : c.Serves settings asOf db) (hskus : skus ≠ [])
    {owner : String} {rules prices : List Table} {p : Statement × List Table}
    (hp : p ∈ ruleTalk skus asOf owner rules prices) :
    ∃ rows, ∀ earlier, db earlier p.1 = ⟨0, .ok [rows]⟩ := by
  rw [ruleTalk, List.mem_cons] at hp
  rcases hp with rfl | hp
  · exact ⟨_, fun earlier => h.discountRules earlier skus owner hskus⟩
  · split at hp
    · exact absurd hp List.not_mem_nil
    · rename_i hrules
      obtain rfl := List.mem_singleton.mp hp
      have hlists : listsOf (rulesIn rules) ≠ [] := listsOf_ne_nil (by simpa using hrules)
      exact ⟨_, fun earlier => h.listPrices earlier skus _ hskus hlists⟩

lemma Content.Serves.exists_rows (h : c.Serves settings (request.asOfText today) db)
    (hskus : request.skusAsAsked ≠ []) {p : Statement × List Table}
    (hp : p ∈ a.script settings today request) :
    ∃ rows, ∀ earlier, db earlier p.1 = ⟨0, .ok [rows]⟩ := by
  have hcatalog := fun earlier => h.catalog earlier _ hskus
  have hstock := fun earlier => h.stock earlier _ (request.warehousesOr settings.defaultWarehouses) hskus
  rw [Answers.script] at hp
  split at hp
  · simp only [List.mem_cons, List.not_mem_nil, or_false] at hp
    rcases hp with rfl | rfl
    · exact ⟨_, hcatalog⟩
    · exact ⟨_, hstock⟩
  · simp only [Answers.talk, RuleAnswers.talk, List.mem_cons, List.mem_append, List.not_mem_nil,
      or_false] at hp
    rcases hp with rfl | rfl | (hp | hp) | rfl | rfl | rfl
    · exact ⟨_, fun earlier => h.parentAccount earlier _⟩
    · exact ⟨_, hcatalog⟩
    · exact h.exists_rows_of_ruleTalk hskus hp
    · split at hp
      · exact h.exists_rows_of_ruleTalk hskus hp
      · exact absurd hp List.not_mem_nil
    · exact ⟨_, fun earlier => h.specialPrices earlier _ _ _ hskus⟩
    · exact ⟨_, fun earlier => h.lastPrices earlier _ _ hskus⟩
    · exact ⟨_, hstock⟩

lemma Content.Serves.exists_answers (h : c.Serves settings (request.asOfText today) db)
    (hskus : request.skusAsAsked ≠ []) (limit : Nat) :
    let t := Service.PriceStock.run db .hasavshevet settings today limit request
    ∃ a : Answers, (request.account.isEmpty = true → a.Anonymous) ∧
      Heard db (a.script settings today request) ∧
      t.calls = (a.script settings today request).map Prod.fst ∧
      t.outcome = .ok (request.skusAsAsked.map (a.item settings request)) := by
  obtain ⟨a, told, rest, hanonymous, hscript, hheard, hspent, ⟨rfl, hcalls, hout⟩ | hcut⟩ :=
    follows_script db settings today limit request hskus
  · rw [List.append_nil] at hscript
    exact ⟨a, hanonymous, hscript ▸ hheard, hscript ▸ hcalls, hout⟩
  · obtain ⟨s, tables, later, rfl, -, hcut⟩ := hcut
    obtain ⟨rows, hrows⟩ := h.exists_rows hskus (p := (s, tables)) (by rw [hscript]; simp)
    rcases hcut with ⟨failure, hfailed, -⟩ | ⟨hlate, -⟩
    · rw [hrows] at hfailed
      exact nomatch hfailed
    · rw [db.spent_snoc, hrows] at hlate
      exact absurd hspent (Nat.not_le_of_lt hlate)

end Served

namespace Content

variable (c : Content)

def seenBy (account : String) : Content :=
  if account.isEmpty then
    { c with
      accounts := fun _ => []
      rules := fun _ => []
      specials := fun _ _ => []
      lastPrices := fun _ => [] }
  else c

lemma seenBy_of_account {account : String} (h : account.isEmpty = false) : c.seenBy account = c := by
  rw [seenBy, if_neg (by simp [h])]

lemma stock_seenBy (account : String) : (c.seenBy account).stock = c.stock := by
  rw [seenBy]
  split <;> rfl

def parentOf? (account : String) : Option String :=
  parentOf account (c.accounts account)

def facts (settings : Settings) (account : String) : Facts where
  account := account
  parent := c.parentOf? account
  catalog := c.catalog.filterMap catalogEntry?
  accountRules := (c.rules account).filterMap discountRule?
  accountPrices := c.listPrices.filterMap listPrice?
  parentRules := ((c.parentOf? account).map c.rules |>.getD []).filterMap discountRule?
  parentPrices := c.listPrices.filterMap listPrice?
  specials := (c.specials account (c.parentOf? account)).filterMap specialPrice?
  transactions := (c.lastPrices account).filterMap (transaction? settings)

lemma parentRules_facts (settings : Settings) {account parent : String}
    (h : c.parentOf? account = some parent) :
    (c.facts settings account).parentRules = (c.rules parent).filterMap discountRule? := by
  rw [facts, h]
  rfl

/-- The answers are the rows of the content, where they were asked for. -/
structure Tells (settings : Settings) (request : Request) (a : Answers) : Prop where
  parent : a.parent.headD [] = c.accounts request.account
  catalog : a.catalog.headD [] = rowsIn "ItemKey" request.skusAsAsked c.catalog
  accountRules : a.accountRules.headD [] = c.rulesFor request.skusAsAsked request.account
  accountPrices : rulesIn a.accountRules ≠ [] →
    a.accountPrices.headD [] =
      c.listPricesFor request.skusAsAsked (listsOf (rulesIn a.accountRules))
  parentRules : ∀ parent, c.parentOf? request.account = some parent →
    (a.facts settings request).resolvedByAccount request.skusAsAsked = 0 →
    a.parentRules.headD [] = c.rulesFor request.skusAsAsked parent
  parentPrices : ∀ parent, c.parentOf? request.account = some parent →
    (a.facts settings request).resolvedByAccount request.skusAsAsked = 0 →
    rulesIn a.parentRules ≠ [] →
    a.parentPrices.headD [] =
      c.listPricesFor request.skusAsAsked (listsOf (rulesIn a.parentRules))
  specials : a.specials.headD [] =
    rowsIn "ItemKey" request.skusAsAsked
      (c.specials request.account (c.parentOf? request.account))
  last : a.last.headD [] = rowsIn "ItemKey" request.skusAsAsked (c.lastPrices request.account)
  stock : a.stock.headD [] = rowsIn "ItemKey" request.skusAsAsked
    (c.stock (request.warehousesOr settings.defaultWarehouses))

variable {c} {settings : Settings} {today : Calendar.Date} {request : Request} {db : Database}
  {a : Answers}

lemma answer_eq_of_mem (hheard : Heard db (a.script settings today request)) {s : Statement}
    {tables : List Table} (hmem : (s, tables) ∈ a.script settings today request) {rows : Table}
    (hrows : ∀ earlier, db earlier s = ⟨0, .ok [rows]⟩) : tables.headD [] = rows := by
  obtain ⟨earlier, hanswer⟩ := hheard.exists_answer hmem
  rw [hrows] at hanswer
  obtain rfl := Except.ok.inj hanswer
  rfl

lemma Serves.tells_of_anonymous (h : c.Serves settings (request.asOfText today) db)
    (hskus : request.skusAsAsked ≠ []) (haccount : request.account.isEmpty = true)
    (hanonymous : a.Anonymous) (hheard : Heard db (a.script settings today request)) :
    (c.seenBy request.account).Tells settings request a := by
  have hscript : a.script settings today request =
      [(Hasavshevet.catalog request.skusAsAsked (request.asOfText today), a.catalog),
        (Hasavshevet.stock settings request.skusAsAsked
          (request.warehousesOr settings.defaultWarehouses), a.stock)] := by
    rw [Answers.script, if_pos haccount]
  obtain ⟨⟨accountRules, accountPrices, parentRules, parentPrices⟩, parent, catalog, specials, last,
    stock⟩ := a
  obtain ⟨rfl, rfl, rfl, rfl⟩ := RuleAnswers.mk.inj hanonymous.rules
  obtain rfl := hanonymous.parent
  obtain rfl := hanonymous.specials
  obtain rfl := hanonymous.last
  rw [seenBy, if_pos haccount]
  have hno : ∀ parent, parentOf request.account [] ≠ some parent := by
    simp [parentOf]
  refine ⟨rfl, ?_, rfl, fun hrules => absurd rfl hrules,
    fun parent hparent => absurd hparent (hno parent),
    fun parent hparent => absurd hparent (hno parent), rfl, rfl, ?_⟩
  · exact answer_eq_of_mem hheard (by simp [hscript]) fun earlier => h.catalog earlier _ hskus
  · exact answer_eq_of_mem hheard (by simp [hscript]) fun earlier => h.stock earlier _ _ hskus

lemma Serves.tells_of_account (h : c.Serves settings (request.asOfText today) db)
    (hskus : request.skusAsAsked ≠ []) (haccount : request.account.isEmpty = false)
    (hheard : Heard db (a.script settings today request)) :
    (c.seenBy request.account).Tells settings request a := by
  have hscript : a.script settings today request = a.talk settings today request := by
    rw [Answers.script, if_neg (by simp [haccount])]
  have hanswer : ∀ {s tables rows}, (s, tables) ∈ a.talk settings today request →
      (∀ earlier, db earlier s = ⟨0, .ok [rows]⟩) → tables.headD [] = rows :=
    fun hmem => answer_eq_of_mem hheard (hscript ▸ hmem)
  have hparent : a.parent.headD [] = c.accounts request.account :=
    hanswer (by simp [Answers.talk, Answers.facts]) fun earlier => h.parentAccount earlier _
  have hparentOf : (a.facts settings request).parent = c.parentOf? request.account := by
    rw [Answers.facts, hparent]
    rfl
  have hlists : ∀ {rules}, rulesIn rules ≠ [] → (rulesIn rules).isEmpty = false := by
    simp
  rw [seenBy_of_account c haccount]
  refine ⟨hparent, ?_, ?_, ?_, ?_, ?_, ?_, ?_, ?_⟩
  · exact hanswer (by simp [Answers.talk]) fun earlier => h.catalog earlier _ hskus
  · exact hanswer (by simp [Answers.talk, RuleAnswers.talk, ruleTalk, Answers.facts])
      fun earlier => h.discountRules earlier _ _ hskus
  · intro hrules
    exact hanswer (by simp [Answers.talk, RuleAnswers.talk, ruleTalk, hlists hrules])
      fun earlier => h.listPrices earlier _ _ hskus (listsOf_ne_nil hrules)
  · intro parent hsome hnone
    refine hanswer ?_ fun earlier => h.discountRules earlier _ parent hskus
    simp [Answers.talk, RuleAnswers.talk, ruleTalk, hparentOf, hsome, hnone]
  · intro parent hsome hnone hrules
    refine hanswer ?_ fun earlier => h.listPrices earlier _ _ hskus (listsOf_ne_nil hrules)
    simp [Answers.talk, RuleAnswers.talk, ruleTalk, hparentOf, hsome, hnone, hlists hrules]
  · refine hanswer ?_ fun earlier => h.specialPrices earlier _ _ _ hskus
    have howner : (a.facts settings request).account = request.account := rfl
    simp [Answers.talk, hparentOf, howner]
  · exact hanswer (by simp [Answers.talk, Answers.facts])
      fun earlier => h.lastPrices earlier _ _ hskus
  · exact hanswer (by simp [Answers.talk]) fun earlier => h.stock earlier _ _ hskus

end Content

end ErpGateway.Erp.Hasavshevet
