import ErpGateway.Proofs.Dialogue
import ErpGateway.Proofs.Erp.Cascade
import ErpGateway.Proofs.Pricing.ClosedForm
import ErpGateway.Service.PriceStock

namespace ErpGateway.Erp.Hasavshevet

open Sql Pricing

def rulesIn (tables : List Table) : List DiscountRule :=
  (tables.headD []).filterMap discountRule?

def pricesIn (tables : List Table) : List ListPrice :=
  (tables.headD []).filterMap listPrice?

def ruleTalk (skus : List String) (asOf owner : String) (rules prices : List Table) : History :=
  (discountRules skus owner, rules) ::
    if (rulesIn rules).isEmpty then []
    else [(listPrices skus (listsOf (rulesIn rules)) asOf, prices)]

structure RuleAnswers where
  accountRules : List Table
  accountPrices : List Table
  parentRules : List Table
  parentPrices : List Table

namespace RuleAnswers

variable (r : RuleAnswers)

def talk (skus : List String) (asOf account : String) (parent : Option String) (resolved : Nat) :
    History :=
  ruleTalk skus asOf account r.accountRules r.accountPrices ++
    match parent, resolved with
    | some parent, 0 => ruleTalk skus asOf parent r.parentRules r.parentPrices
    | _, _ => []

def stages (parent : Option String) (resolved : Nat) : List Stage :=
  .rules (rulesIn r.accountRules) (pricesIn r.accountPrices) .accountDiscount ::
    if resolved = 0 ∧ parent.isSome then
      [.rules (rulesIn r.parentRules) (pricesIn r.parentPrices) .parentDiscount]
    else []

end RuleAnswers

structure Answers extends RuleAnswers where
  parent : List Table
  catalog : List Table
  specials : List Table
  last : List Table
  stock : List Table

namespace Answers

variable (a : Answers) (settings : Settings) (today : Calendar.Date) (request : Request)

def facts : Facts where
  account := request.account
  parent := parentOf request.account (a.parent.headD [])
  catalog := (a.catalog.headD []).filterMap catalogEntry?
  accountRules := rulesIn a.accountRules
  accountPrices := pricesIn a.accountPrices
  parentRules := rulesIn a.parentRules
  parentPrices := pricesIn a.parentPrices
  specials := (a.specials.headD []).filterMap specialPrice?
  transactions := (a.last.headD []).filterMap (transaction? settings)

def talk : History :=
  let skus := request.skusAsAsked
  let asOf := request.asOfText today
  let f := a.facts settings request
  (parentAccount f.account, a.parent) :: (Hasavshevet.catalog skus asOf, a.catalog) ::
    (a.toRuleAnswers.talk skus asOf f.account f.parent (f.resolvedByAccount skus) ++
      [(specialPrices skus f.account f.parent, a.specials),
        (lastPrices settings skus f.account, a.last),
        (Hasavshevet.stock settings skus (request.warehousesOr settings.defaultWarehouses),
          a.stock)])

def stockOf (sku : String) : StockByWarehouse :=
  ((netStock ((a.stock.headD []).filterMap stockMovement?)).get? sku).getD []

def item (sku : String) : Item :=
  let f := a.facts settings request
  match f.listed? sku with
  | some e =>
    withRequest request.document f.account f.parent true
      ((f.priced request.skusAsAsked settings.lastPriceList sku e).toItem (a.stockOf sku))
  | none => { sku := sku, stock := a.stockOf sku }

lemma item_eq (sku : String) : a.item settings request sku =
    let f := a.facts settings request
    let s := f.staged request.skusAsAsked settings.lastPriceList sku
    withRequest request.document f.account f.parent s.known (s.toItem (a.stockOf s.sku)) := by
  dsimp only
  have hknown :=
    (a.facts settings request).known_staged request.skusAsAsked settings.lastPriceList sku
  rw [item, Facts.sku_staged, hknown]
  cases hlisted : (a.facts settings request).listed? sku with
  | some e => rw [Facts.staged_eq_priced _ _ _ hlisted, Option.isSome_some]
  | none =>
    rw [hlisted] at hknown
    rw [withRequest, ItemState.toItem, hknown, Facts.sku_staged]
    rfl

end Answers

section Yields

variable {skus : List String} {heard : History}

lemma yields_parentFor {account : String} (haccount : account.isEmpty = false)
    {out : Except Failure (Option String)} (h : (parentFor account).Yields heard out) :
    ∃ tables, heard = [(parentAccount account, tables)] ∧
      out = .ok (parentOf account (tables.headD [])) := by
  rw [parentFor, if_neg (by simp [haccount])] at h
  obtain ⟨tables, later, rfl, hrest⟩ := Dialogue.yields_rows_bind_iff.mp h
  obtain ⟨rfl, rfl⟩ := Dialogue.yields_pure_iff.mp hrest
  exact ⟨tables, rfl, rfl⟩

lemma map_rules_nil (states : List ItemState) (prices : List ListPrice) (provenance : Provenance) :
    states.map (Stage.rules [] prices provenance).apply = states := by
  have happly : (Stage.rules [] prices provenance).apply = id := by
    funext s
    exact ItemState.applyRules_nil
  rw [happly, List.map_id]

lemma resolvedCount_nil (states : List ItemState) : resolvedCount [] states = 0 := by
  rw [resolvedCount, List.countP_eq_zero]
  intro s _
  simp [ItemState.resolvingRule?_nil]

lemma yields_discounted {asOf owner : String} {provenance : Provenance} {states : List ItemState}
    {out : Except Failure (List ItemState × Nat)}
    (h : (discounted skus asOf owner provenance states).Yields heard out) :
    ∃ rules prices, heard = ruleTalk skus asOf owner rules prices ∧
      out = .ok (states.map (Stage.rules (rulesIn rules) (pricesIn prices) provenance).apply,
        resolvedCount (rulesIn rules) states) := by
  obtain ⟨rules, later, rfl, hrest⟩ := Dialogue.yields_rows_bind_iff.mp h
  dsimp only at hrest
  split at hrest
  · rename_i hempty
    obtain ⟨rfl, rfl⟩ := Dialogue.yields_pure_iff.mp hrest
    have hrules : rulesIn rules = [] := List.isEmpty_iff.mp hempty
    refine ⟨rules, [], ?_, ?_⟩
    · rw [ruleTalk, hrules]
      rfl
    · rw [hrules, map_rules_nil, resolvedCount_nil]
  · rename_i hsome
    have hrules : ¬ (rulesIn rules).isEmpty = true := hsome
    obtain ⟨prices, later, rfl, hnoted⟩ := Dialogue.yields_rows_bind_iff.mp hrest
    have hpure := Dialogue.yields_noted_bind_iff.mp hnoted
    obtain ⟨rfl, rfl⟩ := Dialogue.yields_pure_iff.mp hpure
    refine ⟨rules, prices, ?_, rfl⟩
    rw [ruleTalk, if_neg hrules]
    rfl

lemma yields_discountedByRules {asOf account : String} {parent : Option String}
    {states : List ItemState} {out : Except Failure (List ItemState)}
    (h : (discountedByRules skus asOf account parent states).Yields heard out) :
    ∃ r : RuleAnswers, let resolved := resolvedCount (rulesIn r.accountRules) states
      heard = r.talk skus asOf account parent resolved ∧
        out = .ok (states.map (Stage.run (r.stages parent resolved))) := by
  obtain ⟨_, _, later, hd, rfl, hrest⟩ := Dialogue.yields_bind h
  obtain ⟨rules, prices, rfl, rfl⟩ := yields_discounted hd
  dsimp only at hrest
  split at hrest
  · rename_i owner hcount
    obtain ⟨_, _, after, hd', rfl, hpure⟩ := Dialogue.yields_bind hrest
    obtain ⟨rules', prices', rfl, rfl⟩ := yields_discounted hd'
    obtain ⟨rfl, rfl⟩ := Dialogue.yields_pure_iff.mp hpure
    refine ⟨⟨rules, prices, rules', prices'⟩, ?_, ?_⟩
    · rw [hcount, List.append_nil]
      rfl
    · rw [RuleAnswers.stages, if_pos ⟨hcount, rfl⟩, List.map_map]
      rfl
  · rename_i parent _ _ hno
    obtain ⟨rfl, rfl⟩ := Dialogue.yields_pure_iff.mp hrest
    refine ⟨⟨rules, prices, [], []⟩, ?_, ?_⟩
    · rw [RuleAnswers.talk]
      exact hno
    · have hstage : ¬ (resolvedCount (rulesIn rules) states = 0 ∧ parent.isSome = true) := by
        rintro ⟨hcount, hparent⟩
        obtain ⟨owner, rfl⟩ := Option.isSome_iff_exists.mp hparent
        exact hno owner rfl hcount
      rw [RuleAnswers.stages, if_neg hstage]
      rfl

lemma yields_pricedForAccount {settings : Settings} {asOf account : String}
    {parent : Option String} {states : List ItemState} {out : Except Failure (List ItemState)}
    (h : (pricedForAccount settings skus asOf account parent states).Yields heard out) :
    ∃ (r : RuleAnswers) (specials last : List Table),
      let resolved := resolvedCount (rulesIn r.accountRules) states
      let prices := LastPrices.ofRows ((last.headD []).filterMap (transaction? settings))
      heard = r.talk skus asOf account parent resolved ++
        [(specialPrices skus account parent, specials), (lastPrices settings skus account, last)] ∧
      out = .ok ((states.map (Stage.run (r.stages parent resolved))).map (Stage.run
        [.specials ((specials.headD []).filterMap specialPrice?) account parent, .floor prices,
          .lastPriceList prices settings.lastPriceList])) := by
  obtain ⟨_, _, _, hd, rfl, hrest⟩ := Dialogue.yields_bind h
  obtain ⟨r, rfl, rfl⟩ := yields_discountedByRules hd
  obtain ⟨specials, _, rfl, hlast⟩ := Dialogue.yields_rows_bind_iff.mp hrest
  obtain ⟨last, _, rfl, hpure⟩ := Dialogue.yields_rows_bind_iff.mp hlast
  obtain ⟨rfl, rfl⟩ := Dialogue.yields_pure_iff.mp hpure
  exact ⟨r, specials, last, rfl, rfl⟩

lemma yields_answer_of_no_skus {settings : Settings} {today : Calendar.Date} {request : Request}
    {out : Except Failure (List Item)} (hskus : request.skusAsAsked = [])
    (h : (answer settings today request).Yields heard out) : out = .ok [] := by
  rw [answer_eq, if_pos (List.isEmpty_iff.mpr hskus)] at h
  exact (Dialogue.yields_pure_iff.mp h).2

lemma yields_answer {settings : Settings} {today : Calendar.Date} {request : Request}
    {out : Except Failure (List Item)} (haccount : request.account.isEmpty = false)
    (hskus : request.skusAsAsked ≠ []) (h : (answer settings today request).Yields heard out) :
    ∃ a : Answers, heard = a.talk settings today request ∧
      out = .ok (request.skusAsAsked.map (a.item settings request)) := by
  rw [answer_eq, if_neg (by simp [hskus])] at h
  obtain ⟨_, _, _, hd, rfl, hrest⟩ := Dialogue.yields_bind h
  obtain ⟨parentRows, rfl, rfl⟩ := yields_parentFor haccount hd
  obtain ⟨catalogRows, _, rfl, hpriced⟩ := Dialogue.yields_rows_bind_iff.mp hrest
  obtain ⟨_, _, _, hstates, rfl, hstock⟩ := Dialogue.yields_bind hpriced
  rw [priced, if_neg (by simp [haccount])] at hstates
  obtain ⟨r, specials, last, rfl, rfl⟩ := yields_pricedForAccount hstates
  obtain ⟨stockRows, _, rfl, hpure⟩ := Dialogue.yields_rows_bind_iff.mp hstock
  obtain ⟨rfl, rfl⟩ := Dialogue.yields_pure_iff.mp hpure
  let a : Answers := ⟨r, parentRows, catalogRows, specials, last, stockRows⟩
  have hcount : resolvedCount (rulesIn r.accountRules)
      (request.skusAsAsked.map (ItemState.seed ((catalogRows.headD []).filterMap catalogEntry?))) =
      (a.facts settings request).resolvedByAccount request.skusAsAsked :=
    (a.facts settings request).resolvedCount_seed _
  refine ⟨a, ?_, ?_⟩
  · rw [Answers.talk, ← hcount]
    simp only [List.append_assoc]
    rfl
  · rw [itemsOf, hcount, List.map_map, List.map_map, List.map_map, List.map_map]
    exact congrArg Except.ok
      (List.map_congr_left fun sku _ => (a.item_eq settings request sku).symm)

end Yields

section Run

variable {db : Database} {settings : Settings} {today : Calendar.Date} {limit : Nat}
  {request : Request}

lemma run_cases (haccount : request.account.isEmpty = false) :
    let t := Service.PriceStock.run db .hasavshevet settings today limit request
    (∃ a : Answers,
      (request.skusAsAsked ≠ [] → t.calls = (a.talk settings today request).map Prod.fst ∧
        Heard db (a.talk settings today request)) ∧
      t.outcome = .ok (request.skusAsAsked.map (a.item settings request))) ∨
    ∃ earlier s, t.calls = earlier ++ [s] ∧
      (t.outcome = .error (timeoutFailure Service.PriceStock.op limit) ∧ (db earlier s).delay ≠ 0 ∨
        ∃ failure, (db earlier s).answer = .error failure) := by
  rcases Dialogue.run_cases db Service.PriceStock.op limit (answer settings today request) with
    ⟨heard, hheard, hyields, hcalls⟩ | ⟨earlier, s, hcalls, hlate | ⟨failure, hfailed, -⟩⟩
  · refine Or.inl ?_
    by_cases hskus : request.skusAsAsked = []
    · refine ⟨⟨⟨[], [], [], []⟩, [], [], [], [], []⟩, fun h => absurd hskus h, ?_⟩
      rw [hskus]
      exact yields_answer_of_no_skus hskus hyields
    · obtain ⟨a, rfl, hout⟩ := yields_answer haccount hskus hyields
      exact ⟨a, fun _ => ⟨hcalls, hheard⟩, hout⟩
  · exact Or.inr ⟨earlier, s, hcalls, Or.inl hlate⟩
  · exact Or.inr ⟨earlier, s, hcalls, Or.inr ⟨failure, hfailed⟩⟩

/-- Unless the last statement fails or comes too late, every item of the answer is the closed form of
the rows that were answered. -/
theorem run_eq_closedForm (haccount : request.account.isEmpty = false)
    (hanswered : ∀ earlier s,
      (Service.PriceStock.run db .hasavshevet settings today limit request).calls = earlier ++ [s] →
        ∀ failure, (db earlier s).answer ≠ .error failure)
    (hintime : (Service.PriceStock.run db .hasavshevet settings today limit request).outcome ≠
      .error (timeoutFailure Service.PriceStock.op limit)) :
    let t := Service.PriceStock.run db .hasavshevet settings today limit request
    ∃ a : Answers,
      (request.skusAsAsked ≠ [] → t.calls = (a.talk settings today request).map Prod.fst ∧
        Heard db (a.talk settings today request)) ∧
      t.outcome = .ok (request.skusAsAsked.map (a.item settings request)) := by
  rcases run_cases haccount with h | ⟨earlier, s, hcalls, ⟨hlate, -⟩ | ⟨failure, hfailed⟩⟩
  · exact h
  · exact absurd hlate hintime
  · exact absurd hfailed (hanswered earlier s hcalls failure)

end Run

def accountRequest : Request where
  skus := ["A"]
  accountId := "10"

def discountDatabase : Database := fun _ _ =>
  ⟨0, .ok [[[("ItemKey", .text "A"), ("AccountKey", .text "10"), ("DiscountCode", .text "D"),
    ("PriceListNumber", .number (.int 99)), ("Price", .number (.int 80)),
    ("DiscountPrc", .number (.int 10)), ("ItemPrice", .number (.int 100))]]]⟩

theorem run_eq_closedForm_discount :
    let t :=
      Service.PriceStock.run discountDatabase .hasavshevet {} ⟨2024, 5, 1⟩ 8000 accountRequest
    ∃ a : Answers,
      (accountRequest.skusAsAsked ≠ [] →
        t.calls = (a.talk {} ⟨2024, 5, 1⟩ accountRequest).map Prod.fst ∧
          Heard discountDatabase (a.talk {} ⟨2024, 5, 1⟩ accountRequest)) ∧
      t.outcome = .ok (accountRequest.skusAsAsked.map (a.item {} accountRequest)) := by
  have haccount : accountRequest.account.isEmpty = false := by decide +kernel
  have hanswered : ∀ earlier s failure, (discountDatabase earlier s).answer ≠ .error failure :=
    fun _ _ _ h => nomatch h
  have hcases := @run_cases discountDatabase {} ⟨2024, 5, 1⟩ 8000 accountRequest haccount
  refine run_eq_closedForm haccount (fun earlier s _ => hanswered earlier s) ?_
  rcases hcases with
    ⟨a, -, hout⟩ | ⟨earlier, s, -, ⟨-, hdelay⟩ | ⟨failure, hfailed⟩⟩
  · rw [hout]
    exact fun h => nomatch h
  · exact absurd rfl hdelay
  · exact absurd hfailed (hanswered earlier s failure)

end ErpGateway.Erp.Hasavshevet
