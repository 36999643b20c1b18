import ErpGateway.Proofs.Erp.Batch
import ErpGateway.Proofs.Erp.Script
import ErpGateway.Proofs.Erp.Statements
import ErpGateway.Proofs.Sql.Bound

namespace ErpGateway.Erp

open Sql Pricing

def dayNames : List String :=
  ["asOf", "asOfDate"]

def BindsDay (day : String) (s : Statement) : Prop :=
  ∃ (kind : Kind) (counts : Marker → Nat), s.text = kind.form.textFor counts ∧
    ∀ name ∈ dayNames,
      s.param? name = if name ∈ kind.form.names then some (.text day) else none

section Statements

variable {day : String} {s : Statement}

lemma bindsDay_of_eq_fill (kind : Kind) (fixed : Bindings) (values : Marker → List Scalar)
    (hs : s = kind.form.fill fixed values)
    (hday : ∀ name ∈ dayNames,
      s.param? name = if name ∈ kind.form.names then some (.text day) else none) :
    BindsDay day s :=
  ⟨kind, fun m => (values m).length, hs ▸ Form.text_fill, hday⟩

variable (settings : Settings) (skus warehouses : List String)

namespace Hasavshevet

lemma bindsDay_parentAccount (account : String) : BindsDay day (parentAccount account) :=
  bindsDay_of_eq_fill .parentAccount [("account", .text account)] (Lists.values ⟨[], [], []⟩) rfl
    (by simp (disch := decide) [dayNames, Kind.form, parentAccount])

lemma bindsDay_catalog : BindsDay day (catalog skus day) :=
  bindsDay_of_eq_fill .catalog [("asOf", .text day)] (Lists.values ⟨skus, [], []⟩) rfl
    (by simp (disch := decide) [dayNames, Kind.form, catalog])

lemma bindsDay_discountRules (owner : String) : BindsDay day (discountRules skus owner) :=
  bindsDay_of_eq_fill .discountRules [("account", .text owner)] (Lists.values ⟨skus, [], []⟩) rfl
    (by simp (disch := decide) [dayNames, Kind.form, discountRules])

lemma bindsDay_listPrices (lists : List Int) : BindsDay day (listPrices skus lists day) :=
  bindsDay_of_eq_fill .listPrices [("asOf", .text day)] (Lists.values ⟨skus, [], lists⟩) rfl
    (by simp (disch := decide) [dayNames, Kind.form, listPrices])

lemma bindsDay_specialPrices (account : String) (parent : Option String) :
    BindsDay day (specialPrices skus account parent) :=
  bindsDay_of_eq_fill .specialPrices [("account", .text account), ("parent", .ofText? parent)]
    (Lists.values ⟨skus, [], []⟩) rfl
    (by simp (disch := decide) [dayNames, Kind.form, specialPrices])

lemma bindsDay_lastPrices (account : String) :
    BindsDay day (lastPrices settings skus account) :=
  bindsDay_of_eq_fill .lastPrices [("account", .text account),
    ("invoiceDoc", .int settings.invoiceDocument), ("orderDoc", .int settings.orderDocument)]
    (Lists.values ⟨skus, [], []⟩) rfl
    (by simp (disch := decide) [dayNames, Kind.form, lastPrices])

lemma bindsDay_stock : BindsDay day (stock settings skus warehouses) :=
  bindsDay_of_eq_fill .stock [("orderDoc", .int settings.orderDocument),
    ("excludedOrders", .text (settings.excludedOrderPrefix ++ "%"))]
    (Lists.values ⟨skus, warehouses, []⟩) rfl
    (by simp (disch := decide) [dayNames, Kind.form, stock])

end Hasavshevet

lemma Sap.bindsDay_batch (customer : String) : BindsDay day (batch customer day skus warehouses) :=
  bindsDay_of_eq_fill .batch [("cardCode", .text customer), ("asOfDate", .text day)]
    (Lists.values ⟨skus, warehouses, []⟩) rfl
    (by simp (disch := decide) [dayNames, Kind.form, batch])

end Statements

namespace Hasavshevet

variable {settings : Settings} {today : Calendar.Date} {request : Request} {s : Statement}

lemma bindsDay_of_mem_ruleTalk {skus : List String} {day owner : String} {rules prices : List Table}
    (h : s ∈ (ruleTalk skus day owner rules prices).map Prod.fst) : BindsDay day s := by
  rw [ruleTalk, List.map_cons, List.mem_cons] at h
  rcases h with rfl | h
  · exact bindsDay_discountRules skus owner
  · split at h
    · cases h
    · rw [List.mem_singleton.mp h]
      exact bindsDay_listPrices skus _

lemma bindsDay_of_mem_ruleAnswers {r : RuleAnswers} {skus : List String} {day account : String}
    {parent : Option String} {resolved : Nat}
    (h : s ∈ (r.talk skus day account parent resolved).map Prod.fst) : BindsDay day s := by
  unfold RuleAnswers.talk at h
  rw [List.map_append, List.mem_append] at h
  rcases h with h | h
  · exact bindsDay_of_mem_ruleTalk h
  · split at h
    · exact bindsDay_of_mem_ruleTalk h
    · cases h

lemma bindsDay_of_mem_script {a : Answers} (h : s ∈ (a.script settings today request).map Prod.fst) :
    BindsDay (request.asOfText today) s := by
  rw [Answers.script] at h
  split at h
  · -- without an account
    simp only [List.map_cons, List.map_nil, List.mem_cons, List.not_mem_nil, or_false] at h
    rcases h with rfl | rfl
    · exact bindsDay_catalog _
    · exact bindsDay_stock settings _ _
  · simp only [Answers.talk, List.map_cons, List.map_append, List.map_nil, List.mem_cons,
      List.mem_append, List.not_mem_nil, or_false] at h
    rcases h with rfl | rfl | h | rfl | rfl | rfl
    · exact bindsDay_parentAccount _
    · exact bindsDay_catalog _
    · exact bindsDay_of_mem_ruleAnswers h
    · exact bindsDay_specialPrices _ _ _
    · exact bindsDay_lastPrices settings _ _
    · exact bindsDay_stock settings _ _

lemma catalog_mem_script (a : Answers) :
    Hasavshevet.catalog request.skusAsAsked (request.asOfText today) ∈
      (a.script settings today request).map Prod.fst := by
  rw [Answers.script]
  split
  · exact List.mem_cons_self
  · exact List.mem_cons_of_mem _ List.mem_cons_self

end Hasavshevet

section Run

variable {backend : Backend} {settings : Settings} {today : Calendar.Date} {request : Request}
  {heard : History} {out : Except Failure (List Item)} {s : Statement}

lemma Sap.heard_of_yields (h : (Sap.answer settings today request).Yields heard out) :
    heard = [] ∨ ∃ tables, heard = [(Sap.batchFor settings today request, tables)] := by
  by_cases hskus : request.skusAscending = []
  · rw [Sap.answer] at h
    dsimp only at h
    rw [if_pos (List.isEmpty_iff.mpr hskus)] at h
    exact Or.inl (Dialogue.yields_pure_iff.mp h).1
  · cases haccount : request.account.isEmpty with
    | true =>
      rw [Sap.answer] at h
      dsimp only at h
      rw [if_neg (by simp [hskus]), if_pos haccount] at h
      cases h
      exact Or.inl rfl
    | false =>
      rw [Sap.answer_eq haccount hskus] at h
      generalize Sap.batchFor settings today request = asked at h ⊢
      cases h with
      | @ask _ _ tables _ _ h =>
        refine Or.inr ⟨tables, ?_⟩
        dsimp only at h
        split at h
        · cases h with
          | note _ h => cases h; rfl
        · cases h; rfl

lemma bindsDay_of_yields
    (h : (Service.PriceStock.dialogue backend settings today request).Yields heard out)
    (hs : s ∈ heard.map Prod.fst) : BindsDay (request.asOfText today) s := by
  cases backend with
  | hasavshevet =>
    by_cases hskus : request.skusAsAsked = []
    · rw [Service.PriceStock.dialogue, Hasavshevet.answer_eq,
        if_pos (List.isEmpty_iff.mpr hskus)] at h
      rw [(Dialogue.yields_pure_iff.mp h).1] at hs
      cases hs
    · obtain ⟨a, -, rfl, -⟩ := Hasavshevet.yields_script hskus h
      exact Hasavshevet.bindsDay_of_mem_script hs
  | sap =>
    rcases Sap.heard_of_yields h with rfl | ⟨tables, rfl⟩
    · cases hs
    · rw [List.mem_singleton.mp hs]
      exact Sap.bindsDay_batch _ _ _

lemma exists_param_of_answered {db : Database} {limit : Nat} {sku : String}
    (hsku : request.Names sku) (haccount : backend = .sap → request.account.isEmpty = false)
    (h : db.Answered limit
      (Service.PriceStock.run db backend settings today limit request).calls) :
    ∃ s ∈ (Service.PriceStock.run db backend settings today limit request).calls,
      ∃ name ∈ dayNames, s.param? name = some (.text (request.asOfText today)) := by
  cases backend with
  | hasavshevet =>
    obtain ⟨heard, -, hyields, hcalls⟩ := Dialogue.yields_of_answered db _ limit h
    have hskus := List.ne_nil_of_mem (Request.mem_skusAsAsked.mpr hsku)
    obtain ⟨a, -, rfl, -⟩ := Hasavshevet.yields_script hskus hyields
    refine ⟨_, hcalls ▸ Hasavshevet.catalog_mem_script a, "asOf", by decide, ?_⟩
    simp (disch := decide) [Hasavshevet.catalog]
  | sap =>
    have hskus := List.ne_nil_of_mem (Request.mem_skusAscending.mpr hsku)
    have hcalls : (Service.PriceStock.run db .sap settings today limit request).calls =
        [Sap.batchFor settings today request] := (Sap.run_batch (haccount rfl) hskus).1
    refine ⟨_, hcalls ▸ List.mem_singleton_self _, "asOfDate", by decide, ?_⟩
    simp (disch := decide) [Sap.batchFor, Sap.batch]

end Run

lemma calls_bindDay (db : Database) (backend : Backend) (settings : Settings)
    (today : Calendar.Date) (limit : Nat) (request : Request) :
    ∀ s ∈ (Service.PriceStock.run db backend settings today limit request).calls,
      BindsDay (request.asOfText today) s := by
  intro s hs
  obtain ⟨heard, out, hyields, hmem⟩ := Dialogue.exists_yields_of_mem_calls db _ limit hs
  exact bindsDay_of_yields hyields hmem

end ErpGateway.Erp
