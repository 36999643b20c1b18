import ErpGateway.Proofs.Erp.Batch
import ErpGateway.Proofs.Erp.Script
import ErpGateway.Proofs.Erp.Statements
import ErpGateway.Proofs.Lockstep

namespace ErpGateway.Erp

open Sql Pricing

namespace Hasavshevet

section InStep

open Dialogue

variable {settings : Settings} {skus skus' : List String} {asOf : String}
  {states states' : List ItemState}

lemma inStep_discounted (owner : String) (provenance : Provenance) (h : states.Perm states') :
    InStep (fun r r' => r.1.Perm r'.1 ∧ r.2 = r'.2) (discounted skus asOf owner provenance states)
      (discounted skus' asOf owner provenance states') := by
  refine inStep_rows_bind fun rules => ?_
  dsimp only
  split
  · exact inStep_pure ⟨h, rfl⟩
  · refine inStep_rows_bind fun prices => inStep_noted_bind (inStep_pure ⟨h.map _, ?_⟩)
    exact h.countP_eq _

lemma inStep_discountedByRules (account : String) (parent : Option String)
    (h : states.Perm states') :
    InStep List.Perm (discountedByRules skus asOf account parent states)
      (discountedByRules skus' asOf account parent states') := by
  refine (inStep_discounted account .accountDiscount h).bind ?_
  rintro ⟨after, resolved⟩ ⟨after', _⟩ ⟨hafter, rfl⟩
  dsimp only at hafter ⊢
  split
  · refine (inStep_discounted _ .parentDiscount hafter).bind fun r r' hr => ?_
    exact inStep_pure hr.1
  · exact inStep_pure hafter

lemma inStep_pricedForAccount (account : String) (parent : Option String)
    (h : states.Perm states') :
    InStep List.Perm (pricedForAccount settings skus asOf account parent states)
      (pricedForAccount settings skus' asOf account parent states') := by
  refine (inStep_discountedByRules account parent h).bind fun after after' hafter => ?_
  refine inStep_rows_bind fun specials => inStep_rows_bind fun last => ?_
  exact inStep_pure (hafter.map _)

variable {today : Calendar.Date} {request request' : Request}

lemma inStep_priced (h : request.Respelled request') (parent : Option String)
    (hstates : states.Perm states') :
    InStep List.Perm (priced settings today request parent states)
      (priced settings today request' parent states') := by
  rw [priced, priced, h.account_eq]
  split
  · exact inStep_pure hstates
  · rw [h.asOfText_eq]
    exact inStep_pricedForAccount _ _ hstates

lemma inStep_answer (h : request.Respelled request') :
    InStep List.Perm (answer settings today request) (answer settings today request') := by
  have hskus := h.perm_skusAsAsked
  have hempty : request.skusAsAsked.isEmpty = request'.skusAsAsked.isEmpty := by
    rw [Bool.eq_iff_iff, List.isEmpty_iff_length_eq_zero, List.isEmpty_iff_length_eq_zero,
      hskus.length_eq]
  rw [answer_eq, answer_eq, hempty]
  split
  · exact inStep_pure List.Perm.rfl
  · rw [h.account_eq]
    refine (InStep.refl _).bind fun parent _ hparent => ?_
    subst hparent
    refine inStep_rows_bind fun rows => (inStep_priced h parent (hskus.map _)).bind ?_
    intro after after' hafter
    refine inStep_rows_bind fun stock => inStep_pure ?_
    rw [itemsOf, itemsOf, h.document_eq, h.account_eq]
    exact (hafter.map _).map _

end InStep

end Hasavshevet

namespace Sap

lemma answer_respelled {settings : Settings} {today : Calendar.Date} {request request' : Request}
    (h : request.Respelled request') :
    answer settings today request = answer settings today request' := by
  rw [answer, answer, h.skusAscending_eq, h.account_eq, h.asOfText_eq, h.warehousesOr_eq]

end Sap

def Precedes (request : Request) : Backend → String → String → Prop
  | .hasavshevet, a, b =>
    (request.skus.map Text.trimmed).idxOf a < (request.skus.map Text.trimmed).idxOf b
  | .sap, a, b => Text.utf8 a < Text.utf8 b

section Run

variable {db db' : Database} {settings : Settings} {today : Calendar.Date} {limit : Nat}
  {request request' : Request}

lemma mem_skusOf {backend : Backend} {sku : String} :
    sku ∈ skusOf request backend ↔ request.Names sku := by
  cases backend with
  | hasavshevet => exact Request.mem_skusAsAsked
  | sap => exact Request.mem_skusAscending

lemma pairwise_skusOf (request : Request) (backend : Backend) :
    (skusOf request backend).Pairwise (Precedes request backend) := by
  cases backend with
  | hasavshevet => exact pairwise_idxOf_distinctTrimmed request.skus
  | sap =>
    have hsorted := Text.pairwise_lt_ascending (nodup_distinctTrimmed request.skus)
    exact hsorted.imp Text.utf8_lt_utf8

lemma exists_items (backend : Backend) (haccount : backend = .sap → request.account.isEmpty = false)
    (h : db.Answered limit
      (Service.PriceStock.run db backend settings today limit request).calls) :
    ∃ items, (Service.PriceStock.run db backend settings today limit request).outcome = .ok items ∧
      items.map Item.sku = skusOf request backend := by
  cases backend with
  | hasavshevet =>
    obtain ⟨a, -, -, hout⟩ := Hasavshevet.exists_answers h
    refine ⟨_, hout, ?_⟩
    rw [List.map_map]
    exact (List.map_congr_left fun sku _ => a.sku_item sku).trans (List.map_id _)
  | sap =>
    by_cases hskus : request.skusAscending = []
    · exact ⟨[], (Sap.run_of_no_skus hskus).2, hskus.symm⟩
    · rw [(Sap.run_batch (haccount rfl) hskus).1] at h
      obtain ⟨tables, hanswers⟩ := h.exists_answers
      refine ⟨_, Sap.run_of_answers (haccount rfl) hskus hanswers, ?_⟩
      rw [Sap.itemsFrom, List.map_map]
      exact (List.map_congr_left fun sku _ => Sap.sku_itemFrom _ _ _ _ sku).trans (List.map_id _)

lemma items_of_respelled (h : request.Respelled request')
    (hanswered : db.Answered limit
      (Service.PriceStock.run db .hasavshevet settings today limit request).calls)
    (hanswered' : db'.Answered limit
      (Service.PriceStock.run db' .hasavshevet settings today limit request').calls)
    (hsame : Dialogue.SameReplies db db'
      (Service.PriceStock.run db .hasavshevet settings today limit request).calls
      (Service.PriceStock.run db' .hasavshevet settings today limit request').calls) :
    ∃ items items',
      (Service.PriceStock.run db .hasavshevet settings today limit request).outcome = .ok items ∧
      (Service.PriceStock.run db' .hasavshevet settings today limit request').outcome =
        .ok items' ∧
      ∀ sku, itemIn? items sku = itemIn? items' sku := by
  obtain ⟨items, hout, hskus⟩ := exists_items .hasavshevet nofun hanswered
  obtain ⟨items', hout', -⟩ := exists_items .hasavshevet nofun hanswered'
  have hperm : Dialogue.Related List.Perm (.ok items) (.ok items') := by
    rw [← hout, ← hout']
    exact (Hasavshevet.inStep_answer h).related_run hanswered hanswered' hsame
  have hnodup : (items.map Item.sku).Nodup := by
    rw [hskus]
    exact nodup_skusOf request .hasavshevet
  exact ⟨items, items', hout, hout', itemIn?_of_perm hnodup hperm⟩

/-- An answer holds each item that is asked for once, in the order of the backend. However the items and
the warehouses are spelled, SAP is asked the same and answers the same, and Hasavshevet, when it is answered
with the same rows, tells the same of every item. -/
theorem answer_of_names (db : Database) (settings : Settings) (today : Calendar.Date) (limit : Nat)
    (request : Request) :
    (∀ backend, (backend = .sap → request.account.isEmpty = false) →
      db.Answered limit
        (Service.PriceStock.run db backend settings today limit request).calls →
      ∃ items,
        (Service.PriceStock.run db backend settings today limit request).outcome = .ok items ∧
        (items.map Item.sku).Nodup ∧ (items.map Item.sku).Pairwise (Precedes request backend) ∧
        ∀ sku, sku ∈ items.map Item.sku ↔ request.Names sku) ∧
    ∀ request', request.Respelled request' →
      (let t := Service.PriceStock.run db .sap settings today limit request
       let t' := Service.PriceStock.run db .sap settings today limit request'
       t'.calls = t.calls ∧ t'.outcome = t.outcome ∧
        ∀ sku, request.Names sku → request.account.isEmpty = false →
          t.calls = [Sap.batchFor settings today request]) ∧
      ∀ db' : Database,
        let t := Service.PriceStock.run db .hasavshevet settings today limit request
        let t' := Service.PriceStock.run db' .hasavshevet settings today limit request'
        db.Answered limit t.calls → db'.Answered limit t'.calls →
        Dialogue.SameReplies db db' t.calls t'.calls →
        ∃ items items', t.outcome = .ok items ∧ t'.outcome = .ok items' ∧
          ∀ sku, itemIn? items sku = itemIn? items' sku := by
  refine ⟨?_, fun request' h => ⟨⟨?_, ?_, ?_⟩, ?_⟩⟩
  · intro backend haccount hanswered
    obtain ⟨items, hout, hskus⟩ := exists_items backend haccount hanswered
    refine ⟨items, hout, ?_⟩
    rw [hskus]
    exact ⟨nodup_skusOf request backend, pairwise_skusOf request backend, fun sku => mem_skusOf⟩
  · change ((Sap.answer settings today request').run db Service.PriceStock.op limit).calls =
      ((Sap.answer settings today request).run db Service.PriceStock.op limit).calls
    rw [Sap.answer_respelled h]
  · change ((Sap.answer settings today request').run db Service.PriceStock.op limit).outcome =
      ((Sap.answer settings today request).run db Service.PriceStock.op limit).outcome
    rw [Sap.answer_respelled h]
  · intro sku hsku haccount
    exact (Sap.run_batch haccount (List.ne_nil_of_mem (Request.mem_skusAscending.mpr hsku))).1
  · intro db' t t' hanswered hanswered' hsame
    exact items_of_respelled h hanswered hanswered' hsame

end Run

def spelledRequest : Request where
  skus := ["B", " A", "B"]
  warehouses := ["1", "2"]
  accountId := "10"

def respelledRequest : Request where
  skus := ["A", "B "]
  warehouses := [" 1", "2", "1"]
  accountId := "10"

lemma respelled_spelledRequest : spelledRequest.Respelled respelledRequest where
  items sku := by
    have htrimmed : Text.trimmed "B" = "B" ∧ Text.trimmed "B " = "B" ∧ Text.trimmed " A" = "A" ∧
        Text.trimmed "A" = "A" := by
      decide +kernel
    obtain ⟨hb, hb', ha, ha'⟩ := htrimmed
    simp only [Request.Names, spelledRequest, respelledRequest, List.mem_cons, List.not_mem_nil,
      or_false, exists_eq_or_imp, exists_eq_left, hb, hb', ha, ha']
    tauto
  warehouses := by decide +kernel
  accountId := rfl
  hints := rfl
  asOf := rfl

def crowdedRows : Table :=
  ["A", "C", "A", "B"].map fun sku =>
    [("ItemKey", .text sku), ("ItemCode", .text sku), ("Warehouse", .text "1"),
      ("WhsCode", .text "1"), ("ItemPrice", .number (.int 3)), ("OnHand", .number (.int 5))]

def crowdedDatabase : Database :=
  fun _ _ => ⟨0, .ok (List.replicate 8 crowdedRows)⟩

theorem answer_of_names_respelled :
    (let t := Service.PriceStock.run crowdedDatabase .sap {} ⟨2024, 5, 1⟩ 8000 spelledRequest
     let t' := Service.PriceStock.run crowdedDatabase .sap {} ⟨2024, 5, 1⟩ 8000 respelledRequest
     t'.calls = [Sap.batchFor {} ⟨2024, 5, 1⟩ spelledRequest] ∧ t'.outcome = t.outcome) ∧
    (let t :=
       Service.PriceStock.run crowdedDatabase .hasavshevet {} ⟨2024, 5, 1⟩ 8000 spelledRequest
     let t' :=
       Service.PriceStock.run crowdedDatabase .hasavshevet {} ⟨2024, 5, 1⟩ 8000 respelledRequest
     ∃ items items', t.outcome = .ok items ∧ t'.outcome = .ok items' ∧
       (items.map Item.sku).Nodup ∧ "C" ∉ items.map Item.sku ∧
       (items.map Item.sku).Pairwise (Precedes spelledRequest .hasavshevet) ∧
       ∀ sku, itemIn? items sku = itemIn? items' sku) := by
  have hanswered : ∀ calls, crowdedDatabase.Answered 8000 calls :=
    Database.answered_of_prompt (fun _ _ => ⟨List.replicate 8 crowdedRows, rfl⟩) 8000
  have hsku : spelledRequest.Names "B" := ⟨by decide, "B", by decide, by decide +kernel⟩
  have hother : ¬ spelledRequest.Names "C" := by
    rintro ⟨-, text, htext, htrimmed⟩
    have hall : ∀ text ∈ ["B", " A", "B"], Text.trimmed text ≠ "C" := by decide +kernel
    exact hall text htext htrimmed
  have haccount : spelledRequest.account.isEmpty = false := by decide +kernel
  obtain ⟨hitems, hrespelled⟩ := answer_of_names crowdedDatabase {} ⟨2024, 5, 1⟩ 8000 spelledRequest
  obtain ⟨⟨hcalls, hout, hbatch⟩, hsame⟩ := hrespelled respelledRequest respelled_spelledRequest
  refine ⟨⟨hcalls.trans (hbatch "B" hsku haccount), hout⟩, ?_⟩
  obtain ⟨items, hrun, hnodup, horder, hskus⟩ := hitems .hasavshevet nofun (hanswered _)
  obtain ⟨items₁, items', hrun₁, hrun', heq⟩ := hsame crowdedDatabase (hanswered _) (hanswered _)
    fun _ _ _ _ _ _ _ _ _ => rfl
  obtain rfl : items = items₁ := Except.ok.inj (hrun.symm.trans hrun₁)
  exact ⟨items, items', hrun, hrun', hnodup, fun hmem => hother ((hskus "C").mp hmem), horder, heq⟩

end ErpGateway.Erp
