import ErpGateway.Proofs.Dialogue
import ErpGateway.Proofs.Pricing.Items
import ErpGateway.Service.PriceStock

namespace ErpGateway.Erp.Sap

open Sql Pricing

def itemFrom (tables : List Table) (customer : String) (skus warehouses : List String)
    (sku : String) : Item :=
  let snapshot := Snapshot.ofTables tables
  itemOf snapshot customer (rollUp (snapshot.candidates skus) warehouses) sku

variable (settings : Settings) (today : Calendar.Date) (request : Request)

def batchFor : Statement :=
  batch request.account (request.asOfText today) request.skusAscending
    (request.warehousesOr settings.defaultWarehouses)

def itemsFrom (tables : List Table) : List Item :=
  request.skusAscending.map (itemFrom tables request.account request.skusAscending
    (request.warehousesOr settings.defaultWarehouses))

lemma sku_withPrice (s : Snapshot) (customer : String) (item : Item) :
    (withPrice s customer item).sku = item.sku := by
  rw [withPrice]
  split
  · simp [putQuote]
  · rfl

lemma sku_withStock (stock : Keyed String ComponentStock) (item : Item) :
    (withStock stock item).sku = item.sku := by
  simp only [withStock]
  split <;> split <;> rfl

lemma sku_itemFrom (tables : List Table) (customer : String) (skus warehouses : List String)
    (sku : String) : (itemFrom tables customer skus warehouses sku).sku = sku := by
  rw [itemFrom, itemOf]
  split
  · rw [sku_withStock, sku_withPrice]
  · rw [sku_withPrice]

section Run

variable {settings today request} {db : Database} {limit : Nat}

lemma answer_eq (haccount : request.account.isEmpty = false) (hskus : request.skusAscending ≠ []) :
    answer settings today request = .ask (batchFor settings today request) fun tables =>
      if !(Snapshot.ofTables tables).customer.found then
        .note (unknownCustomer request.account) (.done (itemsFrom settings request tables))
      else .done (itemsFrom settings request tables) := by
  rw [answer]
  dsimp only
  rw [if_neg (by simp [hskus]), if_neg (by simp [haccount])]
  rfl

lemma run_of_no_skus (hskus : request.skusAscending = []) :
    let t := Service.PriceStock.run db .sap settings today limit request
    t.calls = [] ∧ t.outcome = .ok [] := by
  have hanswer : answer settings today request = .done [] := by
    rw [answer]
    dsimp only
    rw [if_pos (List.isEmpty_iff.mpr hskus)]
    rfl
  change ((answer settings today request).run db Service.PriceStock.op limit).calls = [] ∧
    ((answer settings today request).run db Service.PriceStock.op limit).outcome = .ok []
  rw [hanswer]
  exact ⟨rfl, rfl⟩

lemma run_batch (haccount : request.account.isEmpty = false) (hskus : request.skusAscending ≠ []) :
    let t := Service.PriceStock.run db .sap settings today limit request
    let reply := db [] (batchFor settings today request)
    t.calls = [batchFor settings today request] ∧
      t.outcome =
        if limit < reply.delay then .error (timeoutFailure Service.PriceStock.op limit)
        else reply.answer.map (itemsFrom settings request) := by
  dsimp only
  change ((answer settings today request).run db Service.PriceStock.op limit).calls = _ ∧
    ((answer settings today request).run db Service.PriceStock.op limit).outcome = _
  rw [answer_eq haccount hskus, Dialogue.run, Dialogue.runFrom, Nat.zero_add]
  generalize db [] (batchFor settings today request) = reply
  obtain ⟨delay, tables⟩ := reply
  dsimp only
  split
  · exact ⟨rfl, rfl⟩
  · cases tables with
    | error failure => exact ⟨rfl, rfl⟩
    | ok tables =>
      dsimp only
      split <;> exact ⟨rfl, rfl⟩

lemma run_of_answers {tables : List Table} (haccount : request.account.isEmpty = false)
    (hskus : request.skusAscending ≠ [])
    (h : db.Answers limit (batchFor settings today request) tables) :
    (Service.PriceStock.run db .sap settings today limit request).outcome =
      .ok (itemsFrom settings request tables) := by
  rw [(run_batch haccount hskus).2, if_neg (Nat.not_lt_of_le h.intime), h.answer]
  rfl

end Run

end ErpGateway.Erp.Sap
