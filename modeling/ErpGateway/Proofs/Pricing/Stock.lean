import ErpGateway.Pricing.Stock
import ErpGateway.Proofs.Keyed

namespace ErpGateway.Pricing

def rowsAt (sku warehouse : String) (rows : List StockMovement) : List StockMovement :=
  rows.filter fun m => decide (m.sku = sku ∧ m.warehouse = warehouse)

def balance (rows : List StockMovement) : Float :=
  rows.foldl (fun total m => total + (m.onHand - m.openOrders)) 0.0

def stockAt (stock : Keyed String StockByWarehouse) (sku warehouse : String) : Option Float :=
  (stock.get? sku).bind (Keyed.get? warehouse)

structure Distinct (stock : Keyed String StockByWarehouse) : Prop where
  items : (stock.map Prod.fst).Nodup
  warehouses : ∀ e ∈ stock, (e.2.map Prod.fst).Nodup

section Step

variable {stock : Keyed String StockByWarehouse}

lemma Distinct.addMovement (h : Distinct stock) (m : StockMovement) :
    Distinct (addMovement stock m) where
  items := Keyed.nodup_keys_put h.items
  warehouses := by
    intro e he
    rcases Keyed.mem_of_mem_put he with rfl | he
    · refine Keyed.nodup_keys_put ?_
      cases hknown : stock.get? m.sku with
      | none => exact List.nodup_nil
      | some warehouses => exact h.warehouses _ (Keyed.mem_of_get? hknown)
    · exact h.warehouses e he

lemma stockAt_addMovement (stock : Keyed String StockByWarehouse) (m : StockMovement)
    (sku warehouse : String) :
    stockAt (addMovement stock m) sku warehouse =
      if m.sku = sku ∧ m.warehouse = warehouse then
        some ((stockAt stock sku warehouse).getD 0.0 + m.net)
      else stockAt stock sku warehouse := by
  rw [stockAt, stockAt, addMovement, Keyed.get?_modify]
  by_cases hsku : m.sku = sku
  · rw [if_pos hsku.symm, Option.bind_some, Keyed.get?_modify, ← hsku]
    -- an item without stock so far is one with no warehouses
    have hentry : ∀ name, Keyed.get? name ((stock.get? m.sku).getD []) =
        (stock.get? m.sku).bind (Keyed.get? name) := by
      intro name
      cases stock.get? m.sku <;> rfl
    rw [hentry, hentry]
    by_cases hwarehouse : m.warehouse = warehouse
    · rw [if_pos hwarehouse.symm, if_pos ⟨rfl, hwarehouse⟩, hwarehouse]
    · rw [if_neg (Ne.symm hwarehouse), if_neg fun h => hwarehouse h.2]
  · rw [if_neg (Ne.symm hsku), if_neg fun h => hsku h.1]

end Step

section Run

variable (rows : List StockMovement)

lemma distinct_netStock : Distinct (netStock rows) := by
  induction rows using List.reverseRecOn with
  | nil => exact ⟨List.nodup_nil, fun _ he => absurd he List.not_mem_nil⟩
  | append_singleton rows m ih =>
    rw [netStock, List.foldl_append]
    exact ih.addMovement m

variable (sku warehouse : String)

lemma stockAt_netStock :
    stockAt (netStock rows) sku warehouse =
      if rowsAt sku warehouse rows = [] then none
      else some (balance (rowsAt sku warehouse rows)) := by
  induction rows using List.reverseRecOn with
  | nil => rfl
  | append_singleton rows m ih =>
    have hrows : rowsAt sku warehouse (rows ++ [m]) =
        rowsAt sku warehouse rows ++ rowsAt sku warehouse [m] := List.filter_append ..
    rw [netStock, List.foldl_append, List.foldl_cons, List.foldl_nil, ← netStock,
      stockAt_addMovement, ih, hrows]
    by_cases hown : m.sku = sku ∧ m.warehouse = warehouse
    · have hlast : rowsAt sku warehouse [m] = [m] := by simp [rowsAt, hown]
      rw [if_pos hown, hlast, if_neg (List.concat_ne_nil _ _), balance, balance, List.foldl_append]
      split
      · rename_i hnone
        rw [hnone]
        rfl
      · rfl
    · have hlast : rowsAt sku warehouse [m] = [] := by
        rw [rowsAt, List.filter_cons_of_neg (by simpa using hown), List.filter_nil]
      rw [if_neg hown, hlast, List.append_nil]

lemma rowsAt_ne_nil_iff :
    rowsAt sku warehouse rows ≠ [] ↔ ∃ m ∈ rows, m.sku = sku ∧ m.warehouse = warehouse := by
  rw [rowsAt, Ne, List.filter_eq_nil_iff]
  simp

lemma stockAt_eq_some_iff_mem {stock : Keyed String StockByWarehouse} (h : Distinct stock)
    (value : Float) :
    stockAt stock sku warehouse = some value ↔
      ∃ warehouses, (sku, warehouses) ∈ stock ∧ (warehouse, value) ∈ warehouses := by
  rw [stockAt, Option.bind_eq_some_iff]
  constructor
  · rintro ⟨warehouses, hitem, hvalue⟩
    exact ⟨warehouses, Keyed.mem_of_get? hitem, Keyed.mem_of_get? hvalue⟩
  · rintro ⟨warehouses, hitem, hvalue⟩
    exact ⟨warehouses, Keyed.get?_of_mem h.items hitem,
      Keyed.get?_of_mem (h.warehouses _ hitem) hvalue⟩

/-- Rows of stock are grouped by item and warehouse. A pair has an entry exactly when some row is for it;
the entry adds up the rows of the pair in their order; and what rows there are for other pairs, and how
they stand between those of the pair, makes no difference. -/
theorem netStock_groups_rows :
    (∀ value,
      (∃ warehouses, (sku, warehouses) ∈ netStock rows ∧ (warehouse, value) ∈ warehouses) ↔
        stockAt (netStock rows) sku warehouse = some value) ∧
    ((∃ value, stockAt (netStock rows) sku warehouse = some value) ↔
      ∃ m ∈ rows, m.sku = sku ∧ m.warehouse = warehouse) ∧
    (∀ value, stockAt (netStock rows) sku warehouse = some value →
      value = (rowsAt sku warehouse rows).foldl
        (fun total m => total + (m.onHand - m.openOrders)) 0.0) ∧
    ∀ rows', rowsAt sku warehouse rows' = rowsAt sku warehouse rows →
      stockAt (netStock rows') sku warehouse = stockAt (netStock rows) sku warehouse := by
  refine ⟨?_, ?_, ?_, ?_⟩
  · intro value
    exact (stockAt_eq_some_iff_mem sku warehouse (distinct_netStock rows) value).symm
  · rw [← rowsAt_ne_nil_iff, stockAt_netStock]
    split
    · rename_i hnone
      simp [hnone]
    · rename_i hsome
      exact ⟨fun _ => hsome, fun _ => ⟨_, rfl⟩⟩
  · intro value hvalue
    rw [stockAt_netStock] at hvalue
    split at hvalue
    · cases hvalue
    · exact (Option.some.inj hvalue).symm
  · intro rows' hrows
    rw [stockAt_netStock, stockAt_netStock, hrows]

end Run

example :
    netStock [⟨"A", "10", 5.0, 2.0⟩, ⟨"B", "10", 7.0, 0.0⟩, ⟨"A", "20", 0.0, 3.0⟩, ⟨"A", "10", 1.0, 0.0⟩,
        ⟨"B", "10", 0.0, 9.0⟩] =
      [("A", [("10", 4.0), ("20", -3.0)]), ("B", [("10", -2.0)])] := by
  decide +kernel

end ErpGateway.Pricing
