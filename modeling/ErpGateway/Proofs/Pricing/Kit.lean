import ErpGateway.Pricing.Kit
import ErpGateway.Proofs.Keyed
import ErpGateway.Proofs.Text.Order

namespace ErpGateway.Pricing

variable (candidates : List StockCandidate) (warehouses : List String) (parent : String)

def candidatesFor : List StockCandidate :=
  candidates.filter fun c => c.parent == parent

def componentsOf : List String :=
  ((candidatesFor candidates parent).filterMap StockCandidate.item).eraseDups

lemma nodup_keys_componentsByParent :
    ((componentsByParent candidates).map Prod.fst).Nodup := by
  induction candidates using List.reverseRecOn with
  | nil => exact List.nodup_nil
  | append_singleton candidates c ih =>
    rw [componentsByParent, List.foldl_append]
    exact Keyed.nodup_keys_put ih

lemma eraseDups_append_singleton (as : List String) (a : String) :
    (as ++ [a]).eraseDups = if as.eraseDups.contains a then as.eraseDups else as.eraseDups ++ [a] := by
  have hknown : as.eraseDups.contains a = true ↔ a ∈ as := by
    rw [List.contains_iff_mem, List.mem_eraseDups]
  simp only [hknown]
  exact Text.distinct_append_singleton as a

lemma get?_componentsByParent :
    (componentsByParent candidates).get? parent =
      if (candidatesFor candidates parent).isEmpty then none
      else some (componentsOf candidates parent) := by
  induction candidates using List.reverseRecOn with
  | nil => rfl
  | append_singleton candidates c ih =>
    rw [componentsByParent, List.foldl_append, List.foldl_cons, List.foldl_nil, addComponent,
      Keyed.get?_modify, ← componentsByParent]
    by_cases hc : parent = c.parent
    · have hlast : candidatesFor (candidates ++ [c]) parent =
          candidatesFor candidates parent ++ [c] := by
        simp [candidatesFor, hc]
      have hknown : ((componentsByParent candidates).get? c.parent).getD [] =
          componentsOf candidates parent := by
        rw [← hc, ih]
        split
        · rename_i hnone
          rw [componentsOf, List.isEmpty_iff.mp hnone]
          rfl
        · rfl
      rw [if_pos hc, hknown, hlast, if_neg (by simp), componentsOf, componentsOf, hlast,
        List.filterMap_append]
      cases hitem : c.item with
      | none => simp [hitem]
      | some item =>
        rw [List.filterMap_cons_some hitem, List.filterMap_nil, eraseDups_append_singleton]
    · have hother : candidatesFor (candidates ++ [c]) parent = candidatesFor candidates parent := by
        simp [candidatesFor, Ne.symm hc]
      rw [if_neg hc, ih, componentsOf, componentsOf, hother]

lemma get?_rollUp :
    (rollUp candidates warehouses).get? parent =
      if (componentsOf candidates parent).isEmpty then none
      else some (scarcestIn candidates warehouses parent (componentsOf candidates parent)) := by
  let stock (parent : String) (items : List String) : Option (Keyed String ComponentStock) :=
    if items.isEmpty then none else some (scarcestIn candidates warehouses parent items)
  have hentries : rollUp candidates warehouses = (componentsByParent candidates).filterMap
      fun entry => (stock entry.1 entry.2).map fun perWarehouse => (entry.1, perWarehouse) := by
    rw [rollUp]
    congr 1
    funext entry
    dsimp only [stock]
    split <;> rfl
  rw [hentries, Keyed.get?_filterMap (nodup_keys_componentsByParent candidates),
    get?_componentsByParent]
  split
  · rename_i hnone
    rw [componentsOf, List.isEmpty_iff.mp hnone]
    rfl
  · rfl

section Repeated

variable {candidates warehouses parent} {block rest : List StockCandidate}

lemma componentsOf_of_append (h : candidatesFor candidates parent = block ++ rest)
    (hblock : candidatesFor block parent = block) (hrest : ∀ c ∈ rest, c ∈ block) :
    componentsOf candidates parent = componentsOf block parent := by
  rw [componentsOf, h, List.filterMap_append, componentsOf, hblock]
  refine Text.distinct_append_of_mem ?_
  intro item hitem
  obtain ⟨c, hc, hcitem⟩ := List.mem_filterMap.mp hitem
  exact List.mem_filterMap.mpr ⟨c, hrest c hc, hcitem⟩

lemma find?_concerns (item warehouse : String) :
    candidates.find? (fun c => c.concerns parent item warehouse) =
      (candidatesFor candidates parent).find? fun c => c.concerns parent item warehouse := by
  rw [candidatesFor, List.find?_filter]
  congr 1
  funext c
  rw [Bool.eq_iff_iff]
  simp [StockCandidate.concerns, and_assoc]

lemma componentIn_of_append (h : candidatesFor candidates parent = block ++ rest)
    (hrest : ∀ c ∈ rest, c ∈ block) (warehouse item : String) :
    componentIn candidates parent warehouse item = componentIn block parent warehouse item := by
  have hfind : candidates.find? (fun c => c.concerns parent item warehouse) =
      block.find? fun c => c.concerns parent item warehouse := by
    rw [find?_concerns, h, List.find?_append]
    cases hblock : block.find? fun c => c.concerns parent item warehouse with
    | some c => rfl
    | none =>
      rw [Option.none_or, List.find?_eq_none]
      intro c hc
      exact List.find?_eq_none.mp hblock c (hrest c hc)
  rw [componentIn, componentIn, hfind]

theorem get?_rollUp_of_append (h : candidatesFor candidates parent = block ++ rest)
    (hblock : candidatesFor block parent = block) (hrest : ∀ c ∈ rest, c ∈ block) :
    (rollUp candidates warehouses).get? parent = (rollUp block warehouses).get? parent := by
  have hcomponent : componentIn candidates parent = componentIn block parent := by
    funext warehouse item
    exact componentIn_of_append h hrest warehouse item
  rw [get?_rollUp, get?_rollUp, componentsOf_of_append h hblock hrest, scarcestIn, scarcestIn,
    hcomponent]

end Repeated

end ErpGateway.Pricing
