import ErpGateway.Proofs.Erp.OwnRows
import ErpGateway.Proofs.Pricing.Least

namespace ErpGateway.Erp.Sap

open Sql Pricing

def figuresOf (r : Row) : Figures :=
  ⟨r.signed? "OnHand", r.float? "OnOrder", r.float? "IsCommited"⟩

def stockRowIn? (stock : Table) (warehouse item : String) : Option Row :=
  (rowsOf "ItemCode" item stock).find? fun r =>
    (Row.text? r "WhsCode").map Text.trimmed == some warehouse

def stockIn (stock : Table) (warehouse item : String) : ComponentStock :=
  ⟨item, ((stockRowIn? stock warehouse item).map figuresOf).getD {}⟩

def onHandRank (c : ComponentStock) : WithTop Int :=
  c.figures.onHand.elim ⊤ fun q => (q.orderKey : WithTop Int)

def limiters (sku : String) (bill : Table) : List String :=
  Text.distinct (stockedAs sku bill)

def scarcestOf (stock : Table) (items warehouses : List String) : Keyed String ComponentStock :=
  Keyed.ofList <| warehouses.filterMap fun warehouse =>
    (scarcest? (items.map (stockIn stock warehouse))).map fun c => (warehouse, c)

def Repeats (line : Row) (earlier : Table) : Prop :=
  ∃ r ∈ earlier, Row.text? r "Parent" = Row.text? line "Parent" ∧
    Row.text? r "Component" = Row.text? line "Component"

/-- The stock of an item that any of `items` limits: in each of the warehouses, the first that has the
least on hand there, and an unknown quantity only where all of them are unknown. -/
structure Stocked (stock : Table) (items warehouses : List String)
    (entry : Keyed String ComponentStock) : Prop where
  nodup : (entry.map Prod.fst).Nodup
  mem_iff : ∀ warehouse, (∃ c, entry.get? warehouse = some c) ↔ warehouse ∈ warehouses
  scarcest : ∀ warehouse c, entry.get? warehouse = some c →
    FirstLeast onHandRank (items.map (stockIn stock warehouse)) c
  unknown : ∀ warehouse c, entry.get? warehouse = some c →
    (c.figures.onHand = none ↔
      ∀ item ∈ items, (stockIn stock warehouse item).figures.onHand = none)

section Scarcest

variable {components : List ComponentStock} {c : ComponentStock}

lemma firstLeast_of_scarcest? (h : scarcest? components = some c) :
    FirstLeast onHandRank components c := by
  refine firstLeast_spec ?_ h
  intro a b
  exact noneLast_iff smallerFirst_iff a.figures.onHand b.figures.onHand

lemma exists_scarcest? (h : components ≠ []) : ∃ c, scarcest? components = some c :=
  exists_firstLeast _ h

lemma onHandRank_eq_top_iff : onHandRank c = ⊤ ↔ c.figures.onHand = none := by
  rw [onHandRank]
  cases c.figures.onHand <;> simp

lemma onHand_eq_none_iff (h : FirstLeast onHandRank components c) :
    c.figures.onHand = none ↔ ∀ b ∈ components, b.figures.onHand = none := by
  constructor
  · intro hnone b hb
    rw [← onHandRank_eq_top_iff, eq_top_iff, ← onHandRank_eq_top_iff.mpr hnone]
    exact h.le hb
  · intro hall
    exact hall c h.mem

lemma stocked_scarcestOf {items : List String} (hitems : items ≠ []) (stock : Table)
    (warehouses : List String) : Stocked stock items warehouses (scarcestOf stock items warehouses) := by
  have hget : ∀ warehouse, (scarcestOf stock items warehouses).get? warehouse =
      if warehouse ∈ warehouses then scarcest? (items.map (stockIn stock warehouse)) else none :=
    Keyed.get?_ofList_filterMap (fun warehouse => scarcest? (items.map (stockIn stock warehouse))) _
  have hleast : ∀ warehouse c, (scarcestOf stock items warehouses).get? warehouse = some c →
      FirstLeast onHandRank (items.map (stockIn stock warehouse)) c := by
    intro warehouse c h
    rw [hget, Option.ite_none_right_eq_some] at h
    exact firstLeast_of_scarcest? h.2
  refine ⟨Keyed.nodup_keys_ofList _, ?_, hleast, ?_⟩
  · intro warehouse
    rw [hget]
    split
    · rename_i hmem
      have hne : items.map (stockIn stock warehouse) ≠ [] := by simpa using hitems
      exact ⟨fun _ => hmem, fun _ => exists_scarcest? hne⟩
    · rename_i hnot
      simp [hnot]
  · intro warehouse c h
    rw [onHand_eq_none_iff (hleast warehouse c h)]
    simp

end Scarcest

section Rows

variable (tables : List Table) (sku : String)

lemma stock_of (item : String) :
    (Snapshot.ofTables tables).stock.filter (fun row => row.item == item) =
      (rowsOf "ItemCode" item (tables.getD 6 [])).map fun r =>
        ⟨item, Row.text? r "WhsCode", figuresOf r⟩ := by
  refine filter_filterMap_key (fun _ _ => text?_of_stockRow?) ?_ _
  intro r hitem
  rw [stockRow?, hitem]
  rfl

lemma componentRows_ofTables (component : String) :
    (Snapshot.ofTables tables).componentRows sku component =
      let rows := rowsOf "ItemCode" component (tables.getD 6 [])
      if rows.isEmpty then [{ parent := sku, item := some component }]
      else rows.map fun r => ⟨sku, some component, Row.text? r "WhsCode", figuresOf r⟩ := by
  rw [Snapshot.componentRows, stock_of]
  cases rowsOf "ItemCode" component (tables.getD 6 []) with
  | nil => rfl
  | cons r rows => simp

lemma componentRows_ne_nil (s : Snapshot) (component : String) : s.componentRows sku component ≠ [] := by
  rw [Snapshot.componentRows]
  split
  · exact List.cons_ne_nil _ _
  · rename_i hne
    simpa using hne

lemma item_of_mem_componentRows {s : Snapshot} {component : String} {c : StockCandidate}
    (h : c ∈ s.componentRows sku component) : c.item = some component := by
  rw [Snapshot.componentRows] at h
  split at h
  · rw [List.mem_singleton] at h
    rw [h]
  · obtain ⟨row, -, rfl⟩ := List.mem_map.mp h
    rfl

lemma find?_componentRows (component warehouse : String) :
    (((Snapshot.ofTables tables).componentRows sku component).find? fun c =>
        c.concerns sku component warehouse).map StockCandidate.figures =
      (stockRowIn? (tables.getD 6 []) warehouse component).map figuresOf := by
  rw [componentRows_ofTables, stockRowIn?]
  dsimp only
  split
  · rename_i hnone
    rw [List.isEmpty_iff.mp hnone]
    simp [StockCandidate.concerns]
  · simp [List.find?_map, Function.comp_def, StockCandidate.concerns]

lemma candidatesOf_eq (s : Snapshot) :
    s.candidatesOf sku =
      let components := (s.billOf? sku).getD [sku]
      if components.isEmpty then [{ parent := sku }]
      else components.flatMap (s.componentRows sku) := by
  rw [Snapshot.candidatesOf]
  cases hbill : s.billOf? sku with
  | none => simp
  | some components => cases components <;> rfl

lemma find?_flatMap_of_mem {α β : Type} {f : α → List β} {p : β → Bool} {a : α} {parts : List α}
    (ha : a ∈ parts) (hother : ∀ b, ∀ c ∈ f b, p c = true → b = a) :
    (parts.flatMap f).find? p = (f a).find? p := by
  cases hfind : (f a).find? p with
  | none =>
    rw [List.find?_eq_none]
    intro c hc hp
    obtain ⟨b, -, hcb⟩ := List.mem_flatMap.mp hc
    obtain rfl := hother b c hcb hp
    exact List.find?_eq_none.mp hfind c hcb hp
  | some c =>
    obtain ⟨before, after, rfl, hbefore⟩ := List.eq_append_cons_of_mem ha
    have hnone : (before.flatMap f).find? p = none := by
      rw [List.find?_eq_none]
      intro c hc hp
      obtain ⟨b, hb, hcb⟩ := List.mem_flatMap.mp hc
      exact hbefore (hother b c hcb hp ▸ hb)
    rw [List.flatMap_append, List.flatMap_cons, List.find?_append, hnone, Option.none_or,
      List.find?_append, hfind, Option.some_or]

lemma componentsOf_candidatesOf :
    componentsOf ((Snapshot.ofTables tables).candidatesOf sku) sku =
      limiters sku (rowsOf "Parent" sku (tables.getD 5 [])) := by
  let s := Snapshot.ofTables tables
  rw [componentsOf, Snapshot.candidatesFor_candidatesOf, limiters, stockedAs_eq, candidatesOf_eq]
  dsimp only
  split
  · rename_i hnone
    rw [List.isEmpty_iff.mp hnone]
    rfl
  · rw [List.filterMap_flatMap]
    refine Text.distinct_flatMap _ ?_ ?_
    · intro component hnil
      obtain ⟨c, hc⟩ := List.exists_mem_of_ne_nil _ (componentRows_ne_nil sku s component)
      exact List.not_mem_nil (hnil ▸ List.mem_filterMap.mpr ⟨c, hc, item_of_mem_componentRows sku hc⟩)
    · intro component item hitem
      obtain ⟨c, hc, hsome⟩ := List.mem_filterMap.mp hitem
      rw [item_of_mem_componentRows sku hc] at hsome
      exact (Option.some.inj hsome).symm

lemma componentIn_candidatesOf {item : String} (warehouse : String)
    (hitem : item ∈ limiters sku (rowsOf "Parent" sku (tables.getD 5 []))) :
    componentIn ((Snapshot.ofTables tables).candidatesOf sku) sku warehouse item =
      stockIn (tables.getD 6 []) warehouse item := by
  rw [limiters, Text.mem_distinct, stockedAs_eq] at hitem
  have hfind : ((Snapshot.ofTables tables).candidatesOf sku).find?
      (fun c => c.concerns sku item warehouse) =
      ((Snapshot.ofTables tables).componentRows sku item).find?
        fun c => c.concerns sku item warehouse := by
    rw [candidatesOf_eq]
    dsimp only
    rw [if_neg (by simpa using List.ne_nil_of_mem hitem)]
    refine find?_flatMap_of_mem hitem ?_
    intro component c hc hconcerns
    have hown := item_of_mem_componentRows sku hc
    simp only [StockCandidate.concerns, hown, Bool.and_eq_true, beq_iff_eq, Option.some_inj] at hconcerns
    exact hconcerns.1.2
  rw [componentIn, hfind, stockIn, ← find?_componentRows tables sku]
  cases ((Snapshot.ofTables tables).componentRows sku item).find?
      fun c => c.concerns sku item warehouse <;> rfl

lemma get?_rollUp_ofTables {sku : String} {skus : List String} (hsku : sku ∈ skus)
    (warehouses : List String) :
    (rollUp ((Snapshot.ofTables tables).candidates skus) warehouses).get? sku =
      let items := limiters sku (rowsOf "Parent" sku (tables.getD 5 []))
      if items = [] then none else some (scarcestOf (tables.getD 6 []) items warehouses) := by
  have hcomponents : ∀ warehouse,
      (limiters sku (rowsOf "Parent" sku (tables.getD 5 []))).map
        (componentIn ((Snapshot.ofTables tables).candidatesOf sku) sku warehouse) =
      (limiters sku (rowsOf "Parent" sku (tables.getD 5 []))).map
        (stockIn (tables.getD 6 []) warehouse) :=
    fun warehouse => List.map_congr_left fun _ => componentIn_candidatesOf tables sku warehouse
  rw [Snapshot.get?_rollUp_candidates hsku, get?_rollUp, componentsOf_candidatesOf, scarcestIn]
  simp only [hcomponents, scarcestOf, List.isEmpty_iff]

end Rows

section Limiters

variable {sku : String} {bill before after : Table} {line : Row}

lemma limiters_nil : limiters sku [] = [sku] := rfl

lemma limiters_ne_nil_iff :
    limiters sku bill ≠ [] ↔ bill = [] ∨ ∃ r ∈ bill, ∃ item, Row.text? r "Component" = some item := by
  have hmem : limiters sku bill ≠ [] ↔ ∃ item, item ∈ stockedAs sku bill := by
    simp [List.eq_nil_iff_forall_not_mem, limiters, Text.mem_distinct]
  rw [hmem, stockedAs]
  split
  · rename_i hnone
    simp [List.isEmpty_iff.mp hnone]
  · rename_i hne
    rw [List.isEmpty_iff] at hne
    simp only [hne, false_or, List.mem_filterMap]
    constructor
    · rintro ⟨item, r, hr, h⟩
      exact ⟨r, hr, item, h⟩
    · rintro ⟨r, hr, item, h⟩
      exact ⟨item, r, hr, h⟩

lemma limiters_of_repeats (h : Repeats line before) :
    limiters sku (rowsOf "Parent" sku (before ++ line :: after)) =
      limiters sku (rowsOf "Parent" sku (before ++ after)) := by
  obtain ⟨r, hr, hparent, hcomponent⟩ := h
  by_cases hline : Row.text? line "Parent" = some sku
  · have hown : r ∈ rowsOf "Parent" sku before :=
      List.mem_filter.mpr ⟨hr, beq_iff_eq.mpr (hparent.trans hline)⟩
    have hrows : rowsOf "Parent" sku (before ++ line :: after) =
        rowsOf "Parent" sku before ++ line :: rowsOf "Parent" sku after := by
      simp [rowsOf, hline]
    have hrows' : rowsOf "Parent" sku (before ++ after) =
        rowsOf "Parent" sku before ++ rowsOf "Parent" sku after := List.filter_append _ _
    -- the bill has a line either way, so that the item does not stand for itself
    have hne : rowsOf "Parent" sku before ≠ [] := List.ne_nil_of_mem hown
    rw [hrows, hrows', limiters, limiters, stockedAs, stockedAs, if_neg (by simp), if_neg (by simp [hne]),
      List.filterMap_append, List.filterMap_append]
    cases hitem : Row.text? line "Component" with
    | none => simp [hitem]
    | some item =>
      rw [List.filterMap_cons, hitem]
      exact Text.distinct_append_cons_of_mem (List.mem_filterMap.mpr ⟨r, hown, hcomponent.trans hitem⟩)
  · simp [rowsOf, hline]

end Limiters

/-- An item has stock unless its bill names no component, and it is then that of its scarcest component in
each warehouse. An item without a bill is limited by itself, and a repeated line of a bill changes
nothing. -/
theorem stock_of_scarcest {sku : String} {skus : List String} (hsku : sku ∈ skus) (tables : List Table)
    (warehouses : List String) :
    let bill := rowsOf "Parent" sku (tables.getD 5 [])
    let stock := fun tables : List Table =>
      (rollUp ((Snapshot.ofTables tables).candidates skus) warehouses).get? sku
    ((∃ entry, stock tables = some entry) ↔
        bill = [] ∨ ∃ r ∈ bill, ∃ item, Row.text? r "Component" = some item) ∧
      (∀ entry, stock tables = some entry →
        Stocked (tables.getD 6 []) (limiters sku bill) warehouses entry) ∧
      (bill = [] → ∀ entry warehouse c,
        stock tables = some entry → entry.get? warehouse = some c → c.item = sku) ∧
      ∀ (tables' : List Table) (before after : Table) (line : Row), Repeats line before →
        tables.getD 5 [] = before ++ after → tables'.getD 5 [] = before ++ line :: after →
        tables'.getD 6 [] = tables.getD 6 [] → stock tables' = stock tables := by
  intro bill stock
  have hstock : ∀ tables, stock tables = _ := fun tables => get?_rollUp_ofTables tables hsku warehouses
  have hentry : ∀ entry, stock tables = some entry → limiters sku bill ≠ [] ∧
      entry = scarcestOf (tables.getD 6 []) (limiters sku bill) warehouses := by
    intro entry h
    rw [hstock, Option.ite_none_left_eq_some] at h
    exact ⟨h.1, (Option.some.inj h.2).symm⟩
  have hstocked : ∀ entry, stock tables = some entry →
      Stocked (tables.getD 6 []) (limiters sku bill) warehouses entry := by
    intro entry h
    obtain ⟨hne, rfl⟩ := hentry entry h
    exact stocked_scarcestOf hne _ _
  refine ⟨?_, hstocked, ?_, ?_⟩
  · rw [← limiters_ne_nil_iff]
    constructor
    · rintro ⟨entry, h⟩
      exact (hentry entry h).1
    · intro hne
      rw [hstock]
      exact ⟨_, if_neg hne⟩
  · intro hbill entry warehouse c h hc
    have hmem := ((hstocked entry h).scarcest warehouse c hc).mem
    rw [hbill, limiters_nil, List.map_singleton, List.mem_singleton] at hmem
    rw [hmem]
    rfl
  · intro tables' before after line hrepeats htables htables' hsame
    rw [hstock, hstock, htables, htables', hsame, limiters_of_repeats hrepeats]

def billRow (component : String) : Row :=
  [("Parent", .text "K"), ("Component", .text component)]

def shelfTables : List Table :=
  [[], [], [], [], [], [billRow "E", billRow "C", billRow "D", billRow "C"],
    [kitStock "C" 3, kitStock "D" 1]]

theorem stock_of_scarcest_shelf :
    ∃ entry c, (rollUp ((Snapshot.ofTables shelfTables).candidates ["A", "K"]) ["10"]).get? "K" =
        some entry ∧ entry.get? "10" = some c ∧ c.item = "D" ∧
      Stocked (shelfTables.getD 6 []) ["E", "C", "D"] ["10"] entry := by
  have hbill : limiters "K" (rowsOf "Parent" "K" (shelfTables.getD 5 [])) = ["E", "C", "D"] := by
    decide +kernel
  have hsku : "K" ∈ ["A", "K"] := by decide
  obtain ⟨hsome, hstocked, -, -⟩ := stock_of_scarcest hsku shelfTables ["10"]
  have hline : billRow "E" ∈ rowsOf "Parent" "K" (shelfTables.getD 5 []) :=
    List.mem_filter.mpr ⟨List.mem_cons_self, by decide +kernel⟩
  obtain ⟨entry, hentry⟩ := hsome.mpr (.inr ⟨_, hline, "E", by decide +kernel⟩)
  dsimp only at hentry
  have h := hstocked entry hentry
  rw [hbill] at h
  obtain ⟨c, hc⟩ := (h.mem_iff "10").mpr (List.mem_singleton_self _)
  have hitem : ((rollUp ((Snapshot.ofTables shelfTables).candidates ["A", "K"]) ["10"]).get? "K").bind
      (fun entry => (entry.get? "10").map ComponentStock.item) = some "D" := by
    decide +kernel
  rw [hentry, Option.bind_some, hc] at hitem
  exact ⟨entry, c, hentry, hc, Option.some.inj hitem, h⟩

end ErpGateway.Erp.Sap
