import ErpGateway.Proofs.Erp.Batch
import ErpGateway.Proofs.Pricing.Kit
import ErpGateway.Proofs.Sql.Rows

/-! What SAP answers about one item. Its price, stock and details are told by its own rows, whatever else
is asked for and answered. -/

namespace ErpGateway.Erp.Sap

open Sql Pricing

def stockedAs (sku : String) (bill : Table) : List String :=
  if bill.isEmpty then [sku] else bill.filterMap fun r => Row.text? r "Component"

def ownTables (sku : String) (tables : List Table) : List Table :=
  let rows (i : Nat) : Table := tables.getD i []
  let bill := rowsOf "Parent" sku (rows 5)
  [(rows 0).take 1, rowsOf "ItemCode" sku (rows 1), rowsOf "ItemCode" sku (rows 2),
    rowsOf "ItemCode" sku (rows 3), rowsOf "ItemCode" sku (rows 4), bill,
    rowsIn "ItemCode" (stockedAs sku bill) (rows 6)]

structure Snapshot.AgreesOn (s s' : Snapshot) (sku : String) : Prop where
  customer : s.customer = s'.customer
  basePrice : s.basePriceOf? sku = s'.basePriceOf? sku
  special : s.specialOf? sku = s'.specialOf? sku
  rules : s.rulesOf sku = s'.rulesOf sku
  promotion : s.promotionOf? sku = s'.promotionOf? sku
  candidates : s.candidatesOf sku = s'.candidatesOf sku

namespace Snapshot

variable {s s' : Snapshot} {sku : String}

lemma AgreesOn.withPrice_eq (h : s.AgreesOn s' sku) (customer : String) :
    withPrice s customer { sku := sku } = withPrice s' customer { sku := sku } := by
  have hterms : ∀ base, termsOf s sku base = termsOf s' sku base := by
    intro base
    rw [termsOf, termsOf, h.special, h.rules, h.promotion]
  have hquote : ∀ base currency, putQuote s customer base currency { sku := sku } =
      putQuote s' customer base currency { sku := sku } := by
    intro base currency
    rw [putQuote, putQuote, hterms, h.customer]
  rw [withPrice, withPrice, h.basePrice]
  simp only [hquote]

lemma parent_of_mem_componentRows {component : String} {c : StockCandidate}
    (h : c ∈ s.componentRows sku component) : c.parent = sku := by
  rw [componentRows] at h
  split at h
  · rw [List.mem_singleton] at h
    rw [h]
  · obtain ⟨row, -, rfl⟩ := List.mem_map.mp h
    rfl

lemma parent_of_mem_candidatesOf {c : StockCandidate} (h : c ∈ s.candidatesOf sku) :
    c.parent = sku := by
  rw [candidatesOf] at h
  split at h
  · exact parent_of_mem_componentRows h
  · rw [List.mem_singleton] at h
    rw [h]
  · obtain ⟨component, -, hc⟩ := List.mem_flatMap.mp h
    exact parent_of_mem_componentRows hc

lemma candidatesFor_candidatesOf : candidatesFor (s.candidatesOf sku) sku = s.candidatesOf sku := by
  rw [candidatesFor, List.filter_eq_self]
  intro c hc
  exact beq_iff_eq.mpr (parent_of_mem_candidatesOf hc)

lemma exists_candidatesFor_candidates {skus : List String} (h : sku ∈ skus) :
    ∃ rest, candidatesFor (s.candidates skus) sku = s.candidatesOf sku ++ rest ∧
      ∀ c ∈ rest, c ∈ s.candidatesOf sku := by
  have hother : ∀ skus : List String, ∀ c ∈ candidatesFor (s.candidates skus) sku,
      c ∈ s.candidatesOf sku := by
    intro skus c hc
    obtain ⟨hmem, hparent⟩ := List.mem_filter.mp hc
    obtain ⟨other, -, hcand⟩ := List.mem_flatMap.mp hmem
    rw [parent_of_mem_candidatesOf hcand, beq_iff_eq] at hparent
    rwa [hparent] at hcand
  induction skus with
  | nil => exact absurd h List.not_mem_nil
  | cons other skus ih =>
    have hcons : candidatesFor (s.candidates (other :: skus)) sku =
        candidatesFor (s.candidatesOf other) sku ++ candidatesFor (s.candidates skus) sku := by
      simp [candidatesFor, candidates]
    rw [hcons]
    by_cases heq : other = sku
    · -- what follows can only repeat the candidates of the item
      rw [heq, candidatesFor_candidatesOf]
      exact ⟨_, rfl, hother skus⟩
    · have hnone : candidatesFor (s.candidatesOf other) sku = [] := by
        rw [candidatesFor, List.filter_eq_nil_iff]
        intro c hc
        rw [parent_of_mem_candidatesOf hc, beq_iff_eq]
        exact heq
      have hsku : sku ∈ skus := (List.mem_cons.mp h).resolve_left (Ne.symm heq)
      rw [hnone, List.nil_append]
      exact ih hsku

lemma get?_rollUp_candidates {skus : List String} (h : sku ∈ skus) (warehouses : List String) :
    (rollUp (s.candidates skus) warehouses).get? sku =
      (rollUp (s.candidatesOf sku) warehouses).get? sku := by
  obtain ⟨rest, happend, hrest⟩ := exists_candidatesFor_candidates (s := s) h
  exact get?_rollUp_of_append happend candidatesFor_candidatesOf hrest

lemma AgreesOn.itemOf_eq (h : s.AgreesOn s' sku) {skus skus' : List String} (hsku : sku ∈ skus)
    (hsku' : sku ∈ skus') (customer : String) (warehouses : List String) :
    itemOf s customer (rollUp (s.candidates skus) warehouses) sku =
      itemOf s' customer (rollUp (s'.candidates skus') warehouses) sku := by
  rw [itemOf, itemOf, get?_rollUp_candidates hsku, get?_rollUp_candidates hsku', h.candidates,
    h.withPrice_eq]

end Snapshot

section Own

variable (tables : List Table) (sku : String)

lemma text?_of_basePrice? {r : Row} {b : BasePrice} (h : basePrice? r = some b) :
    Row.text? r "ItemCode" = some b.item := by
  obtain ⟨item, hitem, hb⟩ := Option.bind_eq_some_iff.mp h
  obtain rfl := Option.some.inj hb
  exact hitem

lemma text?_of_special? {r : Row} {e : String × SpecialTerms} (h : special? r = some e) :
    Row.text? r "ItemCode" = some e.1 := by
  obtain ⟨item, hitem, he⟩ := Option.bind_eq_some_iff.mp h
  obtain rfl := Option.some.inj he
  exact hitem

lemma text?_of_rule? {r : Row} {e : String × GroupRule} (h : rule? r = some e) :
    Row.text? r "ItemCode" = some e.1 := by
  obtain ⟨item, hitem, hrest⟩ := Option.bind_eq_some_iff.mp h
  obtain ⟨object, -, he⟩ := Option.bind_eq_some_iff.mp hrest
  obtain rfl := Option.some.inj he
  exact hitem

lemma text?_of_promotion? {r : Row} {e : String × Float} (h : promotion? r = some e) :
    Row.text? r "ItemCode" = some e.1 := by
  obtain ⟨item, hitem, hrest⟩ := Option.bind_eq_some_iff.mp h
  obtain ⟨percent, -, he⟩ := Option.bind_eq_some_iff.mp hrest
  obtain rfl := Option.some.inj he
  exact hitem

lemma text?_of_billLine? {r : Row} {line : BillLine} (h : billLine? r = some line) :
    Row.text? r "Parent" = some line.parent := by
  obtain ⟨parent, hparent, hline⟩ := Option.bind_eq_some_iff.mp h
  obtain rfl := Option.some.inj hline
  exact hparent

lemma text?_of_stockRow? {r : Row} {row : StockRow} (h : stockRow? r = some row) :
    Row.text? r "ItemCode" = some row.item := by
  obtain ⟨item, hitem, hrow⟩ := Option.bind_eq_some_iff.mp h
  obtain rfl := Option.some.inj hrow
  exact hitem

lemma customerOf_take (rows : Table) : customerOf (rows.take 1) = customerOf rows := by
  cases rows <;> rfl

lemma bills_of (rows : Table) :
    (rows.filterMap billLine?).filter (fun line => line.parent == sku) =
      (rowsOf "Parent" sku rows).map fun r => ⟨sku, Row.text? r "Component"⟩ := by
  refine filter_filterMap_key (fun _ _ => text?_of_billLine?) ?_ rows
  intro r hparent
  rw [billLine?, hparent]
  rfl

lemma billOf?_ofTables : (Snapshot.ofTables tables).billOf? sku =
    let bill := rowsOf "Parent" sku (tables.getD 5 [])
    if bill.isEmpty then none else some (bill.filterMap fun r => Row.text? r "Component") := by
  rw [Snapshot.billOf?, Snapshot.ofTables, bills_of]
  dsimp only
  cases rowsOf "Parent" sku (tables.getD 5 []) with
  | nil => rfl
  | cons r bill =>
    rw [if_neg (by simp)]
    exact congrArg some List.filterMap_map

lemma stockedAs_eq : stockedAs sku (rowsOf "Parent" sku (tables.getD 5 [])) =
    ((Snapshot.ofTables tables).billOf? sku).getD [sku] := by
  rw [billOf?_ofTables, stockedAs]
  dsimp only
  split <;> rfl

lemma billOf?_ownTables : (Snapshot.ofTables (ownTables sku tables)).billOf? sku =
    (Snapshot.ofTables tables).billOf? sku := by
  have hbill : (ownTables sku tables).getD 5 [] = rowsOf "Parent" sku (tables.getD 5 []) := rfl
  rw [billOf?_ofTables, billOf?_ofTables, hbill, rowsOf_rowsOf]

lemma componentRows_ownTables {component : String}
    (h : component ∈ ((Snapshot.ofTables tables).billOf? sku).getD [sku]) :
    (Snapshot.ofTables (ownTables sku tables)).componentRows sku component =
      (Snapshot.ofTables tables).componentRows sku component := by
  rw [← stockedAs_eq] at h
  have hrows := rowsOf_rowsIn "ItemCode" h (tables.getD 6 [])
  have hstock : (Snapshot.ofTables (ownTables sku tables)).stock.filter
      (fun row => row.item == component) =
      (Snapshot.ofTables tables).stock.filter fun row => row.item == component :=
    filter_filterMap_congr (own_of_key (fun _ _ => text?_of_stockRow?) component) hrows
  rw [Snapshot.componentRows, Snapshot.componentRows, hstock]

lemma candidatesOf_ownTables :
    (Snapshot.ofTables (ownTables sku tables)).candidatesOf sku =
      (Snapshot.ofTables tables).candidatesOf sku := by
  have hrows := fun component => @componentRows_ownTables tables sku component
  rw [Snapshot.candidatesOf, Snapshot.candidatesOf, billOf?_ownTables]
  cases hbill : (Snapshot.ofTables tables).billOf? sku with
  | none =>
    rw [hbill] at hrows
    exact hrows sku (List.mem_singleton_self sku)
  | some components =>
    rw [hbill] at hrows
    cases components with
    | nil => rfl
    | cons component components =>
      exact List.flatMap_congr fun other hother => hrows other hother

lemma agreesOn_ownTables :
    (Snapshot.ofTables (ownTables sku tables)).AgreesOn (Snapshot.ofTables tables) sku where
  customer := customerOf_take (tables.getD 0 [])
  basePrice :=
    find?_reverse_filterMap_congr (own_of_key (fun _ _ => text?_of_basePrice?) sku)
      (rowsOf_rowsOf "ItemCode" sku (tables.getD 1 []))
  special :=
    congrArg (Option.map Prod.snd) (find?_filterMap_congr
      (own_of_key (fun _ _ => text?_of_special?) sku)
      (rowsOf_rowsOf "ItemCode" sku (tables.getD 2 [])))
  rules :=
    congrArg (List.map Prod.snd) (filter_filterMap_congr
      (own_of_key (fun _ _ => text?_of_rule?) sku)
      (rowsOf_rowsOf "ItemCode" sku (tables.getD 3 [])))
  promotion :=
    congrArg (Option.map Prod.snd) (find?_reverse_filterMap_congr
      (own_of_key (fun _ _ => text?_of_promotion?) sku)
      (rowsOf_rowsOf "ItemCode" sku (tables.getD 4 [])))
  candidates := candidatesOf_ownTables tables sku

lemma itemFrom_ownTables {skus : List String} (hsku : sku ∈ skus) (customer : String)
    (warehouses : List String) :
    itemFrom (ownTables sku tables) customer [sku] warehouses sku =
      itemFrom tables customer skus warehouses sku :=
  (agreesOn_ownTables tables sku).itemOf_eq (List.mem_singleton_self sku) hsku customer warehouses

end Own

section Run

variable {settings : Settings} {today : Calendar.Date} {limit : Nat} {request : Request}
  {sku : String} {db : Database} {tables : List Table}

lemma run_of_answers_of_names (haccount : request.account.isEmpty = false)
    (hsku : request.Names sku) (h : db.Answers limit (batchFor settings today request) tables) :
    (Service.PriceStock.run db .sap settings today limit request).outcome =
        .ok (itemsFrom settings request tables) ∧
      itemIn? (itemsFrom settings request tables) sku = some (itemFrom tables request.account
        request.skusAscending (request.warehousesOr settings.defaultWarehouses) sku) := by
  have hmem := Request.mem_skusAscending.mpr hsku
  refine ⟨run_of_answers haccount (List.ne_nil_of_mem hmem) h, ?_⟩
  exact itemIn?_map (sku_itemFrom tables _ _ _) hmem

/-- The item of an answer is the one that its own rows give when it is asked for alone, and it is the same
in every answer with these rows of it. -/
theorem item_of_own_rows (haccount : request.account.isEmpty = false) (hsku : request.Names sku)
    (h : db.Answers limit (batchFor settings today request) tables) :
    ∃ items item,
      (Service.PriceStock.run db .sap settings today limit request).outcome = .ok items ∧
      itemIn? items sku = some item ∧
      (∀ db' : Database,
        db'.Answers limit (batchFor settings today (request.alone sku)) (ownTables sku tables) →
        (Service.PriceStock.run db' .sap settings today limit (request.alone sku)).outcome =
          .ok [item]) ∧
      ∀ (request' : Request) (db' : Database) (tables' : List Table),
        request'.account = request.account →
        request'.warehousesOr settings.defaultWarehouses =
          request.warehousesOr settings.defaultWarehouses →
        request'.Names sku →
        db'.Answers limit (batchFor settings today request') tables' →
        ownTables sku tables' = ownTables sku tables →
        ∃ items',
          (Service.PriceStock.run db' .sap settings today limit request').outcome = .ok items' ∧
          itemIn? items' sku = some item := by
  let warehouses := request.warehousesOr settings.defaultWarehouses
  have hown : itemFrom (ownTables sku tables) request.account [sku] warehouses sku =
      itemFrom tables request.account request.skusAscending warehouses sku :=
    itemFrom_ownTables tables sku (Request.mem_skusAscending.mpr hsku) _ _
  obtain ⟨hrun, hitem⟩ := run_of_answers_of_names haccount hsku h
  refine ⟨_, _, hrun, hitem, ?_, ?_⟩
  · intro db' h'
    have haccount' : (request.alone sku).account.isEmpty = false := haccount
    have halone := Request.skusAscending_alone hsku
    have hskus : (request.alone sku).skusAscending ≠ [] := by
      rw [halone]
      exact List.cons_ne_nil sku []
    have hrun' := run_of_answers haccount' hskus h'
    rw [hrun', itemsFrom, halone]
    exact congrArg (fun item => Except.ok [item]) hown
  · intro request' db' tables' haccount' hwarehouses hsku' h' hrows
    obtain ⟨hrun', hitem'⟩ := run_of_answers_of_names (haccount' ▸ haccount) hsku' h'
    refine ⟨_, hrun', ?_⟩
    rw [hitem', haccount', hwarehouses, ← hown, ← hrows,
      itemFrom_ownTables tables' sku (Request.mem_skusAscending.mpr hsku')]

end Run

def kitRequest : Request where
  skus := ["K", " A "]
  accountId := "10"

def kitRow (item : String) (price : Int) : Row :=
  [("ItemCode", .text item), ("PriceListPrice", .number (.int price))]

def kitStock (item : String) (onHand : Int) : Row :=
  [("ItemCode", .text item), ("WhsCode", .text "10"), ("OnHand", .number (.int onHand))]

def kitTables (priceOfA : Int) : List Table :=
  [[[("Found", .number (.int 1))]], [kitRow "K" 100, kitRow "A" priceOfA], [], [], [],
    [[("Parent", .text "K"), ("Component", .text "C")]], [kitStock "C" 3, kitStock "A" priceOfA]]

def answering (tables : List Table) : Database :=
  fun _ _ => ⟨0, .ok tables⟩

theorem item_of_own_rows_kit :
    ∃ items item items',
      (Service.PriceStock.run (answering (kitTables 7)) .sap {} ⟨2024, 5, 1⟩ 8000 kitRequest).outcome =
        .ok items ∧
      itemIn? items "K" = some item ∧
      (Service.PriceStock.run (answering (ownTables "K" (kitTables 7))) .sap {} ⟨2024, 5, 1⟩ 8000
        (kitRequest.alone "K")).outcome = .ok [item] ∧
      (Service.PriceStock.run (answering (kitTables 8)) .sap {} ⟨2024, 5, 1⟩ 8000 kitRequest).outcome =
        .ok items' ∧
      itemIn? items' "K" = some item := by
  have haccount : kitRequest.account.isEmpty = false := by decide +kernel
  have hsku : kitRequest.Names "K" := ⟨by decide, "K", by decide, by decide +kernel⟩
  have hanswers : ∀ tables s, (answering tables).Answers 8000 s tables :=
    fun _ _ => ⟨rfl, Nat.zero_le _⟩
  have hrows : ownTables "K" (kitTables 8) = ownTables "K" (kitTables 7) := rfl
  obtain ⟨items, item, hrun, hitem, halone, hother⟩ := item_of_own_rows haccount hsku
    (hanswers (kitTables 7) (batchFor {} ⟨2024, 5, 1⟩ kitRequest))
  obtain ⟨items', hrun', hitem'⟩ := hother kitRequest (answering (kitTables 8)) (kitTables 8) rfl rfl
    hsku (hanswers _ _) hrows
  exact ⟨items, item, items', hrun, hitem, halone _ (hanswers _ _), hrun', hitem'⟩

end ErpGateway.Erp.Sap
