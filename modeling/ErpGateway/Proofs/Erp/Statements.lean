import ErpGateway.Proofs.Dialogue
import ErpGateway.Proofs.Erp.Cascade
import ErpGateway.Proofs.Erp.WellFormed
import ErpGateway.Proofs.Pricing.Items
import ErpGateway.Service.PriceStock

namespace ErpGateway.Erp

open Sql Text

inductive Kind where
  | parentAccount | catalog | discountRules | listPrices | specialPrices | lastPrices | stock | batch
deriving DecidableEq

namespace Kind

def form : Kind → Form
  | parentAccount => ⟨Hasavshevet.parentAccountText, ["account"], []⟩
  | catalog => ⟨Hasavshevet.catalogText, ["asOf"], [.skus]⟩
  | discountRules => ⟨Hasavshevet.discountRulesText, ["account"], [.skus]⟩
  | listPrices => ⟨Hasavshevet.listPricesText, ["asOf"], [.skus, .lists]⟩
  | specialPrices => ⟨Hasavshevet.specialPricesText, ["account", "parent"], [.skus]⟩
  | lastPrices => ⟨Hasavshevet.lastPricesText, ["account", "invoiceDoc", "orderDoc"], [.skus]⟩
  | stock => ⟨Hasavshevet.stockText, ["orderDoc", "excludedOrders"], [.skus, .warehouses]⟩
  | batch => ⟨Sap.batchText, ["cardCode", "asOfDate"], [.skus, .warehouses]⟩

/-- The characters of a long literal are compared once, as the kernel does not unfold `toList` on it. -/
lemma fits_of_chars {f : Form} (cs : List Char) (htext : f.text = String.ofList cs)
    (h : (Template.ofChars cs).Fits (f.names.map String.toList) f.markers) : f.Fits := by
  rw [Form.Fits, Form.template, htext, String.toList_ofList]
  exact h

set_option maxRecDepth 100000 in
theorem fits (kind : Kind) : kind.form.Fits := by
  cases kind with
  | parentAccount =>
    exact fits_of_chars _ (Eq.refl Hasavshevet.parentAccountText) (by decide +kernel)
  | catalog => exact fits_of_chars _ (Eq.refl Hasavshevet.catalogText) (by decide +kernel)
  | discountRules =>
    exact fits_of_chars _ (Eq.refl Hasavshevet.discountRulesText) (by decide +kernel)
  | listPrices => exact fits_of_chars _ (Eq.refl Hasavshevet.listPricesText) (by decide +kernel)
  | specialPrices =>
    exact fits_of_chars _ (Eq.refl Hasavshevet.specialPricesText) (by decide +kernel)
  | lastPrices => exact fits_of_chars _ (Eq.refl Hasavshevet.lastPricesText) (by decide +kernel)
  | stock => exact fits_of_chars _ (Eq.refl Hasavshevet.stockText) (by decide +kernel)
  | batch => exact fits_of_chars _ (Eq.refl Sap.batchText) (by decide +kernel)

end Kind

structure Lists where
  skus : List String
  warehouses : List String
  priceLists : List Int

namespace Lists

def values (lists : Lists) : Marker → List Scalar
  | .skus => lists.skus.map .text
  | .warehouses => lists.warehouses.map .text
  | .lists => lists.priceLists.map .int

def counts (lists : Lists) : Marker → Nat
  | .skus => lists.skus.length
  | .warehouses => lists.warehouses.length
  | .lists => lists.priceLists.length

lemma length_values (lists : Lists) (m : Marker) : (lists.values m).length = lists.counts m := by
  cases m <;> simp [values, counts]

structure Distinct (lists : Lists) : Prop where
  skus : lists.skus.Nodup
  warehouses : lists.warehouses.Nodup
  priceLists : lists.priceLists.Nodup

end Lists

def skusOf (request : Pricing.Request) : Backend → List String
  | .hasavshevet => request.skusAsAsked
  | .sap => request.skusAscending

section Distinct

lemma nodup_eraseDups {α : Type} [BEq α] [LawfulBEq α] (as : List α) : as.eraseDups.Nodup := by
  match as with
  | [] => exact List.nodup_nil
  | a :: as =>
    rw [List.eraseDups_cons, List.nodup_cons]
    refine ⟨?_, nodup_eraseDups _⟩
    simp
termination_by as.length
decreasing_by
  rw [List.length_cons]
  exact Nat.lt_succ_of_le (List.length_filter_le _ _)

lemma nodup_skusOf (request : Pricing.Request) (backend : Backend) :
    (skusOf request backend).Nodup := by
  cases backend with
  | hasavshevet => exact Pricing.nodup_distinctTrimmed _
  | sap => exact (List.mergeSort_perm _ _).nodup_iff.mpr (Pricing.nodup_distinctTrimmed _)

lemma nodup_warehousesOr (request : Pricing.Request) (defaults : List String) :
    (request.warehousesOr defaults).Nodup := by
  rw [Pricing.Request.warehousesOr]
  split
  · exact Pricing.nodup_distinctTrimmed _
  · exact Pricing.nodup_distinctTrimmed _

lemma nodup_listsOf (rules : List Pricing.DiscountRule) : (Hasavshevet.listsOf rules).Nodup :=
  (List.mergeSort_perm _ _).nodup_iff.mpr (nodup_eraseDups _)

end Distinct

def RulesHeard (skus : List String) (history : History) (priceLists : List Int) : Prop :=
  ∃ earlier owner tables,
    history = earlier ++ [(Hasavshevet.discountRules skus owner, tables)] ∧
    priceLists = Hasavshevet.listsOf
      ((tables.headD []).filterMap Hasavshevet.discountRule?)

def Issued (skus warehouses : List String) (history : History) (s : Statement) : Prop :=
  ∃ (kind : Kind) (fixed : Bindings) (priceLists : List Int),
    fixed.map Prod.fst = kind.form.names ∧
    s = kind.form.fill fixed (Lists.values ⟨skus, warehouses, priceLists⟩) ∧
    priceLists.Nodup ∧ (kind = .listPrices → RulesHeard skus history priceLists)

section Issued

variable {skus warehouses : List String} {history : History}

lemma issued_of_eq_fill {s : Statement} (kind : Kind) (fixed : Bindings)
    (hkind : kind ≠ .listPrices) (hfixed : fixed.map Prod.fst = kind.form.names)
    (hs : s = kind.form.fill fixed (Lists.values ⟨skus, warehouses, []⟩)) :
    Issued skus warehouses history s :=
  ⟨kind, fixed, [], hfixed, hs, List.nodup_nil, fun h => absurd h hkind⟩

end Issued

namespace Hasavshevet

open Pricing

variable {settings : Settings} {skus warehouses : List String} {history : History}

lemma issued_parentAccount (account : String) :
    Issued skus warehouses history (parentAccount account) :=
  issued_of_eq_fill .parentAccount [("account", .text account)] (by decide) rfl rfl

lemma issued_catalog (asOf : String) : Issued skus warehouses history (catalog skus asOf) :=
  issued_of_eq_fill .catalog [("asOf", .text asOf)] (by decide) rfl rfl

lemma issued_discountRules (owner : String) :
    Issued skus warehouses history (discountRules skus owner) :=
  issued_of_eq_fill .discountRules [("account", .text owner)] (by decide) rfl rfl

lemma issued_listPrices (asOf owner : String) (tables : List Table) :
    Issued skus warehouses (history ++ [(discountRules skus owner, tables)])
      (listPrices skus (listsOf ((tables.headD []).filterMap discountRule?)) asOf) :=
  ⟨.listPrices, [("asOf", .text asOf)], _, rfl, rfl, nodup_listsOf _,
    fun _ => ⟨history, owner, tables, rfl, rfl⟩⟩

lemma issued_specialPrices (account : String) (parent : Option String) :
    Issued skus warehouses history (specialPrices skus account parent) :=
  issued_of_eq_fill .specialPrices [("account", .text account), ("parent", .ofText? parent)]
    (by decide) rfl rfl

lemma issued_lastPrices (account : String) :
    Issued skus warehouses history (lastPrices settings skus account) :=
  issued_of_eq_fill .lastPrices [("account", .text account),
    ("invoiceDoc", .int settings.invoiceDocument), ("orderDoc", .int settings.orderDocument)]
    (by decide) rfl rfl

lemma issued_stock : Issued skus warehouses history (stock settings skus warehouses) :=
  issued_of_eq_fill .stock [("orderDoc", .int settings.orderDocument),
    ("excludedOrders", .text (settings.excludedOrderPrefix ++ "%"))] (by decide) rfl rfl

variable (settings) (skus) (warehouses)

lemma asks_parentFor (account : String) :
    (parentFor account).Asks (Issued skus warehouses) history := by
  rw [parentFor]
  split
  · exact Dialogue.asks_pure _
  · apply Dialogue.asks_rows_bind (issued_parentAccount account)
    intro tables
    exact Dialogue.asks_pure _

lemma asks_discounted (asOf owner : String) (provenance : Provenance) (states : List ItemState) :
    (discounted skus asOf owner provenance states).Asks (Issued skus warehouses) history := by
  apply Dialogue.asks_rows_bind (issued_discountRules owner)
  intro tables
  dsimp only
  split
  · exact Dialogue.asks_pure _
  · apply Dialogue.asks_rows_bind (issued_listPrices asOf owner tables)
    intro prices
    exact Dialogue.asks_noted_bind (Dialogue.asks_pure _)

lemma asks_discountedByRules (asOf account : String) (parent : Option String)
    (states : List ItemState) :
    (discountedByRules skus asOf account parent states).Asks (Issued skus warehouses) history := by
  apply (asks_discounted skus warehouses asOf account .accountDiscount states).bind
  rintro ⟨states, resolved⟩ later
  dsimp only
  split
  · apply (asks_discounted skus warehouses asOf _ .parentDiscount states).bind
    intro _ _
    exact Dialogue.asks_pure _
  · exact Dialogue.asks_pure _

lemma asks_pricedForAccount (asOf account : String) (parent : Option String)
    (states : List ItemState) :
    (pricedForAccount settings skus asOf account parent states).Asks (Issued skus warehouses)
      history := by
  apply (asks_discountedByRules skus warehouses asOf account parent states).bind
  intro states later
  apply Dialogue.asks_rows_bind (issued_specialPrices account parent)
  intro specials
  apply Dialogue.asks_rows_bind (issued_lastPrices account)
  intro last
  exact Dialogue.asks_pure _

lemma asks_priced (today : Calendar.Date) (request : Request) (parent : Option String)
    (states : List ItemState) :
    (priced settings today request parent states).Asks
      (Issued request.skusAsAsked warehouses) history := by
  rw [priced]
  split
  · exact Dialogue.asks_pure _
  · exact asks_pricedForAccount _ _ _ _ _ _ _

lemma asks_answer (today : Calendar.Date) (request : Request) :
    (answer settings today request).Asks
      (Issued request.skusAsAsked (request.warehousesOr settings.defaultWarehouses)) [] := by
  rw [answer_eq]
  generalize request.warehousesOr settings.defaultWarehouses = warehouses
  split
  · exact Dialogue.asks_pure _
  · refine (asks_parentFor request.skusAsAsked warehouses request.account).bind ?_
    intro parent _
    refine Dialogue.asks_rows_bind (issued_catalog _) ?_
    intro tables
    refine (asks_priced settings warehouses today request parent _).bind ?_
    intro states _
    refine Dialogue.asks_rows_bind issued_stock ?_
    intro stock
    exact Dialogue.asks_pure _

end Hasavshevet

namespace Sap

open Pricing

lemma issued_batch {skus warehouses : List String} {history : History} (customer asOf : String) :
    Issued skus warehouses history (batch customer asOf skus warehouses) :=
  issued_of_eq_fill .batch [("cardCode", .text customer), ("asOfDate", .text asOf)] (by decide) rfl
    rfl

lemma asks_answer (settings : Settings) (today : Calendar.Date) (request : Request) :
    (answer settings today request).Asks
      (Issued request.skusAscending (request.warehousesOr settings.defaultWarehouses)) [] := by
  rw [answer]
  dsimp only
  split
  · exact Dialogue.asks_pure _
  · split
    · exact .fail [] customerRequired
    · apply Dialogue.asks_tables_bind (issued_batch _ _)
      intro tables
      split
      · exact Dialogue.asks_noted_bind (Dialogue.asks_pure _)
      · exact Dialogue.asks_pure _

end Sap

lemma asks_dialogue (backend : Backend) (settings : Settings) (today : Calendar.Date)
    (request : Pricing.Request) :
    (Service.PriceStock.dialogue backend settings today request).Asks
      (Issued (skusOf request backend) (request.warehousesOr settings.defaultWarehouses)) [] := by
  cases backend with
  | hasavshevet => exact Hasavshevet.asks_answer settings today request
  | sap => exact Sap.asks_answer settings today request

def RulesAnswered (db : Database) (skus : List String) (before : List Statement)
    (priceLists : List Int) : Prop :=
  ∃ earlier owner tables, before = earlier ++ [Hasavshevet.discountRules skus owner] ∧
    (db earlier (Hasavshevet.discountRules skus owner)).answer = .ok tables ∧
    priceLists = Hasavshevet.listsOf ((tables.headD []).filterMap Hasavshevet.discountRule?)

lemma RulesHeard.answered {db : Database} {skus : List String} {history : History}
    {priceLists : List Int} (h : RulesHeard skus history priceLists) (hheard : Heard db history) :
    RulesAnswered db skus (history.map Prod.fst) priceLists := by
  obtain ⟨earlier, owner, tables, rfl, hlists⟩ := h
  refine ⟨earlier.map Prod.fst, owner, tables, by simp, ?_, hlists⟩
  exact hheard earlier _ tables [] rfl

/-- Every statement that a price question makes a backend ask is of one of the kinds. Its text is told
by the lengths of the lists, which repeat nothing; it is well formed, and the values of the lists are
bound one by one. -/
theorem calls_wellFormed (db : Database) (backend : Backend) (settings : Settings)
    (today : Calendar.Date) (limit : Nat) (request : Pricing.Request)
    (before after : List Statement) (s : Statement)
    (h : (Service.PriceStock.run db backend settings today limit request).calls =
      before ++ s :: after) :
    ∃ (kind : Kind) (lists : Lists),
      lists.skus = skusOf request backend ∧
      lists.warehouses = request.warehousesOr settings.defaultWarehouses ∧
      lists.Distinct ∧
      (kind = .listPrices → RulesAnswered db lists.skus before lists.priceLists) ∧
      s.text = kind.form.textFor lists.counts ∧
      s.WellFormed ∧
      ∀ m i v, (Statement.itemName m.stem i, v) ∈ s.params ↔
        m ∈ kind.form.markers ∧ (lists.values m)[i]? = some v := by
  obtain ⟨history, rfl, hheard, kind, fixed, priceLists, hfixed, rfl, hnodup, hrules⟩ :=
    Dialogue.exists_history_of_calls db _ limit (asks_dialogue backend settings today request) h
  refine ⟨kind,
    ⟨skusOf request backend, request.warehousesOr settings.defaultWarehouses, priceLists⟩,
    rfl, rfl, ?_, ?_, ?_, ?_, ?_⟩
  · exact ⟨nodup_skusOf request backend, nodup_warehousesOr request _, hnodup⟩
  · intro hk
    exact (hrules hk).answered hheard
  · rw [Form.text_fill]
    congr 1
    funext m
    exact Lists.length_values _ m
  · exact Form.wellFormed_fill kind.fits hfixed
  · exact Form.item_mem_params_fill_iff kind.fits hfixed

def plainRequest : Pricing.Request where
  skus := ["A"]

def warehouseless : Settings where
  defaultWarehouses := []

def emptyDatabase : Database :=
  fun _ _ => ⟨0, .ok []⟩

lemma exists_stock_call : ∃ s,
    (Service.PriceStock.run emptyDatabase .hasavshevet warehouseless ⟨2024, 5, 1⟩ 8000
      plainRequest).calls =
      [Hasavshevet.catalog plainRequest.skusAsAsked (plainRequest.asOfText ⟨2024, 5, 1⟩)] ++
        s :: [] := by
  have hskus : plainRequest.skusAsAsked.isEmpty = false := by decide +kernel
  have haccount : plainRequest.account.isEmpty = true := by decide +kernel
  rcases Dialogue.run_cases emptyDatabase Service.PriceStock.op 8000
      (Hasavshevet.answer warehouseless ⟨2024, 5, 1⟩ plainRequest) with
    ⟨heard, -, hyields, hcalls⟩ | ⟨_, _, -, ⟨-, hdelay⟩ | ⟨_, hfailed, -⟩⟩
  · rw [Hasavshevet.answer_eq, if_neg (by simp [hskus]), Hasavshevet.parentFor,
      if_pos haccount] at hyields
    obtain ⟨_, _, rfl, hstates⟩ := Dialogue.yields_rows_bind_iff.mp hyields
    rw [Hasavshevet.priced, if_pos haccount] at hstates
    obtain ⟨_, _, rfl, hitems⟩ := Dialogue.yields_rows_bind_iff.mp hstates
    obtain ⟨rfl, -⟩ := Dialogue.yields_pure_iff.mp hitems
    exact ⟨_, hcalls⟩
  · exact absurd rfl hdelay
  · exact nomatch hfailed

theorem calls_wellFormed_stock : ∃ s,
    (Service.PriceStock.run emptyDatabase .hasavshevet warehouseless ⟨2024, 5, 1⟩ 8000
      plainRequest).calls =
      [Hasavshevet.catalog plainRequest.skusAsAsked (plainRequest.asOfText ⟨2024, 5, 1⟩)] ++
        s :: [] ∧ s.WellFormed := by
  obtain ⟨s, hs⟩ := exists_stock_call
  obtain ⟨_, _, -, -, -, -, -, hwellFormed, -⟩ := calls_wellFormed _ _ _ _ _ _ _ _ s hs
  exact ⟨s, hs, hwellFormed⟩

end ErpGateway.Erp
