import ErpGateway.Proofs.Erp.Cascade
import ErpGateway.Proofs.Sql.Respelling
import ErpGateway.Service.PriceStock

namespace ErpGateway

open Sql

def RespelledAnswer : Except Failure (List Table) → Except Failure (List Table) → Prop
  | .ok tables, .ok tables' => List.Forall₂ (List.Forall₂ Row.Respelled) tables tables'
  | .error f, .error f' => f = f'
  | _, _ => False

structure Reply.Respelled (r r' : Reply) : Prop where
  delay : r.delay = r'.delay
  answer : RespelledAnswer r.answer r'.answer

namespace Database

def Respelled (db db' : Database) : Prop :=
  ∀ earlier s, (db earlier s).Respelled (db' earlier s)

def DistinctColumns (db : Database) : Prop :=
  ∀ earlier s tables, (db earlier s).answer = .ok tables →
    ∀ rows ∈ tables, ∀ r ∈ rows, Row.Distinct r

lemma alike_of_answers {db db' : Database} (hdistinct : db.DistinctColumns)
    (h : db.Respelled db') {earlier : List Statement} {s : Statement} {tables tables' : List Table}
    (hanswer : (db earlier s).answer = .ok tables) (hanswer' : (db' earlier s).answer = .ok tables') :
    List.Forall₂ Table.Alike tables tables' := by
  have hrespelled := (h earlier s).answer
  rw [hanswer, hanswer'] at hrespelled
  have hall := hdistinct earlier s tables hanswer
  have hrows : ∀ rows rows', List.Forall₂ Row.Respelled rows rows' →
      (∀ r ∈ rows, Row.Distinct r) → Table.Alike rows rows' := by
    intro rows rows' hrows hdistinct
    induction hrows with
    | nil => exact .nil
    | cons hrow _ ih =>
      refine .cons ⟨hdistinct _ List.mem_cons_self, hrow⟩ (ih ?_)
      exact fun r hr => hdistinct r (List.mem_cons_of_mem _ hr)
  clear hanswer hanswer'
  induction hrespelled with
  | nil => exact .nil
  | cons htable _ ih =>
    refine .cons (hrows _ _ htable (hall _ List.mem_cons_self)) (ih ?_)
    exact fun rows hmem => hall rows (List.mem_cons_of_mem _ hmem)

end Database

namespace Dialogue

inductive Blind : Dialogue α → Prop
  | done (a : α) : Blind (done a)
  | fail (failure : Failure) : Blind (fail failure)
  | note {rest : Dialogue α} (event : Event) (h : Blind rest) : Blind (note event rest)
  | ask {next : List Table → Dialogue α} (s : Statement)
      (hsame : ∀ tables tables', List.Forall₂ Table.Alike tables tables' →
        next tables = next tables')
      (h : ∀ tables, Blind (next tables)) : Blind (ask s next)

lemma blind_pure (a : α) : (pure a : Dialogue α).Blind :=
  .done a

lemma Blind.bind {d : Dialogue α} {f : α → Dialogue β} (hd : d.Blind) (hf : ∀ a, (f a).Blind) :
    (d >>= f).Blind := by
  induction hd with
  | done a => exact hf a
  | fail failure => exact .fail failure
  | note event _ ih => exact .note event ih
  | ask s hsame _ ih =>
    refine .ask s ?_ ih
    intro tables tables' htables
    rw [hsame tables tables' htables]

lemma blind_tables_bind {s : Statement} {f : List Table → Dialogue α}
    (hsame : ∀ tables tables', List.Forall₂ Table.Alike tables tables' → f tables = f tables')
    (hf : ∀ tables, (f tables).Blind) : (tables s >>= f).Blind :=
  .ask s hsame hf

lemma blind_rows_bind {s : Statement} {f : Table → Dialogue α}
    (hsame : ∀ rows rows', Table.Alike rows rows' → f rows = f rows')
    (hf : ∀ rows, (f rows).Blind) : (rows s >>= f).Blind :=
  .ask s (fun _ _ htables => hsame _ _ (Table.alike_headD htables)) fun _ => hf _

lemma blind_noted_bind {event : Event} {f : Unit → Dialogue α} (hf : (f ()).Blind) :
    (noted event >>= f).Blind :=
  .note event hf

lemma Blind.runFrom_eq {d : Dialogue α} (hd : d.Blind) {db db' : Database}
    (hdistinct : db.DistinctColumns) (h : db.Respelled db') (op : String) (limit : Nat)
    (calls : List Statement) (events : List Event) (elapsed : Nat) :
    d.runFrom db op limit calls events elapsed = d.runFrom db' op limit calls events elapsed := by
  induction hd generalizing calls events elapsed with
  | done a => rfl
  | fail failure => rfl
  | note event _ ih => exact ih calls _ elapsed
  | ask s hsame _ ih =>
    obtain ⟨hdelay, hrespelled⟩ := h calls s
    simp only [runFrom]
    rw [← hdelay]
    split
    · rfl
    · cases hanswer : (db calls s).answer with
      | error f =>
        cases hanswer' : (db' calls s).answer with
        | error f' =>
          rw [hanswer, hanswer'] at hrespelled
          obtain rfl : f = f' := hrespelled
          rfl
        | ok tables' => rw [hanswer, hanswer'] at hrespelled; exact hrespelled.elim
      | ok tables =>
        cases hanswer' : (db' calls s).answer with
        | error f' => rw [hanswer, hanswer'] at hrespelled; exact hrespelled.elim
        | ok tables' =>
          dsimp only
          rw [hsame tables tables' (Database.alike_of_answers hdistinct h hanswer hanswer')]
          exact ih tables' _ _ _

end Dialogue

namespace Erp

open Pricing

namespace Hasavshevet

section Rows

variable {r r' : Row} (h : Row.Alike r r')
include h

lemma catalogEntry?_eq : catalogEntry? r = catalogEntry? r' := by
  simp only [h.text?_eq, h.float?_eq, h.int?_eq, h.flag_eq, catalogEntry?]

lemma discountRule?_eq : discountRule? r = discountRule? r' := by
  simp only [discountRule?, h.text?_eq, h.float?_eq, h.int?_eq]

lemma listPrice?_eq : listPrice? r = listPrice? r' := by
  simp only [listPrice?, h.text?_eq, h.float?_eq, h.int?_eq]

lemma specialPrice?_eq : specialPrice? r = specialPrice? r' := by
  simp only [specialPrice?, h.text?_eq, h.float?_eq]

lemma transaction?_eq (settings : Settings) : transaction? settings r = transaction? settings r' := by
  simp only [transaction?, h.text?_eq, h.float?_eq, h.int?_eq]

lemma stockMovement?_eq : stockMovement? r = stockMovement? r' := by
  simp only [stockMovement?, h.text?_eq, h.float?_eq]

end Rows

lemma parentOf_eq {rows rows' : Table} (h : Table.Alike rows rows') (account : String) :
    parentOf account rows = parentOf account rows' := by
  cases h with
  | nil => rfl
  | cons hrow _ =>
    simp only [parentOf, List.head?_cons, Option.bind_some, hrow.text?_eq]

lemma blind_parentFor (account : String) : (parentFor account).Blind := by
  rw [parentFor]
  split
  · exact Dialogue.blind_pure none
  · refine Dialogue.blind_rows_bind ?_ fun _ => Dialogue.blind_pure _
    intro rows rows' h
    rw [parentOf_eq h]

lemma blind_discounted (skus : List String) (asOf owner : String) (provenance : Provenance)
    (states : List ItemState) : (discounted skus asOf owner provenance states).Blind := by
  refine Dialogue.blind_rows_bind ?_ ?_
  · intro rows rows' h
    dsimp only
    rw [h.filterMap_eq fun _ _ => discountRule?_eq]
  · intro rows
    dsimp only
    split
    · exact Dialogue.blind_pure _
    · refine Dialogue.blind_rows_bind ?_ ?_
      · intro prices prices' h
        rw [h.filterMap_eq fun _ _ => listPrice?_eq]
      · intro prices
        exact Dialogue.blind_noted_bind (Dialogue.blind_pure _)

lemma blind_discountedByRules (skus : List String) (asOf account : String) (parent : Option String)
    (states : List ItemState) : (discountedByRules skus asOf account parent states).Blind := by
  refine (blind_discounted skus asOf account .accountDiscount states).bind ?_
  rintro ⟨states, resolved⟩
  dsimp only
  split
  · exact (blind_discounted skus asOf _ .parentDiscount states).bind fun _ => Dialogue.blind_pure _
  · exact Dialogue.blind_pure _

lemma blind_pricedForAccount (settings : Settings) (skus : List String) (asOf account : String)
    (parent : Option String) (states : List ItemState) :
    (pricedForAccount settings skus asOf account parent states).Blind := by
  refine (blind_discountedByRules skus asOf account parent states).bind ?_
  intro states
  refine Dialogue.blind_rows_bind ?_ ?_
  · intro specials specials' h
    rw [h.filterMap_eq fun _ _ => specialPrice?_eq]
  · intro specials
    refine Dialogue.blind_rows_bind ?_ fun _ => Dialogue.blind_pure _
    intro rows rows' h
    rw [h.filterMap_eq fun _ _ hrow => transaction?_eq hrow settings]

lemma blind_priced (settings : Settings) (today : Calendar.Date) (request : Request)
    (parent : Option String) (states : List ItemState) :
    (priced settings today request parent states).Blind := by
  rw [priced]
  split
  · exact Dialogue.blind_pure states
  · exact blind_pricedForAccount _ _ _ _ _ _

lemma blind_answer (settings : Settings) (today : Calendar.Date) (request : Request) :
    (answer settings today request).Blind := by
  rw [answer_eq]
  split
  · exact Dialogue.blind_pure []
  · refine (blind_parentFor request.account).bind fun parent => ?_
    refine Dialogue.blind_rows_bind ?_ ?_
    · intro rows rows' h
      rw [h.filterMap_eq fun _ _ => catalogEntry?_eq]
    · intro rows
      refine (blind_priced settings today request parent _).bind fun states => ?_
      refine Dialogue.blind_rows_bind ?_ fun _ => Dialogue.blind_pure _
      intro stock stock' h
      rw [itemsOf, itemsOf, h.filterMap_eq fun _ _ => stockMovement?_eq]

end Hasavshevet

namespace Sap

section Rows

variable {r r' : Row} (h : Row.Alike r r')
include h

lemma basePrice?_eq : basePrice? r = basePrice? r' := by
  simp only [basePrice?, h.text?_eq, h.float?_eq]

lemma special?_eq : special? r = special? r' := by
  simp only [special?, h.text?_eq, h.float?_eq]

lemma rule?_eq : rule? r = rule? r' := by
  simp only [rule?, h.text?_eq, h.signed?_eq]

lemma promotion?_eq : promotion? r = promotion? r' := by
  simp only [promotion?, h.text?_eq, h.float?_eq]

lemma billLine?_eq : billLine? r = billLine? r' := by
  simp only [billLine?, h.text?_eq]

lemma stockRow?_eq : stockRow? r = stockRow? r' := by
  simp only [stockRow?, h.text?_eq, h.signed?_eq, h.float?_eq]

end Rows

lemma customerOf_eq {rows rows' : Table} (h : Table.Alike rows rows') :
    customerOf rows = customerOf rows' := by
  cases h with
  | nil => rfl
  | cons hrow _ => simp only [customerOf, hrow.int?_eq, hrow.text?_eq]

lemma ofTables_eq {tables tables' : List Table} (h : List.Forall₂ Table.Alike tables tables') :
    Snapshot.ofTables tables = Snapshot.ofTables tables' := by
  have hset := Table.alike_getD h
  rw [Snapshot.ofTables, Snapshot.ofTables, customerOf_eq (hset 0),
    (hset 1).filterMap_eq fun _ _ => basePrice?_eq, (hset 2).filterMap_eq fun _ _ => special?_eq,
    (hset 3).filterMap_eq fun _ _ => rule?_eq, (hset 4).filterMap_eq fun _ _ => promotion?_eq,
    (hset 5).filterMap_eq fun _ _ => billLine?_eq, (hset 6).filterMap_eq fun _ _ => stockRow?_eq]

lemma blind_answer (settings : Settings) (today : Calendar.Date) (request : Request) :
    (answer settings today request).Blind := by
  rw [answer]
  dsimp only
  split
  · exact Dialogue.blind_pure []
  · split
    · exact .fail customerRequired
    · refine Dialogue.blind_tables_bind ?_ ?_
      · intro tables tables' h
        rw [ofTables_eq h]
      · intro tables
        split
        · exact Dialogue.blind_noted_bind (Dialogue.blind_pure _)
        · exact Dialogue.blind_pure _

end Sap

lemma blind_dialogue (backend : Backend) (settings : Settings) (today : Calendar.Date)
    (request : Request) :
    (Service.PriceStock.dialogue backend settings today request).Blind := by
  cases backend with
  | hasavshevet => exact Hasavshevet.blind_answer settings today request
  | sap => exact Sap.blind_answer settings today request

/-- Columns may come in any order, under names in any case, and texts with blanks around them: a price
question asks the same statements, notes the same events and has the same outcome. -/
theorem run_of_respelled_rows {db db' : Database} (hdistinct : db.DistinctColumns)
    (h : db.Respelled db') (backend : Backend) (settings : Settings) (today : Calendar.Date)
    (op : String) (limit : Nat) (request : Request) :
    (Service.PriceStock.dialogue backend settings today request).run db op limit =
      (Service.PriceStock.dialogue backend settings today request).run db' op limit :=
  (blind_dialogue backend settings today request).runFrom_eq hdistinct h op limit [] [] 0

def tidyRows : Database :=
  fun _ _ => ⟨0, .ok [[[("ItemKey", .text "A"), ("ItemPrice", .int 5), ("Warehouse", .text "10"),
    ("OnHand", .text "7")]]]⟩

def untidyRows : Database :=
  fun _ _ => ⟨0, .ok [[[("ONHAND", .text "\t7 "), ("itemkey", .text " A\u2003"),
    ("ItemPRICE", .int 5), ("warehouse", .text "10  ")]]]⟩

lemma padded_of_eq {s s' : String} (left right : List Char)
    (hleft : left.all Text.isBlank = true) (hright : right.all Text.isBlank = true)
    (h : s' = String.ofList (left ++ s.toList ++ right)) : Padded (.text s) (.text s') :=
  h ▸ .text s (List.all_eq_true.1 hleft) (List.all_eq_true.1 hright)

lemma respelled_untidyRows : tidyRows.Respelled untidyRows := by
  intro earlier s
  refine ⟨rfl, .cons (.cons ?_ .nil) .nil⟩
  refine ⟨[("OnHand", .text "7"), ("ItemKey", .text "A"), ("ItemPrice", .int 5),
    ("Warehouse", .text "10")], ?_, ?_⟩
  · exact (List.perm_append_singleton _ _).symm
  · refine .cons ⟨by decide, padded_of_eq ['\t'] [' '] (by decide) (by decide) (by decide)⟩ ?_
    refine .cons ⟨by decide, padded_of_eq [' '] ['\u2003'] (by decide) (by decide) (by decide)⟩ ?_
    refine .cons ⟨by decide, .same _⟩ ?_
    exact .cons ⟨by decide, padded_of_eq [] [' ', ' '] (by decide) (by decide) (by decide)⟩ .nil

theorem run_of_respelled_rows_untidy :
    let request : Request := { skus := ["A"] }
    (Service.PriceStock.dialogue .hasavshevet {} ⟨2024, 5, 1⟩ request).run tidyRows "op" 100 =
        (Service.PriceStock.dialogue .hasavshevet {} ⟨2024, 5, 1⟩ request).run untidyRows "op" 100 ∧
      ((Service.PriceStock.dialogue .hasavshevet {} ⟨2024, 5, 1⟩ request).run untidyRows "op"
          100).outcome.toOption.map (fun items => items.map fun item => (item.sku, item.stock)) =
        some [("A", [("10", 7.0)])] := by
  have hdistinct : tidyRows.DistinctColumns := by
    rintro earlier s tables hanswer rows hrows r hr
    cases hanswer
    rw [List.mem_singleton] at hrows
    subst hrows
    rw [List.mem_singleton] at hr
    subst hr
    simp only [Row.Distinct]
    decide
  exact ⟨run_of_respelled_rows hdistinct respelled_untidyRows _ _ _ _ _ _, by decide +kernel⟩

end Erp

end ErpGateway
