import ErpGateway.Proofs.Erp.ClosedForm
import ErpGateway.Proofs.Pricing.Items

namespace ErpGateway.Erp.Hasavshevet

open Sql Pricing

namespace Answers

variable (a : Answers) (settings : Settings) (today : Calendar.Date) (request : Request)

def script : History :=
  if request.account.isEmpty then
    [(Hasavshevet.catalog request.skusAsAsked (request.asOfText today), a.catalog),
      (Hasavshevet.stock settings request.skusAsAsked
        (request.warehousesOr settings.defaultWarehouses), a.stock)]
  else a.talk settings today request

structure Anonymous : Prop where
  parent : a.parent = []
  rules : a.toRuleAnswers = ⟨[], [], [], []⟩
  specials : a.specials = []
  last : a.last = []

variable {a settings request}

lemma Anonymous.staged_eq (h : a.Anonymous) (sku : String) :
    (a.facts settings request).staged request.skusAsAsked settings.lastPriceList sku =
      (ItemState.seed (a.facts settings request).catalog sku).clamp := by
  refine Facts.staged_of_catalog_only _ _ _ ?_ ?_ ?_ ?_ sku
  · rw [facts, h.parent]
    rfl
  · rw [facts, h.rules]
    rfl
  · rw [facts, h.specials]
    rfl
  · rw [facts, h.last]
    rfl

lemma sku_item (sku : String) : (a.item settings request sku).sku = sku := by
  rw [item]
  split
  · simp only [withRequest, ItemState.toItem]
    simp [Facts.priced]
  · rfl

end Answers

section Yields

variable {settings : Settings} {today : Calendar.Date} {request : Request} {heard : History}
  {out : Except Failure (List Item)}

lemma yields_script (hskus : request.skusAsAsked ≠ [])
    (h : (answer settings today request).Yields heard out) :
    ∃ a : Answers, (request.account.isEmpty = true → a.Anonymous) ∧
      heard = a.script settings today request ∧
      out = .ok (request.skusAsAsked.map (a.item settings request)) := by
  by_cases haccount : request.account.isEmpty = true
  · rw [answer_eq, if_neg (by simp [hskus]), parentFor, if_pos haccount] at h
    obtain ⟨catalogRows, _, rfl, hpriced⟩ := Dialogue.yields_rows_bind_iff.mp h
    rw [priced, if_pos haccount] at hpriced
    obtain ⟨stockRows, _, rfl, hpure⟩ := Dialogue.yields_rows_bind_iff.mp hpriced
    obtain ⟨rfl, rfl⟩ := Dialogue.yields_pure_iff.mp hpure
    let a : Answers := ⟨⟨[], [], [], []⟩, [], catalogRows, [], [], stockRows⟩
    have ha : a.Anonymous := ⟨rfl, rfl, rfl, rfl⟩
    refine ⟨a, fun _ => ha, ?_, ?_⟩
    · rw [Answers.script, if_pos haccount]
    · rw [itemsOf, List.map_map, List.map_map]
      refine congrArg Except.ok (List.map_congr_left fun sku _ => ?_)
      rw [a.item_eq]
      dsimp only
      rw [ha.staged_eq]
      rfl
  · have hsome : request.account.isEmpty = false := Bool.not_eq_true _ ▸ haccount
    obtain ⟨a, rfl, hout⟩ := yields_answer hsome hskus h
    refine ⟨a, fun hempty => absurd hempty haccount, ?_, hout⟩
    rw [Answers.script, if_neg haccount]

end Yields

section Run

variable (db : Database) (settings : Settings) (today : Calendar.Date) (limit : Nat)
  (request : Request)

lemma run_of_no_skus (h : request.skusAsAsked = []) :
    let t := Service.PriceStock.run db .hasavshevet settings today limit request
    t.calls = [] ∧ t.outcome = .ok [] := by
  have hanswer : answer settings today request = .done [] := by
    rw [answer_eq, if_pos (List.isEmpty_iff.mpr h)]
    rfl
  change ((answer settings today request).run db Service.PriceStock.op limit).calls = [] ∧
    ((answer settings today request).run db Service.PriceStock.op limit).outcome = .ok []
  rw [hanswer]
  exact ⟨rfl, rfl⟩

variable {db settings today limit request} in
lemma exists_answers
    (h : db.Answered limit
      (Service.PriceStock.run db .hasavshevet settings today limit request).calls) :
    ∃ a : Answers, (request.account.isEmpty = true → a.Anonymous) ∧
      (request.skusAsAsked ≠ [] → Heard db (a.script settings today request)) ∧
      (Service.PriceStock.run db .hasavshevet settings today limit request).outcome =
        .ok (request.skusAsAsked.map (a.item settings request)) := by
  obtain ⟨heard, hheard, hyields, -⟩ := Dialogue.yields_of_answered db _ limit h
  by_cases hskus : request.skusAsAsked = []
  · refine ⟨⟨⟨[], [], [], []⟩, [], [], [], [], []⟩, fun _ => ⟨rfl, rfl, rfl, rfl⟩,
      fun hsome => absurd hskus hsome, ?_⟩
    rw [hskus]
    exact (run_of_no_skus db settings today limit request hskus).2
  · obtain ⟨a, hanonymous, rfl, hout⟩ := yields_script hskus hyields
    exact ⟨a, hanonymous, fun _ => hheard, hout⟩

lemma follows_script (hskus : request.skusAsAsked ≠ []) :
    let t := Service.PriceStock.run db .hasavshevet settings today limit request
    ∃ (a : Answers) (told rest : History), (request.account.isEmpty = true → a.Anonymous) ∧
      a.script settings today request = told ++ rest ∧ Heard db told ∧
      db.spent (told.map Prod.fst) ≤ limit ∧
      (rest = [] ∧ t.calls = told.map Prod.fst ∧
          t.outcome = .ok (request.skusAsAsked.map (a.item settings request)) ∨
        ∃ s tables later, rest = (s, tables) :: later ∧ t.calls = told.map Prod.fst ++ [s] ∧
          Dialogue.CutAt db Service.PriceStock.op limit (told.map Prod.fst) s t.outcome) := by
  obtain ⟨told, rest, out, hyields, hheard, hspent, hcourse⟩ :=
    Dialogue.follows_run db Service.PriceStock.op limit (answer settings today request)
  obtain ⟨a, hanonymous, hscript, hout⟩ := yields_script hskus hyields
  refine ⟨a, told, rest, hanonymous, hscript.symm, hheard, hspent, ?_⟩
  match rest, hcourse with
  | [], ⟨hcalls, houtcome⟩ => exact Or.inl ⟨rfl, hcalls, houtcome.trans hout⟩
  | (s, tables) :: later, ⟨hcalls, hcut⟩ =>
    exact Or.inr ⟨s, tables, later, rfl, hcalls, hcut⟩

/-- Without an item nothing is asked. Otherwise the script is followed until an answer is a failure, which
is the outcome, or comes too late; a script that comes to its end gives the items. -/
theorem calls_follow_script (db : Database) (settings : Settings) (today : Calendar.Date)
    (limit : Nat) (request : Request) :
    let t := Service.PriceStock.run db .hasavshevet settings today limit request
    ((∀ sku, ¬ request.Names sku) → t.calls = [] ∧ t.outcome = .ok []) ∧
    ∀ sku, request.Names sku → ∃ (a : Answers) (told rest : History),
      a.script settings today request = told ++ rest ∧ Heard db told ∧
      db.spent (told.map Prod.fst) ≤ limit ∧
      (rest = [] ∧ t.calls = told.map Prod.fst ∧
          t.outcome = .ok (request.skusAsAsked.map (a.item settings request)) ∨
        ∃ s tables later, rest = (s, tables) :: later ∧ t.calls = told.map Prod.fst ++ [s] ∧
          Dialogue.CutAt db Service.PriceStock.op limit (told.map Prod.fst) s t.outcome) := by
  refine ⟨fun hnone => ?_, fun sku hsku => ?_⟩
  · refine run_of_no_skus db settings today limit request (List.eq_nil_iff_forall_not_mem.mpr ?_)
    intro sku hmem
    exact hnone sku (Request.mem_skusAsAsked.mp hmem)
  · have hskus := List.ne_nil_of_mem (Request.mem_skusAsAsked.mpr hsku)
    obtain ⟨a, told, rest, -, hcourse⟩ := follows_script db settings today limit request hskus
    exact ⟨a, told, rest, hcourse⟩

end Run

def connectionLost : Failure :=
  ⟨.unavailable, none, "connection lost", none⟩

def failingDatabase : Database :=
  fun earlier _ => ⟨0, if earlier.length = 2 then .error connectionLost else .ok []⟩

theorem calls_follow_script_failing :
    let t := Service.PriceStock.run failingDatabase .hasavshevet {} ⟨2024, 5, 1⟩ 8000 accountRequest
    t.calls.length = 3 ∧ t.outcome = .error connectionLost := by
  have hsku : accountRequest.Names "A" := ⟨by decide, "A", by decide, by decide +kernel⟩
  have haccount : accountRequest.account.isEmpty = false := by decide +kernel
  have hfails : ∀ earlier s, earlier.length = 2 →
      (failingDatabase earlier s).answer = .error connectionLost := by
    intro earlier s hlength
    rw [failingDatabase, if_pos hlength]
  obtain ⟨-, hscript⟩ := calls_follow_script failingDatabase {} ⟨2024, 5, 1⟩ 8000 accountRequest
  obtain ⟨a, told, rest, htold, hheard, -, ⟨rfl, -, -⟩ | ⟨s, tables, later, rfl, hcalls, hcut⟩⟩ :=
    hscript "A" hsku
  · -- a script that is told to the end has a third statement with an answer
    rw [Answers.script, if_neg (by simp [haccount]), List.append_nil] at htold
    have hanswer := hheard [_, _] _ _ _ htold.symm
    rw [hfails _ _ rfl] at hanswer
    exact nomatch hanswer
  · rcases hcut with ⟨failure, hfailed, hout, -⟩ | ⟨hlate, -⟩
    · have hlength : (told.map Prod.fst).length = 2 := by
        by_contra hother
        rw [failingDatabase, if_neg hother] at hfailed
        exact nomatch hfailed
      rw [hfails _ s hlength] at hfailed
      obtain rfl := Except.error.inj hfailed
      refine ⟨?_, hout⟩
      rw [hcalls, List.length_append, hlength]
      rfl
    · rw [Database.spent, Database.spentAfter_eq_zero fun _ _ => rfl] at hlate
      exact absurd hlate (Nat.not_lt_zero _)

end ErpGateway.Erp.Hasavshevet
