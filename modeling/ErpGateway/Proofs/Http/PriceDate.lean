import ErpGateway.Proofs.Calendar.DateText
import ErpGateway.Proofs.Erp.AsOf
import ErpGateway.Proofs.Http.AdHocRoute
import ErpGateway.Sql.Cell

namespace ErpGateway.Http

open Calendar

def Spells (date : String) (text : List Char) : Prop :=
  ∃ left right, (∀ c ∈ left, Text.isBlank c = true) ∧ (∀ c ∈ right, Text.isBlank c = true) ∧
    date.toList = left ++ text ++ right

section Body

variable {b : PriceBody} {date : String} {t : DayText}

lemma trim_of_spells (h : Spells date t.chars) : Text.trim date.toList = t.chars := by
  obtain ⟨left, right, hleft, hright, hdate⟩ := h
  rw [hdate, Text.trim_padded hleft hright, trim_chars]

lemma asOf_of_spells (h : Spells date t.chars) :
    PriceBody.asOf (some date) =
      if t.date.isValid then .ok (some t.date) else .error PriceBody.dateFailure := by
  obtain ⟨c, rest, hc⟩ : ∃ c rest, t.chars = c :: rest := by
    obtain ⟨c, rest, hyear, -⟩ := t.fixed_year.exists_cons
    exact ⟨c, _, by rw [DayText.chars, hyear, List.cons_append]⟩
  have hread := ofText?_chars t
  rw [hc] at hread
  rw [PriceBody.asOf, Option.getD_some, trim_of_spells h, hc]
  dsimp only
  rw [hread]
  cases t.date.isValid <;> rfl

lemma toRequest_of_valid (hdate : b.date = some date) (h : Spells date t.chars)
    (hvalid : t.date.isValid = true) :
    b.toRequest = .ok ⟨b.skus, b.priceList, b.warehouses, b.account, some t.date⟩ := by
  rw [PriceBody.toRequest, hdate, asOf_of_spells h, if_pos hvalid]
  rfl

lemma toRequest_of_not_valid (hdate : b.date = some date) (h : Spells date t.chars)
    (hvalid : ¬ t.date.isValid = true) : b.toRequest = .error PriceBody.dateFailure := by
  rw [PriceBody.toRequest, hdate, asOf_of_spells h, if_neg hvalid]
  rfl

end Body

structure Poses (settings : Settings) (r : Request) (b : PriceBody) : Prop where
  credentials : bearerMatches (r.header? "authorization") settings.token settings.digest = true
  method : r.method = "POST"
  path : r.path = "/api/priceAndStockHandler"
  size : r.body.length ≤ settings.maxBodyOctets
  body : PriceBody.ofOctets r.body = .ok b

section Server

variable {settings : Settings} {s : Server} {r : Request} {b : PriceBody}

lemma Poses.actionOf_eq (h : Poses settings r b) :
    actionOf settings r =
      match b.toRequest with
      | .ok request => .question request
      | .error failure => .refuse (.ofFailure failure) := by
  have hquestion : (boundedBody settings r.body).bind questionOf = b.toRequest := by
    rw [boundedBody, if_neg (Nat.not_lt_of_le h.size), Except.bind, questionOf, h.body]
    rfl
  have haction : actionOf settings r = bodyAction settings r.body questionOf .question := by
    simp [actionOf, routed, h.credentials, h.method, h.path, pricePath, queryPath, healthPath]
  rw [haction, bodyAction, hquestion]
  cases b.toRequest <;> rfl

lemma Poses.calls_serve (h : Poses s.settings r b) {request : Pricing.Request}
    (hrequest : b.toRequest = .ok request) (id : String) :
    (s.serve id r).calls =
      (Service.PriceStock.run s.database s.backend s.pricing s.today s.settings.priceTimeout
        request).calls := by
  have heffects : (s.serve id r).effects =
      (s.ports.perform s.settings r.path (actionOf s.settings r)).effects := rfl
  rw [Exchange.calls, heffects, h.actionOf_eq, hrequest]
  exact List.append_nil _

lemma Poses.serve_refused (h : Poses s.settings r b) {failure : Failure}
    (hrequest : b.toRequest = .error failure) (id : String) :
    (s.serve id r).effects = [] ∧ (s.serve id r).response = .refused (.ofFailure failure) := by
  have haction : actionOf s.settings r = .refuse (.ofFailure failure) := by
    rw [h.actionOf_eq, hrequest]
  have hpost : ¬ (r.method = "HEAD" && r.path = healthPath) = true := by
    simp [h.method]
  rw [Server.serve, Ports.serve, haction]
  dsimp only
  rw [trimmedFor, if_neg hpost]
  exact ⟨rfl, rfl⟩

end Server

/-- The body asks about this day. Whatever is asked of a database for it binds `text`, and something
is, once every statement is answered and there is an item to ask about. -/
def AsksAsOf (b : PriceBody) (day : Date) (text : String) : Prop :=
  ∃ request, b.toRequest = .ok request ∧ request.asOf = some day ∧
    ∀ (s : Server) (id : String) (r : Request), Poses s.settings r b →
      (∀ asked ∈ (s.serve id r).calls, Erp.BindsDay text asked) ∧
      ∀ sku, request.Names sku → (s.backend = .sap → request.account.isEmpty = false) →
        s.database.Answered s.settings.priceTimeout (s.serve id r).calls →
        ∃ asked ∈ (s.serve id r).calls, ∃ name ∈ Erp.dayNames,
          asked.param? name = some (.text text)

def IsRefused (b : PriceBody) : Prop :=
  ∃ failure, b.toRequest = .error failure ∧ failure.kind = .invalidInput ∧
    ∀ (s : Server) (id : String) (r : Request), Poses s.settings r b →
      (s.serve id r).effects = [] ∧ (s.serve id r).response = .refused (.ofFailure failure)

section Dates

variable {b : PriceBody} {date : String} {t : DayText}

lemma asksAsOf_of_valid (hdate : b.date = some date) (h : Spells date t.chars)
    (hvalid : t.date.isValid = true) : AsksAsOf b t.date t.date.text := by
  have hrequest := toRequest_of_valid hdate h hvalid
  refine ⟨_, hrequest, rfl, fun s id r hposes => ?_⟩
  rw [hposes.calls_serve hrequest id]
  refine ⟨?_, fun sku hsku haccount hanswered => ?_⟩
  · exact Erp.calls_bindDay s.database s.backend s.pricing s.today _ _
  · exact Erp.exists_param_of_answered hsku haccount hanswered

lemma isRefused_of_not_valid (hdate : b.date = some date) (h : Spells date t.chars)
    (hvalid : ¬ t.date.isValid = true) : IsRefused b := by
  have hrequest := toRequest_of_not_valid hdate h hvalid
  exact ⟨_, hrequest, rfl, fun s id r hposes => hposes.serve_refused hrequest id⟩

end Dates

/-- The text of a date column asks about the same day, in the same words; the words are in the order of
the days, and such a text that names no day is refused. -/
theorem dates_round_trip :
    (∀ n, Recorded n → ∃ text, (Sql.Cell.date n).toJson = .text text ∧
      (Date.ofDays n).toDays = n ∧
      ∀ (b : PriceBody) (date : String), b.date = some date → Spells date text.toList →
        AsksAsOf b (Date.ofDays n) text) ∧
    (∀ n n' text text', Recorded n → Recorded n' → (Sql.Cell.date n).toJson = .text text →
      (Sql.Cell.date n').toJson = .text text' → (Text.utf8 text < Text.utf8 text' ↔ n < n')) ∧
    ∀ t : DayText, ¬ t.NamesDay → ∀ (b : PriceBody) (date : String), b.date = some date →
      Spells date t.chars → IsRefused b := by
  refine ⟨fun n hn => ?_, fun n n' text text' hn hn' htext htext' => ?_,
    fun t ht b date hdate hspells => ?_⟩
  · obtain ⟨t, htext, hday⟩ := exists_dayText_of_recorded hn
    refine ⟨(Date.ofDays n).text, rfl, Date.toDays_ofDays n, fun b date hdate hspells => ?_⟩
    rw [htext] at hspells
    have hvalid : t.date.isValid = true := hday ▸ Date.isValid_ofDays n
    rw [← hday]
    exact asksAsOf_of_valid hdate hspells hvalid
  · obtain rfl : (Date.ofDays n).text = text := Json.text.inj htext
    obtain rfl : (Date.ofDays n').text = text' := Json.text.inj htext'
    exact utf8_text_lt_iff hn hn'
  · exact isRefused_of_not_valid hdate hspells (mt t.namesDay_iff.mpr ht)

def leapDayServer : Server where
  settings := { token := "tok" }
  backend := .sap
  pricing := {}
  database := Erp.emptyDatabase
  probe := {}
  today := ⟨2024, 5, 1⟩

def leapDayBody : PriceBody where
  skus := ["A"]
  account := "C1"
  date := some " 2024-02-29"

def leapDayRequest : Request where
  method := "POST"
  target := "/api/priceAndStockHandler"
  headers := [("Authorization", Text.utf8 "Bearer tok")]
  body := Text.utf8 "\x7b\"skuList\":[\"A\"],\"userExtId\":\"C1\",\"date\":\" 2024-02-29\"\x7d"

lemma poses_leapDay : Poses leapDayServer.settings leapDayRequest leapDayBody where
  credentials := by decide
  method := rfl
  path := by decide
  size := by decide
  body := by decide +kernel

def noLeapDay : DayText where
  year := ['2', '0', '2', '3']
  month := ['0', '2']
  day := ['2', '9']
  fixed_year := ⟨rfl, by simp⟩
  fixed_month := ⟨rfl, by simp⟩
  fixed_day := ⟨rfl, by simp⟩

theorem dates_round_trip_leapDay :
    (∃ asked ∈ (leapDayServer.serve "" leapDayRequest).calls, ∃ name ∈ Erp.dayNames,
      asked.param? name = some (.text "2024-02-29")) ∧
    Text.utf8 "2024-02-29" < Text.utf8 "2024-03-01" ∧
    IsRefused { leapDayBody with date := some "2023-02-29" } := by
  have hday : Recorded 738944 := by decide
  have hnext : Recorded 738945 := by decide
  have htext : (Sql.Cell.date 738944).toJson = .text "2024-02-29" :=
    congrArg Json.text (by decide)
  have htext' : (Sql.Cell.date 738945).toJson = .text "2024-03-01" :=
    congrArg Json.text (by decide)
  obtain ⟨htaken, horder, hrefused⟩ := dates_round_trip
  refine ⟨?_, (horder _ _ _ _ hday hnext htext htext').mpr (by decide), ?_⟩
  · obtain ⟨text, hcell, -, hasks⟩ := htaken 738944 hday
    obtain rfl : "2024-02-29" = text := Json.text.inj (htext.symm.trans hcell)
    obtain ⟨request, hrequest, -, hserved⟩ :=
      hasks leapDayBody _ rfl ⟨[' '], [], List.forall_mem_singleton.mpr rfl, by simp, rfl⟩
    obtain rfl : ⟨["A"], [], [], "C1", some ⟨2024, 2, 29⟩⟩ = request := Except.ok.inj hrequest
    obtain ⟨-, hbound⟩ := hserved leapDayServer "" leapDayRequest poses_leapDay
    refine hbound "A" ⟨by decide, "A", by decide, by decide⟩ (fun _ => by decide) ?_
    exact Database.answered_of_prompt (fun _ _ => ⟨[], rfl⟩) _ _
  · refine hrefused noLeapDay ?_ _ _ rfl ⟨[], [], by simp, by simp, by decide⟩
    rw [DayText.namesDay_iff]
    decide

end ErpGateway.Http
