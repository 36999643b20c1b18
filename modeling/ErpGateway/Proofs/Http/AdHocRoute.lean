import ErpGateway.Http.Server
import Mathlib.Tactic.Common

/-! The ad-hoc route reaches the database only behind its checks. A request acts by the one action it
is let do, and each action uses the ports at most once. -/

namespace ErpGateway.Service.AdHoc

open Sql

lemma calls_tables (db : Database) (op : String) (limit : Nat) (statement : Statement) :
    ((Dialogue.tables statement).run db op limit).calls = [statement] := by
  simp only [Dialogue.tables, Dialogue.run, Dialogue.runFrom, List.nil_append]
  split
  · rfl
  · split <;> rfl

lemma calls_run_of_admission_error (db : Database) (limits : QueryLimits) (query : Gate.Query)
    (rejection : Gate.Rejection) (hquery : Gate.admission query = .error rejection) :
    (run db limits query).calls = [] := by
  have hdialogue : dialogue limits query = .fail rejection.toFailure := by
    simp only [dialogue, hquery]
  simp only [run, hdialogue]
  rfl

lemma calls_run_of_admission (db : Database) (limits : QueryLimits) (query : Gate.Query)
    (admission : Gate.Admission) (hquery : Gate.admission query = .ok admission) :
    (run db limits query).calls = [statementOf limits admission] := by
  have hdialogue : dialogue limits query = .tables (statementOf limits admission) := by
    simp only [dialogue, hquery]
  simp only [run, hdialogue]
  exact calls_tables db op limits.timeout _

lemma length_calls_run_le (db : Database) (limits : QueryLimits) (query : Gate.Query) :
    (run db limits query).calls.length ≤ 1 := by
  cases hquery : Gate.admission query with
  | error rejection =>
      rw [calls_run_of_admission_error db limits query rejection hquery]
      exact Nat.zero_le 1
  | ok admission =>
      rw [calls_run_of_admission db limits query admission hquery]
      exact Nat.le_refl 1

lemma mem_calls_run_iff (db : Database) (limits : QueryLimits) (query : Gate.Query)
    (statement : Statement) :
    statement ∈ (run db limits query).calls ↔
      ∃ admission, Gate.admission query = .ok admission ∧
        statement = statementOf limits admission := by
  cases hquery : Gate.admission query with
  | error rejection =>
      rw [calls_run_of_admission_error db limits query rejection hquery]
      simp
  | ok admission =>
      rw [calls_run_of_admission db limits query admission hquery]
      simp

lemma statementOf_eq (limits : QueryLimits) (query : Gate.Query) (admission : Gate.Admission)
    (hquery : Gate.admission query = .ok admission) :
    statementOf limits admission =
      { text := Text.trimmed query.text
        params := admission.bindings
        maxRows := some limits.maxRows } := by
  have htext : admission.text = Text.trimmed query.text := by
    simp only [Gate.admission] at hquery
    cases hcheck : Gate.check query.text with
    | error rejection => simp [hcheck, bind, Except.bind] at hquery
    | ok _ =>
        cases hbind : Gate.bindParameters query.parameters (Gate.rowControls query.text) with
        | error rejection => simp [hcheck, hbind, bind, Except.bind] at hquery
        | ok bindings =>
            simp only [hcheck, hbind, bind, Except.bind, pure, Except.pure] at hquery
            cases hquery
            rfl
  simp [statementOf, Statement.bindAll, Statement.limited, htext]

end ErpGateway.Service.AdHoc

namespace ErpGateway.Http

lemma boundedBody_bind_eq_ok_iff (settings : Settings) (body : Text.Octets)
    (decode : Text.Octets → Except Failure α) (a : α) :
    (boundedBody settings body).bind decode = .ok a ↔
      body.length ≤ settings.maxBodyOctets ∧ decode body = .ok a := by
  unfold boundedBody
  by_cases hlength : settings.maxBodyOctets < body.length
  · rw [if_pos hlength]
    simp only [Except.bind, reduceCtorEq, false_iff]
    omega
  · rw [if_neg hlength]
    have hfits : body.length ≤ settings.maxBodyOctets := Nat.le_of_not_lt hlength
    simp only [Except.bind, hfits, true_and]

lemma bodyAction_cases (settings : Settings) (body : Text.Octets)
    (decode : Text.Octets → Except Failure α) (action : α → Action) :
    (∃ a, (boundedBody settings body).bind decode = .ok a ∧
      bodyAction settings body decode action = action a) ∨
    ∃ failure, (boundedBody settings body).bind decode = .error failure ∧
      bodyAction settings body decode action = .refuse (.ofFailure failure) := by
  cases hbody : (boundedBody settings body).bind decode with
  | ok a => exact Or.inl ⟨a, rfl, by simp only [bodyAction, hbody]⟩
  | error failure => exact Or.inr ⟨failure, rfl, by simp only [bodyAction, hbody]⟩

lemma bodyAction_query_eq_query_iff (settings : Settings) (body : Text.Octets) (query : Gate.Query) :
    bodyAction settings body queryOf .query = .query query ↔
      body.length ≤ settings.maxBodyOctets ∧ queryOf body = .ok query := by
  rw [← boundedBody_bind_eq_ok_iff]
  rcases bodyAction_cases settings body queryOf .query with
    ⟨a, hbody, haction⟩ | ⟨failure, hbody, haction⟩
  · rw [hbody, haction]
    simp only [Action.query.injEq, Except.ok.injEq]
  · rw [hbody, haction]
    simp only [reduceCtorEq]

lemma bodyAction_question_ne_query (settings : Settings) (body : Text.Octets) (query : Gate.Query) :
    bodyAction settings body questionOf .question ≠ .query query := by
  intro hquery
  rcases bodyAction_cases settings body questionOf .question with ⟨a, _, haction⟩ | ⟨_, _, haction⟩
  · rw [haction] at hquery
    cases hquery
  · rw [haction] at hquery
    cases hquery

lemma routed_eq_query_iff (settings : Settings) (r : Request) (query : Gate.Query) :
    routed settings r = .query query ↔
      r.method = "POST" ∧ r.path = queryPath ∧ r.body.length ≤ settings.maxBodyOctets ∧
        queryOf r.body = .ok query := by
  by_cases hroute : r.method = "POST" ∧ r.path = queryPath
  · obtain ⟨hmethod, hpath⟩ := hroute
    have hrouted : routed settings r = bodyAction settings r.body queryOf .query := by
      simp [routed, hmethod, hpath, queryPath, healthPath]
    rw [hrouted, bodyAction_query_eq_query_iff]
    simp only [hmethod, hpath, true_and]
  · constructor
    · intro hquery
      unfold routed at hquery
      split at hquery
      · cases hquery
      · split at hquery
        · rename_i hsql
          have hsql' : r.path = queryPath ∧ r.method = "POST" := by simpa using hsql
          exact absurd ⟨hsql'.2, hsql'.1⟩ hroute
        · split at hquery
          · exact absurd hquery (bodyAction_question_ne_query settings r.body query)
          · cases hquery
    · intro h
      exact absurd ⟨h.1, h.2.1⟩ hroute

lemma routed_of_queryPath (settings : Settings) (r : Request) (hpath : r.path = queryPath) :
    (∃ refusal, routed settings r = .refuse refusal) ∨
      ∃ query, routed settings r = .query query := by
  have hrouted : routed settings r =
      if r.method = "POST" then bodyAction settings r.body queryOf .query
      else .refuse (.ofKind .notFound) := by
    simp [routed, hpath, queryPath, healthPath, pricePath]
  rw [hrouted]
  split
  · rcases bodyAction_cases settings r.body queryOf .query with
      ⟨query, _, haction⟩ | ⟨failure, _, haction⟩
    · exact Or.inr ⟨query, haction⟩
    · exact Or.inl ⟨_, haction⟩
  · exact Or.inl ⟨_, rfl⟩

lemma actionOf_of_no_credentials (settings : Settings) (r : Request)
    (hbearer : bearerMatches (r.header? "authorization") settings.token settings.digest = false) :
    actionOf settings r = .refuse (.ofKind .unauthorised) := by
  simp [actionOf, hbearer]

lemma actionOf_eq_query_iff (settings : Settings) (r : Request) (query : Gate.Query) :
    actionOf settings r = .query query ↔
      bearerMatches (r.header? "authorization") settings.token settings.digest = true ∧
        routed settings r = .query query := by
  cases hbearer : bearerMatches (r.header? "authorization") settings.token settings.digest with
  | false =>
      rw [actionOf_of_no_credentials settings r hbearer]
      simp
  | true => simp [actionOf, hbearer]

lemma actionOf_of_queryPath (settings : Settings) (r : Request) (hpath : r.path = queryPath) :
    (∃ refusal, actionOf settings r = .refuse refusal) ∨
      ∃ query, actionOf settings r = .query query := by
  cases hbearer : bearerMatches (r.header? "authorization") settings.token settings.digest with
  | false => exact Or.inl ⟨_, actionOf_of_no_credentials settings r hbearer⟩
  | true =>
      have haction : actionOf settings r = routed settings r := by simp [actionOf, hbearer]
      rw [haction]
      exact routed_of_queryPath settings r hpath

section Effects

variable (ports : Ports) (settings : Settings) (path : String)

lemma effects_refuse (refusal : Refusal) :
    (ports.perform settings path (.refuse refusal)).effects = [] := rfl

lemma effects_probe : (ports.perform settings path .probe).effects = [.ping] := by
  simp only [Ports.perform, health]
  split
  · rfl
  · split <;> rfl

lemma effects_query (query : Gate.Query) :
    (ports.perform settings path (.query query)).effects =
      (Service.AdHoc.run ports.database settings.queryLimits query).calls.map .query := rfl

lemma effects_question (request : Pricing.Request) :
    ∃ asked, (ports.perform settings path (.question request)).effects =
      [.resolve request asked] := ⟨_, rfl⟩

lemma length_effects_perform_le (action : Action) :
    (ports.perform settings path action).effects.length ≤ 1 := by
  cases action with
  | refuse refusal => exact Nat.zero_le 1
  | probe => rw [effects_probe]; exact Nat.le_refl 1
  | query query =>
      rw [effects_query, List.length_map]
      exact Service.AdHoc.length_calls_run_le ports.database settings.queryLimits query
  | question request => exact Nat.le_refl 1

lemma query_mem_effects_perform_iff (action : Action) (statement : Sql.Statement) :
    Effect.query statement ∈ (ports.perform settings path action).effects ↔
      ∃ query admission, action = .query query ∧ Gate.admission query = .ok admission ∧
        statement = Service.AdHoc.statementOf settings.queryLimits admission := by
  cases action with
  | refuse refusal => simp [effects_refuse]
  | probe => simp [effects_probe]
  | query query =>
      rw [effects_query]
      simp only [List.mem_map, Effect.query.injEq, exists_eq_right, Action.query.injEq]
      rw [Service.AdHoc.mem_calls_run_iff]
      simp
  | question request =>
      obtain ⟨asked, heffects⟩ := effects_question ports settings path request
      simp [heffects]

end Effects

structure Admits (settings : Settings) (r : Request) (statement : Sql.Statement) : Prop where
  credentials : bearerMatches (r.header? "authorization") settings.token settings.digest = true
  method : r.method = "POST"
  path : r.path = "/api/sql"
  size : r.body.length ≤ settings.maxBodyOctets
  gate : ∃ query admission, queryOf r.body = .ok query ∧ Gate.admission query = .ok admission ∧
    statement =
      { text := Text.trimmed query.text
        params := admission.bindings
        maxRows := some settings.queryLimits.maxRows }

lemma admits_iff (settings : Settings) (r : Request) (statement : Sql.Statement) :
    Admits settings r statement ↔
      ∃ query admission, actionOf settings r = .query query ∧
        Gate.admission query = .ok admission ∧
        statement = Service.AdHoc.statementOf settings.queryLimits admission := by
  constructor
  · rintro ⟨hbearer, hmethod, hpath, hsize, query, admission, hquery, hgate, rfl⟩
    refine ⟨query, admission, ?_, hgate, ?_⟩
    · rw [actionOf_eq_query_iff, routed_eq_query_iff]
      exact ⟨hbearer, hmethod, hpath, hsize, hquery⟩
    · exact (Service.AdHoc.statementOf_eq settings.queryLimits query admission hgate).symm
  · rintro ⟨query, admission, haction, hgate, rfl⟩
    rw [actionOf_eq_query_iff, routed_eq_query_iff] at haction
    obtain ⟨hbearer, hmethod, hpath, hsize, hquery⟩ := haction
    refine ⟨hbearer, hmethod, hpath, hsize, query, admission, hquery, hgate, ?_⟩
    exact Service.AdHoc.statementOf_eq settings.queryLimits query admission hgate

def unauthorisedBody : String :=
  "\x7b\"error\":\"Unauthorized\",\"code\":\"UNAUTHORIZED\",\"details\":\x7b\x7d\x7d"

lemma body_unauthorised : (Refusal.ofKind .unauthorised).body = unauthorisedBody := by
  decide

lemma response_of_no_credentials (ports : Ports) (settings : Settings) (id : String) (r : Request)
    (hbearer : bearerMatches (r.header? "authorization") settings.token settings.digest = false) :
    (ports.serve settings id r).response =
      ⟨401, if r.method = "HEAD" ∧ r.path = "/api/health" then "" else unauthorisedBody⟩ := by
  have hresponse : (ports.serve settings id r).response =
      trimmedFor r (.refused (.ofKind .unauthorised)) := by
    simp only [Ports.serve, actionOf_of_no_credentials settings r hbearer]
    rfl
  have hrefused : Response.refused (.ofKind .unauthorised) = ⟨401, unauthorisedBody⟩ := by
    rw [← body_unauthorised]
    rfl
  rw [hresponse, hrefused]
  by_cases hhead : r.method = "HEAD" ∧ r.path = "/api/health"
  · simp [trimmedFor, healthPath, hhead]
  · rw [if_neg hhead]
    have hkept : ¬(r.method = "HEAD" && r.path = healthPath) := by
      intro hboth
      rw [Bool.and_eq_true] at hboth
      exact hhead ⟨of_decide_eq_true hboth.1, of_decide_eq_true hboth.2⟩
    rw [trimmedFor, if_neg hkept]

/-- Without credentials nothing is reached. With them the ports are used at most once, and a statement
is put to the database exactly when the request passes every check of the ad-hoc route. -/
theorem serve_asks_only_admitted (ports : Ports) (settings : Settings) (id : String) (r : Request) :
    (bearerMatches (r.header? "authorization") settings.token settings.digest = false →
      (ports.serve settings id r).response =
          ⟨401, if r.method = "HEAD" ∧ r.path = "/api/health" then "" else unauthorisedBody⟩ ∧
        (ports.serve settings id r).effects = []) ∧
    (ports.serve settings id r).effects.length ≤ 1 ∧
    (r.path = "/api/sql" → ∀ effect ∈ (ports.serve settings id r).effects,
      ∃ statement, effect = .query statement) ∧
    ∀ statement, Effect.query statement ∈ (ports.serve settings id r).effects ↔
      Admits settings r statement := by
  have heffects : (ports.serve settings id r).effects =
      (ports.perform settings r.path (actionOf settings r)).effects := rfl
  refine ⟨?_, ?_, ?_, ?_⟩
  · intro hbearer
    refine ⟨response_of_no_credentials ports settings id r hbearer, ?_⟩
    rw [heffects, actionOf_of_no_credentials settings r hbearer, effects_refuse]
  · rw [heffects]
    exact length_effects_perform_le ports settings r.path _
  · intro hpath effect heffect
    rw [heffects] at heffect
    rcases actionOf_of_queryPath settings r hpath with ⟨refusal, haction⟩ | ⟨query, haction⟩
    · rw [haction, effects_refuse] at heffect
      cases heffect
    · rw [haction, effects_query] at heffect
      obtain ⟨statement, _, rfl⟩ := List.mem_map.mp heffect
      exact ⟨statement, rfl⟩
  · intro statement
    rw [heffects, query_mem_effects_perform_iff, admits_iff]

def emptyPorts : Ports where
  database := fun _ _ => ⟨0, .ok []⟩
  resolver := ⟨.sap, fun _ _ => ⟨0, .ok []⟩, fun _ => .done []⟩
  probe := {}

def selectRequest : Request where
  method := "POST"
  target := "/api/sql"
  headers := [("Authorization", Text.utf8 "Bearer tok")]
  body := Text.utf8 "\x7b\"query\":\" SELECT 1 \"\x7d"

theorem serve_asks_select :
    Effect.query { text := "SELECT 1", maxRows := some 10000 } ∈
        (emptyPorts.serve { token := "tok" } "" selectRequest).effects ∧
      (emptyPorts.serve { token := "other" } "" selectRequest).effects = [] := by
  have hadmits : Admits { token := "tok" } selectRequest
      { text := "SELECT 1", maxRows := some 10000 } := by
    refine ⟨by decide, by decide, by decide, by decide, ?_⟩
    exact ⟨⟨" SELECT 1 ", []⟩, ⟨"SELECT 1", []⟩, by rfl, by decide +kernel, by rfl⟩
  obtain ⟨_, _, _, hasked⟩ := serve_asks_only_admitted emptyPorts { token := "tok" } "" selectRequest
  obtain ⟨hrefused, _⟩ := serve_asks_only_admitted emptyPorts { token := "other" } "" selectRequest
  exact ⟨(hasked _).mpr hadmits, (hrefused (by decide)).2⟩

theorem head_of_health_refused_without_body :
    let r : Request := { method := "HEAD", target := "/api/health" }
    bearerMatches (r.header? "authorization") "tok" = false ∧
      (emptyPorts.serve { token := "tok" } "" r).response = ⟨401, ""⟩ ∧
      (emptyPorts.serve { token := "tok" } "" r).response ≠ ⟨401, unauthorisedBody⟩ := by
  decide

end ErpGateway.Http
