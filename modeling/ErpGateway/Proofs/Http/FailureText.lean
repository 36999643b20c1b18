import ErpGateway.Http.Server
import Mathlib.Data.Option.Basic
import Mathlib.Tactic.Common

/-! What a failure says stays inside. Two servers whose failures are of the same kinds, and differ in
their texts alone, give a client the same response, wherever the failures come up. -/

namespace ErpGateway

open Sql

/-- The same failure, or two of one kind whose text was not written for clients. -/
def Failure.SameButText (f g : Failure) : Prop :=
  f = g ∨ f.kind = g.kind ∧ f.kind.isValidation = false ∧ f.kind ≠ .invalidInput

lemma Failure.SameButText.refl (f : Failure) : f.SameButText f :=
  Or.inl rfl

lemma Failure.SameButText.kind_eq {f g : Failure} (h : f.SameButText g) : f.kind = g.kind := by
  rcases h with rfl | ⟨hkind, -⟩
  · rfl
  · exact hkind

lemma Failure.sameButText_of_kind {kind : FailureKind} (hvalidation : kind.isValidation = false)
    (hinput : kind ≠ .invalidInput) (op op' : Option String) (message message' : String)
    (detail detail' : Option String) :
    Failure.SameButText ⟨kind, op, message, detail⟩ ⟨kind, op', message', detail'⟩ :=
  Or.inr ⟨rfl, hvalidation, hinput⟩

def SameOutcome : Except Failure α → Except Failure α → Prop
  | .ok a, .ok b => a = b
  | .error f, .error g => f.SameButText g
  | _, _ => False

structure Reply.SameButText (r r' : Reply) : Prop where
  delay : r.delay = r'.delay
  answer : SameOutcome r.answer r'.answer

def Database.SameButText (db db' : Database) : Prop :=
  ∀ earlier s, (db earlier s).SameButText (db' earlier s)

structure Transcript.SameButText (t t' : Transcript α) : Prop where
  calls : t.calls = t'.calls
  elapsed : t.elapsed = t'.elapsed
  outcome : SameOutcome t.outcome t'.outcome

namespace Dialogue

inductive SameButText : Dialogue α → Dialogue α → Prop
  | done (a : α) : SameButText (done a) (done a)
  | fail {f g : Failure} (h : f.SameButText g) : SameButText (fail f) (fail g)
  | note {rest rest' : Dialogue α} (event event' : Event) (h : SameButText rest rest') :
      SameButText (note event rest) (note event' rest')
  | ask {next next' : List Table → Dialogue α} (s : Statement)
      (h : ∀ tables, SameButText (next tables) (next' tables)) :
      SameButText (ask s next) (ask s next')

lemma SameButText.refl (d : Dialogue α) : d.SameButText d := by
  induction d with
  | done a => exact .done a
  | fail failure => exact .fail (.refl failure)
  | note event rest ih => exact .note event event ih
  | ask s next ih => exact .ask s ih

lemma SameButText.runFrom {d d' : Dialogue α} (hd : d.SameButText d') {db db' : Database}
    (hdb : db.SameButText db') (op : String) (limit : Nat) (calls : List Statement)
    (events events' : List Event) (elapsed : Nat) :
    (d.runFrom db op limit calls events elapsed).SameButText
      (d'.runFrom db' op limit calls events' elapsed) := by
  induction hd generalizing calls events events' elapsed with
  | done a => exact ⟨rfl, rfl, rfl⟩
  | fail h => exact ⟨rfl, rfl, h⟩
  | note event event' _ ih => exact ih calls _ _ elapsed
  | ask s _ ih =>
    obtain ⟨hdelay, hanswer⟩ := hdb calls s
    simp only [Dialogue.runFrom]
    rw [← hdelay]
    by_cases hlate : limit < elapsed + (db calls s).delay
    · -- the deadline fails both with its own text
      rw [if_pos hlate, if_pos hlate]
      exact ⟨rfl, rfl, .refl _⟩
    · rw [if_neg hlate, if_neg hlate]
      cases hfirst : (db calls s).answer with
      | error f =>
        cases hsecond : (db' calls s).answer with
        | error g =>
          rw [hfirst, hsecond] at hanswer
          exact ⟨rfl, rfl, hanswer⟩
        | ok tables => rw [hfirst, hsecond] at hanswer; exact hanswer.elim
      | ok tables =>
        cases hsecond : (db' calls s).answer with
        | error g => rw [hfirst, hsecond] at hanswer; exact hanswer.elim
        | ok tables' =>
          rw [hfirst, hsecond] at hanswer
          obtain rfl : tables = tables' := hanswer
          exact ih tables _ _ _ _

lemma SameButText.run {d d' : Dialogue α} (hd : d.SameButText d') {db db' : Database}
    (hdb : db.SameButText db') (op : String) (limit : Nat) :
    (d.run db op limit).SameButText (d'.run db' op limit) :=
  hd.runFrom hdb op limit [] [] [] 0

end Dialogue

lemma Transcript.SameButText.framed {t t' : Transcript α} (h : t.SameButText t')
    (first first' : Event) (last : Except Failure α → Event) :
    (t.framed first last).SameButText (t'.framed first' last) :=
  ⟨h.calls, h.elapsed, h.outcome⟩

structure Service.Resolver.SameButText (resolver resolver' : Service.Resolver) : Prop where
  database : resolver.database.SameButText resolver'.database
  dialogue : ∀ request, (resolver.dialogue request).SameButText (resolver'.dialogue request)

namespace Http

open Service

lemma Refusal.ofFailure_eq {f g : Failure} (h : f.SameButText g) :
    Refusal.ofFailure f = Refusal.ofFailure g := by
  rcases h with rfl | ⟨hkind, hvalidation, hinput⟩
  · rfl
  · have hhidden : showsMessage f.kind = false := by simp [showsMessage, hvalidation, hinput]
    rw [Refusal.ofFailure, Refusal.ofFailure, ← hkind, hhidden]
    rfl

lemma Refusal.ofPricing_eq {f g : Failure} (h : f.SameButText g) :
    Refusal.ofPricing f = Refusal.ofPricing g := by
  rw [Refusal.ofPricing, Refusal.ofPricing, h.kind_eq, Refusal.ofFailure_eq h]

structure Probe.SameButText (probe probe' : Probe) : Prop where
  delay : probe.delay = probe'.delay
  failure : Option.Rel Failure.SameButText probe.failure probe'.failure

structure Ports.SameButText (ports ports' : Ports) : Prop where
  database : ports.database.SameButText ports'.database
  resolver : ports.resolver.SameButText ports'.resolver
  probe : ports.probe.SameButText ports'.probe

lemma response_health {probe probe' : Probe} (h : probe.SameButText probe') (limit : Nat) :
    (health limit probe).response = (health limit probe').response := by
  obtain ⟨hdelay, hfailure⟩ := h
  simp only [health]
  rw [← hdelay]
  split
  · rfl
  · cases hfirst : probe.failure with
    | none =>
      rw [hfirst] at hfailure
      cases hsecond : probe'.failure with
      | none => rfl
      | some g => rw [hsecond] at hfailure; cases hfailure
    | some f =>
      rw [hfirst] at hfailure
      cases hsecond : probe'.failure with
      | none => rw [hsecond] at hfailure; cases hfailure
      | some g => rfl

lemma response_exchangeOf {t t' : Transcript α} (h : t.SameButText t') {answer answer' : α → Json}
    (hanswer : answer = answer') {refusal : Failure → Refusal}
    (hrefusal : ∀ {f g : Failure}, f.SameButText g → refusal f = refusal g)
    (effects effects' : List Effect) :
    (exchangeOf t effects answer refusal).response =
      (exchangeOf t' effects' answer' refusal).response := by
  have houtcome := h.outcome
  subst hanswer
  simp only [exchangeOf]
  cases hfirst : t.outcome with
  | ok a =>
    cases hsecond : t'.outcome with
    | ok b => rw [hfirst, hsecond] at houtcome; rw [show a = b from houtcome]
    | error g => rw [hfirst, hsecond] at houtcome; exact houtcome.elim
  | error f =>
    cases hsecond : t'.outcome with
    | ok b => rw [hfirst, hsecond] at houtcome; exact houtcome.elim
    | error g =>
      rw [hfirst, hsecond] at houtcome
      exact congrArg Response.refused (hrefusal houtcome)

lemma response_perform {ports ports' : Ports} (h : ports.SameButText ports') (settings : Settings)
    (path : String) (action : Action) :
    (ports.perform settings path action).response =
      (ports'.perform settings path action).response := by
  cases action with
  | refuse refusal => rfl
  | probe => exact response_health h.probe settings.healthTimeout
  | query query =>
    have hrun : (AdHoc.run ports.database settings.queryLimits query).SameButText
        (AdHoc.run ports'.database settings.queryLimits query) :=
      ((Dialogue.SameButText.refl _).run h.database _ _).framed _ _ _
    exact response_exchangeOf hrun rfl Refusal.ofFailure_eq _ _
  | question request =>
    have hrun : (PriceStock.runWith ports.resolver settings.priceTimeout request).SameButText
        (PriceStock.runWith ports'.resolver settings.priceTimeout request) :=
      ((h.resolver.dialogue request).run h.resolver.database _ _).framed _ _ _
    exact response_exchangeOf hrun (by rw [hrun.elapsed]) Refusal.ofPricing_eq _ _

lemma response_serve {ports ports' : Ports} (h : ports.SameButText ports') (settings : Settings)
    (id id' : String) (r : Request) :
    (ports.serve settings id r).response = (ports'.serve settings id' r).response :=
  congrArg (trimmedFor r) (response_perform h settings r.path (actionOf settings r))

lemma Server.ports_sameButText (s : Server) {database : Database} {probe : Probe}
    (hdatabase : s.database.SameButText database) (hprobe : s.probe.SameButText probe) :
    s.ports.SameButText ({ s with database, probe } : Server).ports where
  database := hdatabase
  resolver := ⟨hdatabase, fun _ => .refl _⟩
  probe := hprobe

/-- No response tells apart two servers whose failures differ in operation, message and detail alone:
neither with resolvers of any kind, nor with those of the two backends, whose statements may fail one
by one. -/
theorem response_hides_failure_text :
    (∀ ports ports' : Ports, ports.SameButText ports' → ∀ settings id id' r,
      (ports.serve settings id r).response = (ports'.serve settings id' r).response) ∧
    ∀ (s : Server) (database : Database) (probe : Probe), s.database.SameButText database →
      s.probe.SameButText probe → ∀ id id' r,
        (s.serve id r).response = (({ s with database, probe } : Server).serve id' r).response := by
  constructor
  · intro ports ports' h settings id id' r
    exact response_serve h settings id id' r
  · intro s database probe hdatabase hprobe id id' r
    exact response_serve (s.ports_sameButText hdatabase hprobe) s.settings id id' r

def failureSaying (kind : FailureKind) (text : String) : Failure :=
  ⟨kind, some text, text, some text⟩

def failingServer (text : String) : Server where
  settings := { token := "tok" }
  backend := .hasavshevet
  pricing := {}
  database := fun earlier _ =>
    if earlier.isEmpty then ⟨1, .ok []⟩ else ⟨2, .error (failureSaying .execution text)⟩
  probe := ⟨0, some (failureSaying .unavailable text)⟩
  today := ⟨2024, 5, 1⟩

def failingPorts (text : String) : Ports where
  database := (failingServer text).database
  resolver := ⟨.sap, (failingServer text).database, fun _ => .fail (failureSaying .internal text)⟩
  probe := (failingServer text).probe

def priceRequest : Request where
  method := "POST"
  target := "/api/priceAndStockHandler"
  headers := [("Authorization", Text.utf8 "Bearer tok")]
  body := Text.utf8 "\x7b\"skuList\":[\"A\"],\"userExtId\":\"10\"\x7d"

theorem response_hides_table_name :
    let told := "Invalid object name 'dbo.Items'"
    ((failingServer told).serve "1" priceRequest).response =
        ((failingServer "login failed").serve "2" priceRequest).response ∧
      ((failingServer "login failed").serve "2" priceRequest).response =
        .refused ⟨500, "PRICE_STOCK_FAILED", "Failed to load price and stock"⟩ ∧
      ((failingPorts told).serve { token := "tok" } "1" priceRequest).response =
        ((failingPorts "login failed").serve { token := "tok" } "2" priceRequest).response := by
  intro told
  have hdatabase : Database.SameButText (failingServer told).database
      (failingServer "login failed").database := by
    intro earlier s
    cases earlier with
    | nil => exact ⟨rfl, rfl⟩
    | cons t earlier =>
      exact ⟨rfl, Failure.sameButText_of_kind rfl (by decide) _ _ _ _ _ _⟩
  have hprobe : Probe.SameButText (failingServer told).probe (failingServer "login failed").probe :=
    ⟨rfl, .some (Failure.sameButText_of_kind rfl (by decide) _ _ _ _ _ _)⟩
  have hresolver : Service.Resolver.SameButText (failingPorts told).resolver
      (failingPorts "login failed").resolver :=
    ⟨hdatabase, fun _ => .fail (Failure.sameButText_of_kind rfl (by decide) _ _ _ _ _ _)⟩
  have hports : (failingPorts told).SameButText (failingPorts "login failed") :=
    ⟨hdatabase, hresolver, hprobe⟩
  refine ⟨?_, by decide +kernel, ?_⟩
  · exact response_hides_failure_text.2 (failingServer told) _ _ hdatabase hprobe "1" "2"
      priceRequest
  · exact response_hides_failure_text.1 _ _ hports _ "1" "2" priceRequest

end Http

end ErpGateway
