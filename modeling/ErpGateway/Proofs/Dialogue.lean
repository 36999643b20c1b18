import ErpGateway.Dialogue
import Mathlib.Data.List.Basic

/-! What a dialogue asks and what it comes to. A property of each statement, given the answers that came
before it, carries over to the calls of every run, and a run that is not cut short ends as the dialogue
does on these answers. -/

namespace ErpGateway

open Sql

abbrev History := List (Statement × List Table)

def Heard (db : Database) (history : History) : Prop :=
  ∀ earlier s tables later, history = earlier ++ (s, tables) :: later →
    (db (earlier.map Prod.fst) s).answer = .ok tables

lemma Heard.exists_answer {db : Database} {history : History} (h : Heard db history)
    {p : Statement × List Table} (hp : p ∈ history) :
    ∃ earlier, (db earlier p.1).answer = .ok p.2 := by
  obtain ⟨earlier, later, rfl⟩ := List.append_of_mem hp
  exact ⟨earlier.map Prod.fst, h earlier p.1 p.2 later rfl⟩

namespace Database

variable (db : Database)

def spentAfter (earlier : List Statement) : List Statement → Nat
  | [] => 0
  | s :: later => (db earlier s).delay + spentAfter (earlier ++ [s]) later

def spent (calls : List Statement) : Nat :=
  db.spentAfter [] calls

lemma spentAfter_snoc (earlier later : List Statement) (s : Statement) :
    db.spentAfter earlier (later ++ [s]) =
      db.spentAfter earlier later + (db (earlier ++ later) s).delay := by
  induction later generalizing earlier with
  | nil => simp [spentAfter]
  | cons t later ih =>
    rw [List.cons_append, spentAfter, ih, spentAfter, Nat.add_assoc, List.append_assoc]
    rfl

lemma spentAfter_eq_zero {db : Database} (h : ∀ earlier s, (db earlier s).delay = 0)
    (earlier calls : List Statement) : db.spentAfter earlier calls = 0 := by
  induction calls generalizing earlier with
  | nil => rfl
  | cons s later ih => rw [spentAfter, h, ih]

structure Answered (limit : Nat) (calls : List Statement) : Prop where
  answered : ∀ earlier s later, calls = earlier ++ s :: later →
    ∃ tables, (db earlier s).answer = .ok tables
  intime : db.spent calls ≤ limit

lemma answered_of_prompt {db : Database} (hanswer : ∀ earlier s, ∃ tables, db earlier s = ⟨0, .ok tables⟩)
    (limit : Nat) (calls : List Statement) : db.Answered limit calls where
  answered earlier s _ _ := by
    obtain ⟨tables, hreply⟩ := hanswer earlier s
    exact ⟨tables, congrArg Reply.answer hreply⟩
  intime := by
    have hzero : ∀ earlier s, (db earlier s).delay = 0 := by
      intro earlier s
      obtain ⟨tables, hreply⟩ := hanswer earlier s
      exact congrArg Reply.delay hreply
    rw [spent, spentAfter_eq_zero hzero]
    exact Nat.zero_le limit

structure Answers (limit : Nat) (s : Statement) (tables : List Table) : Prop where
  answer : (db [] s).answer = .ok tables
  intime : (db [] s).delay ≤ limit

lemma Answered.exists_answers {db : Database} {limit : Nat} {s : Statement}
    (h : db.Answered limit [s]) : ∃ tables, db.Answers limit s tables := by
  obtain ⟨tables, hanswer⟩ := h.answered [] s [] rfl
  exact ⟨tables, hanswer, h.intime⟩

lemma spent_snoc (calls : List Statement) (s : Statement) :
    db.spent (calls ++ [s]) = db.spent calls + (db calls s).delay :=
  db.spentAfter_snoc [] calls s

end Database

namespace Dialogue

inductive Asks (P : History → Statement → Prop) : History → Dialogue α → Prop
  | done (history : History) (a : α) : Asks P history (done a)
  | fail (history : History) (failure : Failure) : Asks P history (fail failure)
  | note {history : History} {rest : Dialogue α} (event : Event) (h : Asks P history rest) :
      Asks P history (note event rest)
  | ask {history : History} {s : Statement} {next : List Table → Dialogue α} (hs : P history s)
      (h : ∀ tables, Asks P (history ++ [(s, tables)]) (next tables)) : Asks P history (ask s next)

section Asks

variable {P : History → Statement → Prop} {history : History}

lemma asks_pure (a : α) : (pure a : Dialogue α).Asks P history :=
  .done history a

lemma Asks.bind {d : Dialogue α} {f : α → Dialogue β} (hd : d.Asks P history)
    (hf : ∀ a later, (f a).Asks P (history ++ later)) : (d >>= f).Asks P history := by
  induction hd with
  | done history a =>
    have := hf a []
    rwa [List.append_nil] at this
  | fail history failure => exact .fail history failure
  | note event _ ih => exact .note event (ih hf)
  | ask hs _ ih =>
    refine .ask hs fun tables => ih tables fun a later => ?_
    rw [List.append_assoc]
    exact hf a _

lemma asks_rows_bind {s : Statement} {f : Table → Dialogue α} (hs : P history s)
    (hf : ∀ tables, (f (tables.headD [])).Asks P (history ++ [(s, tables)])) :
    (rows s >>= f).Asks P history :=
  .ask hs hf

lemma asks_tables_bind {s : Statement} {f : List Table → Dialogue α} (hs : P history s)
    (hf : ∀ answer, (f answer).Asks P (history ++ [(s, answer)])) :
    (tables s >>= f).Asks P history :=
  .ask hs hf

lemma asks_noted_bind {event : Event} {f : Unit → Dialogue α} (hf : (f ()).Asks P history) :
    (noted event >>= f).Asks P history :=
  .note event hf

end Asks

/-- What a dialogue comes to when it hears these answers. -/
inductive Yields : Dialogue α → History → Except Failure α → Prop
  | done (a : α) : Yields (done a) [] (.ok a)
  | fail (failure : Failure) : Yields (fail failure) [] (.error failure)
  | note {rest : Dialogue α} {heard : History} {out : Except Failure α} (event : Event)
      (h : Yields rest heard out) : Yields (note event rest) heard out
  | ask {s : Statement} {next : List Table → Dialogue α} {tables : List Table} {heard : History}
      {out : Except Failure α} (h : Yields (next tables) heard out) :
      Yields (ask s next) ((s, tables) :: heard) out

section Yields

variable {heard : History} {out : Except Failure α}

lemma exists_yields (d : Dialogue α) : ∃ heard out, d.Yields heard out := by
  induction d with
  | done a => exact ⟨[], .ok a, .done a⟩
  | fail failure => exact ⟨[], .error failure, .fail failure⟩
  | note event rest ih =>
    obtain ⟨heard, out, h⟩ := ih
    exact ⟨heard, out, .note event h⟩
  | ask s next ih =>
    obtain ⟨heard, out, h⟩ := ih []
    exact ⟨(s, []) :: heard, out, .ask h⟩

lemma yields_pure_iff {a : α} :
    (pure a : Dialogue α).Yields heard out ↔ heard = [] ∧ out = .ok a := by
  constructor
  · intro h
    cases h
    exact ⟨rfl, rfl⟩
  · rintro ⟨rfl, rfl⟩
    exact .done a

lemma yields_rows_bind_iff {s : Statement} {f : Table → Dialogue α} :
    (rows s >>= f).Yields heard out ↔
      ∃ tables later, heard = (s, tables) :: later ∧ (f (tables.headD [])).Yields later out := by
  constructor
  · intro h
    cases h with
    | ask h => exact ⟨_, _, rfl, h⟩
  · rintro ⟨tables, later, rfl, h⟩
    exact .ask h

lemma yields_noted_bind_iff {event : Event} {f : Unit → Dialogue α} :
    (noted event >>= f).Yields heard out ↔ (f ()).Yields heard out := by
  constructor
  · intro h
    cases h with
    | note _ h => exact h
  · exact .note event

lemma yields_bind {d : Dialogue α} {f : α → Dialogue β} {out : Except Failure β}
    (h : (d >>= f).Yields heard out) :
    ∃ before r after, d.Yields before r ∧ heard = before ++ after ∧
      match r with
      | .ok a => (f a).Yields after out
      | .error failure => after = [] ∧ out = .error failure := by
  induction d generalizing heard with
  | done a => exact ⟨[], .ok a, heard, .done a, rfl, h⟩
  | fail failure =>
    cases h
    exact ⟨[], .error failure, [], .fail failure, rfl, rfl, rfl⟩
  | note event rest ih =>
    cases h with
    | note _ h =>
      obtain ⟨before, r, after, hd, rfl, hf⟩ := ih h
      exact ⟨before, r, after, .note event hd, rfl, hf⟩
  | ask s next ih =>
    cases h with
    | ask h =>
      obtain ⟨before, r, after, hd, rfl, hf⟩ := ih _ h
      exact ⟨_ :: before, r, after, .ask hd, rfl, hf⟩

end Yields

lemma heard_snoc {db : Database} {history : History} (h : Heard db history) {s : Statement}
    {tables : List Table} (hs : (db (history.map Prod.fst) s).answer = .ok tables) :
    Heard db (history ++ [(s, tables)]) := by
  intro earlier s' tables' later heq
  rcases List.eq_nil_or_concat' later with rfl | ⟨later, e, rfl⟩
  · obtain ⟨rfl, hlast⟩ := List.append_inj' heq rfl
    obtain ⟨rfl, rfl⟩ := Prod.mk.inj (List.singleton_inj.mp hlast)
    exact hs
  · rw [← List.cons_append, ← List.append_assoc] at heq
    exact h earlier s' tables' later (List.append_inj' heq rfl).1

section Run

variable (db : Database) (op : String) (limit : Nat)

lemma prefix_calls_runFrom (calls : List Statement) (events : List Event) (elapsed : Nat)
    (d : Dialogue α) : calls <+: (runFrom db op limit calls events elapsed d).calls := by
  induction d generalizing calls events elapsed with
  | done a => exact List.prefix_refl _
  | fail failure => exact List.prefix_refl _
  | note event rest ih => exact ih _ _ _
  | ask s next ih =>
    rw [runFrom]
    split
    · exact List.prefix_append _ _
    · split
      · exact List.prefix_append _ _
      · exact (List.prefix_append _ _).trans (ih _ _ _ _)

lemma eq_of_snoc_prefix {calls before after : List Statement} {s t : Statement}
    (h : calls ++ [t] <+: before ++ s :: after) (hlength : calls.length = before.length) :
    calls = before ∧ t = s := by
  obtain ⟨rest, hrest⟩ := h
  rw [List.append_assoc] at hrest
  obtain ⟨hcalls, hcons⟩ := List.append_inj hrest hlength
  exact ⟨hcalls, (List.cons.inj hcons).1⟩

lemma exists_history_of_runFrom {P : History → Statement → Prop} {d : Dialogue α}
    {history : History} (hheard : Heard db history) (hasks : d.Asks P history)
    (events : List Event) (elapsed : Nat) {before after : List Statement} {s : Statement}
    (hcalls : (runFrom db op limit (history.map Prod.fst) events elapsed d).calls =
      before ++ s :: after) (hlength : history.length ≤ before.length) :
    ∃ heard, heard.map Prod.fst = before ∧ Heard db heard ∧ P heard s := by
  have hend : ∀ history : History, history.length ≤ before.length →
      history.map Prod.fst ≠ before ++ s :: after := by
    intro history hlength h
    have := congrArg List.length h
    simp at this
    omega
  induction hasks generalizing events elapsed with
  | done history a => exact absurd hcalls (hend history hlength)
  | fail history failure => exact absurd hcalls (hend history hlength)
  | note event _ ih => exact ih hheard _ _ hcalls hlength
  | @ask history t next hs _ ih =>
    have hask : history.map Prod.fst ++ [t] <+: before ++ s :: after := by
      rw [← hcalls, runFrom]
      split
      · exact List.prefix_refl _
      · split
        · exact List.prefix_refl _
        · exact prefix_calls_runFrom db op limit _ _ _ _
    rcases Nat.eq_or_lt_of_le hlength with heq | hlt
    · obtain ⟨hbefore, rfl⟩ := eq_of_snoc_prefix hask (by simpa using heq)
      exact ⟨history, hbefore, hheard, hs⟩
    · have hstep : ∀ tables, (history ++ [(t, tables)]).length ≤ before.length := by
        intro tables
        rw [List.length_append]
        exact hlt
      have hmap : ∀ tables : List Table,
          history.map Prod.fst ++ [t] = (history ++ [(t, tables)]).map Prod.fst := by
        simp
      have hlast : history.map Prod.fst ++ [t] ≠ before ++ s :: after := by
        rw [hmap []]
        exact hend _ (hstep [])
      rw [runFrom] at hcalls
      split at hcalls
      · exact absurd hcalls hlast
      · split at hcalls
        · exact absurd hcalls hlast
        · rename_i tables hanswer
          rw [hmap tables] at hcalls
          exact ih tables (heard_snoc hheard hanswer) _ _ hcalls (hstep tables)

theorem exists_history_of_calls {P : History → Statement → Prop} {d : Dialogue α}
    (hasks : d.Asks P []) {before after : List Statement} {s : Statement}
    (hcalls : (d.run db op limit).calls = before ++ s :: after) :
    ∃ heard, heard.map Prod.fst = before ∧ Heard db heard ∧ P heard s :=
  exists_history_of_runFrom db op limit (by intro; simp) hasks [] 0 hcalls (Nat.zero_le _)

/-- The last answer is a failure, which is the outcome, or it comes after the deadline. -/
def CutAt (earlier : List Statement) (s : Statement) (outcome : Except Failure α) : Prop :=
  (∃ failure, (db earlier s).answer = .error failure ∧ outcome = .error failure ∧
    db.spent (earlier ++ [s]) ≤ limit) ∨
  limit < db.spent (earlier ++ [s]) ∧ outcome = .error (timeoutFailure op limit)

def Follows (d : Dialogue α) (history : History) (t : Transcript α) : Prop :=
  ∃ told rest out, d.Yields (told ++ rest) out ∧ Heard db (history ++ told) ∧
    db.spent ((history ++ told).map Prod.fst) ≤ limit ∧
    match rest with
    | [] => t.calls = (history ++ told).map Prod.fst ∧ t.outcome = out
    | (s, _) :: _ =>
      t.calls = (history ++ told).map Prod.fst ++ [s] ∧
        CutAt db op limit ((history ++ told).map Prod.fst) s t.outcome

lemma follows_runFrom (d : Dialogue α) {history : History} (hheard : Heard db history)
    (events : List Event) (hspent : db.spent (history.map Prod.fst) ≤ limit) :
    Follows db op limit d history (runFrom db op limit (history.map Prod.fst) events
      (db.spent (history.map Prod.fst)) d) := by
  -- the history holds what was answered so far, so that the database is asked with its statements
  induction d generalizing history events with
  | done a =>
    refine ⟨[], [], .ok a, .done a, ?_⟩
    rw [List.append_nil]
    exact ⟨hheard, hspent, rfl, rfl⟩
  | fail failure =>
    refine ⟨[], [], .error failure, .fail failure, ?_⟩
    rw [List.append_nil]
    exact ⟨hheard, hspent, rfl, rfl⟩
  | note event rest ih =>
    obtain ⟨told, later, out, hyields, hcourse⟩ := ih hheard (events ++ [event]) hspent
    exact ⟨told, later, out, .note event hyields, hcourse⟩
  | ask s next ih =>
    have hsnoc := db.spent_snoc (history.map Prod.fst) s
    by_cases hlate : limit < db.spent (history.map Prod.fst) + (db (history.map Prod.fst) s).delay
    · obtain ⟨later, out, hyields⟩ := exists_yields (next [])
      refine ⟨[], (s, []) :: later, out, .ask hyields, ?_⟩
      rw [List.append_nil]
      refine ⟨hheard, hspent, ?_, Or.inr ⟨hsnoc ▸ hlate, ?_⟩⟩
      · simp [runFrom, hlate]
      · simp [runFrom, hlate]
    · cases hanswer : (db (history.map Prod.fst) s).answer with
      | error failure =>
        obtain ⟨later, out, hyields⟩ := exists_yields (next [])
        refine ⟨[], (s, []) :: later, out, .ask hyields, ?_⟩
        rw [List.append_nil]
        refine ⟨hheard, hspent, ?_, Or.inl ⟨failure, hanswer, ?_, ?_⟩⟩
        · simp [runFrom, hlate, hanswer]
        · simp [runFrom, hlate, hanswer]
        · rw [hsnoc]
          exact Nat.le_of_not_lt hlate
      | ok tables =>
        have hmap : history.map Prod.fst ++ [s] = (history ++ [(s, tables)]).map Prod.fst := by
          simp
        have hstep : runFrom db op limit (history.map Prod.fst) events
            (db.spent (history.map Prod.fst)) (ask s next) =
            runFrom db op limit ((history ++ [(s, tables)]).map Prod.fst) events
              (db.spent ((history ++ [(s, tables)]).map Prod.fst)) (next tables) := by
          rw [← hmap, hsnoc, runFrom, if_neg hlate, hanswer]
        rw [hstep]
        obtain ⟨told, later, out, hyields, hcourse⟩ := ih tables (heard_snoc hheard hanswer) events
          (by rw [← hmap, hsnoc]; exact Nat.le_of_not_lt hlate)
        refine ⟨(s, tables) :: told, later, out, .ask hyields, ?_⟩
        rwa [List.append_cons]

theorem follows_run (d : Dialogue α) : Follows db op limit d [] (d.run db op limit) := by
  have hnone : Heard db [] := by
    intro earlier s tables later h
    simp at h
  exact follows_runFrom db op limit d hnone [] (Nat.zero_le limit)

lemma exists_yields_of_mem_calls {d : Dialogue α} {s : Statement}
    (h : s ∈ (d.run db op limit).calls) :
    ∃ heard out, d.Yields heard out ∧ s ∈ heard.map Prod.fst := by
  obtain ⟨told, rest, out, hyields, -, -, hcourse⟩ := follows_run db op limit d
  refine ⟨told ++ rest, out, hyields, ?_⟩
  rw [List.map_append]
  rw [List.nil_append] at hcourse
  match rest, hcourse with
  | [], ⟨hcalls, _⟩ =>
    rw [hcalls] at h
    exact List.mem_append_left _ h
  | (s', _) :: later, ⟨hcalls, _⟩ =>
    rw [hcalls] at h
    rcases List.mem_append.mp h with htold | hlast
    · exact List.mem_append_left _ htold
    · rw [List.mem_singleton.mp hlast]
      exact List.mem_append_right _ List.mem_cons_self

lemma yields_of_answered {d : Dialogue α} (h : db.Answered limit (d.run db op limit).calls) :
    ∃ heard, Heard db heard ∧ d.Yields heard (d.run db op limit).outcome ∧
      (d.run db op limit).calls = heard.map Prod.fst := by
  obtain ⟨told, rest, out, hyields, hheard, -, hcourse⟩ := follows_run db op limit d
  rw [List.nil_append] at hheard hcourse
  match rest, hcourse with
  | [], ⟨hcalls, hout⟩ =>
    rw [List.append_nil] at hyields
    exact ⟨told, hheard, hout ▸ hyields, hcalls⟩
  | (s, _) :: _, ⟨hcalls, hcut⟩ =>
    rcases hcut with ⟨failure, hfailed, -⟩ | ⟨hlate, -⟩
    · obtain ⟨tables, hanswer⟩ := h.answered (told.map Prod.fst) s [] hcalls
      rw [hanswer] at hfailed
      exact nomatch hfailed
    · exact absurd (hcalls ▸ h.intime) (Nat.not_le_of_lt hlate)

theorem run_cases (d : Dialogue α) :
    let t := d.run db op limit
    (∃ heard, Heard db heard ∧ d.Yields heard t.outcome ∧ t.calls = heard.map Prod.fst) ∨
    ∃ earlier s, t.calls = earlier ++ [s] ∧
      (t.outcome = .error (timeoutFailure op limit) ∧ (db earlier s).delay ≠ 0 ∨
        ∃ failure, (db earlier s).answer = .error failure ∧ t.outcome = .error failure) := by
  obtain ⟨told, rest, out, hyields, hheard, hspent, hcourse⟩ := follows_run db op limit d
  rw [List.nil_append] at hheard hspent hcourse
  match rest, hcourse with
  | [], ⟨hcalls, hout⟩ =>
    rw [List.append_nil] at hyields
    exact Or.inl ⟨told, hheard, hout ▸ hyields, hcalls⟩
  | (s, _) :: _, ⟨hcalls, hcut⟩ =>
    refine Or.inr ⟨told.map Prod.fst, s, hcalls, ?_⟩
    rcases hcut with ⟨failure, hfailed, hout, -⟩ | ⟨hlate, hout⟩
    · exact Or.inr ⟨failure, hfailed, hout⟩
    · refine Or.inl ⟨hout, ?_⟩
      rw [db.spent_snoc] at hlate
      omega

end Run

end Dialogue

end ErpGateway
