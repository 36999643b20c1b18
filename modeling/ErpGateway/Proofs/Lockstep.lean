import ErpGateway.Proofs.Dialogue

namespace ErpGateway

open Sql

namespace Dialogue

variable {α β γ δ : Type}

inductive InStep (R : α → β → Prop) : Dialogue α → Dialogue β → Prop
  | done {a : α} {b : β} (h : R a b) : InStep R (done a) (done b)
  | fail (failure : Failure) : InStep R (fail failure) (fail failure)
  | note {rest : Dialogue α} {rest' : Dialogue β} (event event' : Event) (h : InStep R rest rest') :
      InStep R (note event rest) (note event' rest')
  | ask {next : List Table → Dialogue α} {next' : List Table → Dialogue β} (s s' : Statement)
      (h : ∀ tables, InStep R (next tables) (next' tables)) : InStep R (ask s next) (ask s' next')

section Chain

variable {R : α → β → Prop} {T : γ → δ → Prop} {f : Table → Dialogue α} {f' : Table → Dialogue β}

lemma InStep.refl (d : Dialogue α) : InStep Eq d d := by
  induction d with
  | done a => exact .done rfl
  | fail failure => exact .fail failure
  | note event rest ih => exact .note event event ih
  | ask s next ih => exact .ask s s ih

lemma inStep_pure {a : α} {b : β} (h : R a b) :
    InStep R (pure a : Dialogue α) (pure b : Dialogue β) :=
  .done h

lemma InStep.bind {d : Dialogue α} {d' : Dialogue β} {g : α → Dialogue γ} {g' : β → Dialogue δ}
    (hd : InStep R d d') (hg : ∀ a b, R a b → InStep T (g a) (g' b)) :
    InStep T (d >>= g) (d' >>= g') := by
  induction hd with
  | done h => exact hg _ _ h
  | fail failure => exact .fail failure
  | note event event' _ ih => exact .note event event' ih
  | ask s s' _ ih => exact .ask s s' ih

lemma inStep_rows_bind {s s' : Statement} (h : ∀ rows, InStep R (f rows) (f' rows)) :
    InStep R (rows s >>= f) (rows s' >>= f') :=
  .ask s s' fun tables => h (tables.headD [])

lemma inStep_noted_bind {event event' : Event} {g : Unit → Dialogue α} {g' : Unit → Dialogue β}
    (h : InStep R (g ()) (g' ())) : InStep R (noted event >>= g) (noted event' >>= g') :=
  .note event event' h

end Chain

def SameAnswers (heard heard' : History) : Prop :=
  ∀ earlier p later earlier' p' later', heard = earlier ++ p :: later →
    heard' = earlier' ++ p' :: later' → earlier.length = earlier'.length → p.2 = p'.2

def SameReplies (db db' : Database) (calls calls' : List Statement) : Prop :=
  ∀ earlier s later earlier' s' later', calls = earlier ++ s :: later →
    calls' = earlier' ++ s' :: later' → earlier.length = earlier'.length →
    (db earlier s).answer = (db' earlier' s').answer

lemma SameReplies.sameAnswers {db db' : Database} {heard heard' : History}
    (h : SameReplies db db' (heard.map Prod.fst) (heard'.map Prod.fst)) (hheard : Heard db heard)
    (hheard' : Heard db' heard') : SameAnswers heard heard' := by
  rintro earlier ⟨s, tables⟩ later earlier' ⟨s', tables'⟩ later' rfl rfl hlength
  have hsame := h (earlier.map Prod.fst) s (later.map Prod.fst) (earlier'.map Prod.fst) s'
    (later'.map Prod.fst) (by simp) (by simp) (by simpa using hlength)
  rw [hheard earlier s tables later rfl, hheard' earlier' s' tables' later' rfl] at hsame
  exact Except.ok.inj hsame

def Related (R : α → β → Prop) : Except Failure α → Except Failure β → Prop
  | .ok a, .ok b => R a b
  | .error failure, .error failure' => failure = failure'
  | _, _ => False

lemma InStep.related {R : α → β → Prop} {d : Dialogue α} {d' : Dialogue β} (h : InStep R d d')
    {heard heard' : History} {out : Except Failure α} {out' : Except Failure β}
    (hyields : d.Yields heard out) (hyields' : d'.Yields heard' out')
    (hsame : SameAnswers heard heard') : Related R out out' := by
  induction h generalizing heard heard' with
  | done h =>
    cases hyields
    cases hyields'
    exact h
  | fail failure =>
    cases hyields
    cases hyields'
    rfl
  | note _ _ _ ih =>
    cases hyields with
    | note _ hyields =>
      cases hyields' with
      | note _ hyields' => exact ih hyields hyields' hsame
  | ask s s' _ ih =>
    cases hyields with
    | @ask _ _ tables heard _ hyields =>
      cases hyields' with
      | @ask _ _ tables' heard' _ hyields' =>
        -- both ask at the same place, and hear the same there
        obtain rfl : tables = tables' := hsame [] _ heard [] _ heard' rfl rfl rfl
        refine ih tables hyields hyields' ?_
        rintro earlier p later earlier' p' later' rfl rfl hlength
        exact hsame (_ :: earlier) p later (_ :: earlier') p' later' rfl rfl
          (congrArg Nat.succ hlength)

theorem InStep.related_run {R : α → β → Prop} {d : Dialogue α} {d' : Dialogue β}
    (h : InStep R d d') {db db' : Database} {op : String} {limit : Nat}
    (hanswered : db.Answered limit (d.run db op limit).calls)
    (hanswered' : db'.Answered limit (d'.run db' op limit).calls)
    (hsame : SameReplies db db' (d.run db op limit).calls (d'.run db' op limit).calls) :
    Related R (d.run db op limit).outcome (d'.run db' op limit).outcome := by
  obtain ⟨heard, hheard, hyields, hcalls⟩ := yields_of_answered db op limit hanswered
  obtain ⟨heard', hheard', hyields', hcalls'⟩ := yields_of_answered db' op limit hanswered'
  rw [hcalls, hcalls'] at hsame
  exact h.related hyields hyields' (hsame.sameAnswers hheard hheard')

end Dialogue

end ErpGateway
