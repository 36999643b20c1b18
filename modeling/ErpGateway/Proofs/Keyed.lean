import ErpGateway.Keyed
import Mathlib.Data.List.Induction
import Mathlib.Data.List.Nodup
import Mathlib.Tactic.Common

/-! Entries that are built row by row, read at one key: only the rows of that key matter. -/

namespace ErpGateway.Keyed

variable {κ α β : Type} [DecidableEq κ]

lemma get?_modify (key other : κ) (initial : α) (f : α → α) (entries : Keyed κ α) :
    (entries.modify key initial f).get? other =
      if other = key then some (f ((entries.get? key).getD initial)) else entries.get? other :=
  get?_put key other _ entries

lemma nodup_keys_put {key : κ} {value : α} {entries : Keyed κ α}
    (h : (entries.map Prod.fst).Nodup) : ((entries.put key value).map Prod.fst).Nodup := by
  rw [keys_put]
  split
  · exact h
  · rename_i hkey
    rw [List.nodup_append]
    refine ⟨h, List.nodup_singleton key, ?_⟩
    rintro k hk _ hkey' rfl
    rw [List.mem_singleton] at hkey'
    exact hkey (hkey' ▸ hk)

lemma get?_map_snd (f : α → β) (key : κ) (entries : Keyed κ α) :
    Keyed.get? key (entries.map (Prod.map id f)) = (entries.get? key).map f := by
  induction entries with
  | nil => rfl
  | cons e entries ih =>
    rw [List.map_cons, get?, get?]
    change (if e.1 = key then some (f e.2) else _) = _
    split
    · rfl
    · exact ih

lemma mem_of_get? {key : κ} {value : α} {entries : Keyed κ α} (h : entries.get? key = some value) :
    (key, value) ∈ entries := by
  induction entries with
  | nil => cases h
  | cons e entries ih =>
    rw [get?] at h
    split at h
    · rename_i hkey
      injection h with h
      rw [← hkey, ← h]
      exact List.mem_cons_self
    · exact List.mem_cons_of_mem _ (ih h)

lemma get?_of_mem {key : κ} {value : α} {entries : Keyed κ α}
    (hkeys : (entries.map Prod.fst).Nodup) (h : (key, value) ∈ entries) :
    entries.get? key = some value := by
  induction entries with
  | nil => cases h
  | cons e entries ih =>
    rw [List.map_cons, List.nodup_cons] at hkeys
    rw [get?]
    obtain rfl | h := List.mem_cons.1 h
    · exact if_pos rfl
    · rw [if_neg, ih hkeys.2 h]
      intro hkey
      exact hkeys.1 (hkey ▸ List.mem_map_of_mem h)

lemma mem_of_mem_put {key : κ} {value : α} {entries : Keyed κ α} {e : κ × α}
    (h : e ∈ entries.put key value) : e = (key, value) ∨ e ∈ entries := by
  induction entries with
  | nil => exact .inl (List.mem_singleton.1 h)
  | cons first entries ih =>
    rw [put] at h
    split at h
    · rename_i hkey
      obtain rfl | h := List.mem_cons.1 h
      · exact .inl (by rw [hkey])
      · exact .inr (List.mem_cons_of_mem _ h)
    · obtain rfl | h := List.mem_cons.1 h
      · exact .inr List.mem_cons_self
      · exact (ih h).imp_right (List.mem_cons_of_mem _)

lemma get?_eq_none {key : κ} {entries : Keyed κ α} (h : key ∉ entries.map Prod.fst) :
    entries.get? key = none := by
  induction entries with
  | nil => rfl
  | cons e entries ih =>
    rw [List.map_cons, List.mem_cons, not_or] at h
    rw [get?, if_neg (Ne.symm h.1)]
    exact ih h.2

lemma mem_keys_iff {key : κ} {entries : Keyed κ α} :
    key ∈ entries.map Prod.fst ↔ ∃ value, entries.get? key = some value := by
  constructor
  · intro h
    rw [← Option.ne_none_iff_exists']
    induction entries with
    | nil => cases h
    | cons e entries ih =>
      rw [get?]
      split
      · exact Option.some_ne_none _
      · rename_i hkey
        exact ih ((List.mem_cons.mp h).resolve_left (Ne.symm hkey))
  · rintro ⟨value, h⟩
    exact List.mem_map_of_mem (mem_of_get? h)

lemma filter_values {keyOf : α → κ} {entries : Keyed κ α} (hkeys : (entries.map Prod.fst).Nodup)
    (hvalues : ∀ e ∈ entries, keyOf e.2 = e.1) (key : κ) :
    (entries.map Prod.snd).filter (fun a => decide (keyOf a = key)) =
      (entries.get? key).toList := by
  induction entries with
  | nil => rfl
  | cons e entries ih =>
    rw [List.map_cons, List.nodup_cons] at hkeys
    rw [List.forall_mem_cons] at hvalues
    rw [List.map_cons, List.filter_cons, get?, hvalues.1, ih hkeys.2 hvalues.2]
    by_cases hkey : e.1 = key
    · rw [get?_eq_none (hkey ▸ hkeys.1)]
      simp [hkey]
    · simp [hkey]

lemma get?_filterMap {g : κ → α → Option β} {entries : Keyed κ α}
    (h : (entries.map Prod.fst).Nodup) (key : κ) :
    get? key (entries.filterMap fun e => (g e.1 e.2).map fun b => (e.1, b)) =
      (entries.get? key).bind (g key) := by
  induction entries with
  | nil => rfl
  | cons e entries ih =>
    rw [List.map_cons, List.nodup_cons] at h
    rw [List.filterMap_cons, get?]
    by_cases hkey : e.1 = key
    · rw [if_pos hkey, ← hkey]
      cases hg : g e.1 e.2 with
      | none =>
        -- no other entry has the key, so that nothing takes the place of the one left out
        rw [Option.bind_some, hg, hkey]
        refine (ih h.2).trans ?_
        rw [get?_eq_none (hkey ▸ h.1)]
        rfl
      | some b => simp [get?, hg]
    · rw [if_neg hkey]
      cases hg : g e.1 e.2 with
      | none => exact ih h.2
      | some b =>
        rw [Option.map_some, get?, if_neg hkey]
        exact ih h.2

lemma nodup_keys_ofList (entries : List (κ × α)) : ((ofList entries).map Prod.fst).Nodup := by
  induction entries using List.reverseRecOn with
  | nil => exact List.nodup_nil
  | append_singleton entries e ih =>
    rw [ofList, List.foldl_append]
    exact nodup_keys_put ih

lemma get?_ofList_filterMap (f : κ → Option α) (keys : List κ) (key : κ) :
    get? key (ofList (keys.filterMap fun k => (f k).map fun a => (k, a))) =
      if key ∈ keys then f key else none := by
  induction keys using List.reverseRecOn with
  | nil => rfl
  | append_singleton keys last ih =>
    rw [List.filterMap_append, ofList, List.foldl_append, ← ofList]
    cases hlast : f last with
    | none =>
      rw [List.filterMap_cons, hlast]
      refine ih.trans ?_
      by_cases hkey : key = last
      · simp [hkey, hlast]
      · simp [hkey]
    | some a =>
      rw [List.filterMap_cons, hlast]
      refine (get?_put last key a _).trans ?_
      by_cases hkey : key = last
      · simp [hkey, hlast]
      · rw [if_neg hkey, ih]
        simp [hkey]

theorem get?_foldl_filter {step : Keyed κ α → β → Keyed κ α} {keyOf : β → κ} {key : κ}
    (hother : ∀ entries b, keyOf b ≠ key → (step entries b).get? key = entries.get? key)
    (hown : ∀ entries entries' b, keyOf b = key → get? key entries = get? key entries' →
      (step entries b).get? key = (step entries' b).get? key) (rows : List β) :
    get? key (rows.foldl step []) =
      get? key ((rows.filter fun b => decide (keyOf b = key)).foldl step []) := by
  induction rows using List.reverseRecOn with
  | nil => rfl
  | append_singleton rows b ih =>
    rw [List.foldl_append, List.foldl_cons, List.foldl_nil, List.filter_append]
    by_cases hb : keyOf b = key
    · have hlast : [b].filter (fun b => decide (keyOf b = key)) = [b] := by simp [hb]
      rw [hlast, List.foldl_append, List.foldl_cons, List.foldl_nil]
      exact hown _ _ b hb ih
    · have hlast : [b].filter (fun b => decide (keyOf b = key)) = [] := by simp [hb]
      rw [hother _ b hb, hlast, List.append_nil]
      exact ih

end ErpGateway.Keyed
