import ErpGateway.Proofs.Gate.Bindings
import ErpGateway.Proofs.Text.Order

namespace ErpGateway.Gate

open Sql Text

structure Bindable (parameters : Json.Members) : Prop where
  isIdentifier : ∀ p ∈ parameters, Text.isIdentifier (nameOf p.1).toList = true
  nodup : (parameters.map fun p => lowered (nameOf p.1)).Nodup

section Order

variable {parameters parameters' : Json.Members}

lemma Bindable.of_perm (h : parameters'.Perm parameters) (hb : Bindable parameters) :
    Bindable parameters' where
  isIdentifier p hp := hb.isIdentifier p (h.mem_iff.mp hp)
  nodup := (h.map _).nodup_iff.mpr hb.nodup

lemma Bindable.nodup_keys (hb : Bindable parameters) : (parameters.map Prod.fst).Nodup := by
  apply List.Nodup.of_map fun key => lowered (nameOf key)
  rw [List.map_map]
  exact hb.nodup

lemma perm_sorted (parameters : Json.Members) : parameters.sorted.Perm parameters :=
  List.mergeSort_perm _ _

lemma keys_sorted (parameters : Json.Members) :
    parameters.sorted.map Prod.fst = ascending (parameters.map Prod.fst) :=
  List.map_mergeSort fun _ _ _ _ => rfl

lemma pairwise_sorted (h : (parameters.map Prod.fst).Nodup) :
    parameters.sorted.Pairwise fun a b => a.1 < b.1 := by
  have hkeys := pairwise_lt_ascending h
  rwa [← keys_sorted, List.pairwise_map] at hkeys

lemma sorted_eq_of_perm (hperm : parameters'.Perm parameters)
    (h : (parameters.map Prod.fst).Nodup) : parameters'.sorted = parameters.sorted := by
  have h' := (hperm.map Prod.fst).nodup_iff.mpr h
  have hsorted := (perm_sorted parameters').trans (hperm.trans (perm_sorted parameters).symm)
  refine hsorted.eq_of_pairwise ?_ (pairwise_sorted h') (pairwise_sorted h)
  intro a b _ _ hab hba
  exact absurd (String.lt_trans hab hba) (String.lt_irrefl _)

end Order

section Loop

variable {controls seen : List String} {params : List (String × Json)}

lemma bindInOrder_of_fresh (hnames : ∀ p ∈ params, isIdentifier (nameOf p.1).toList = true)
    (hseen : ∀ p ∈ params, lowered (nameOf p.1) ∉ seen)
    (hnodup : (params.map fun p => lowered (nameOf p.1)).Nodup) :
    bindInOrder controls seen params = .ok (params.map (bindingOf controls)) := by
  induction params generalizing seen with
  | nil => rfl
  | cons p params ih =>
    rw [List.map_cons, List.nodup_cons] at hnodup
    have hlater : ∀ q ∈ params, lowered (nameOf q.1) ∉ lowered (nameOf p.1) :: seen := by
      intro q hq
      rw [List.mem_cons, not_or]
      refine ⟨fun hsame => ?_, hseen q (List.mem_cons_of_mem _ hq)⟩
      exact hnodup.1 (List.mem_map.mpr ⟨q, hq, hsame⟩)
    have hrest := ih (fun q hq => hnames q (List.mem_cons_of_mem _ hq)) hlater hnodup.2
    rw [bindInOrder_cons_eq, if_pos ⟨hnames p List.mem_cons_self, hseen p List.mem_cons_self⟩, hrest]
    rfl

lemma eq_parameterName_of_bindInOrder {rejection : Rejection}
    (h : bindInOrder controls seen params = .error rejection) : rejection = .parameterName := by
  induction params generalizing seen with
  | nil => cases h
  | cons p params ih =>
    rw [bindInOrder_cons_eq] at h
    split at h
    · cases hrest : bindInOrder controls (lowered (nameOf p.1) :: seen) params with
      | ok bound =>
        rw [hrest] at h
        cases h
      | error other =>
        rw [hrest] at h
        obtain rfl := Except.error.inj h
        exact ih hrest
    · exact (Except.error.inj h).symm

end Loop

lemma bindParameters_of_bindable {parameters : Json.Members} (h : Bindable parameters)
    (controls : List String) :
    bindParameters parameters controls = .ok (parameters.sorted.map (bindingOf controls)) := by
  have hsorted := h.of_perm (perm_sorted parameters)
  exact bindInOrder_of_fresh hsorted.isIdentifier (fun _ _ => List.not_mem_nil) hsorted.nodup

lemma bindParameters_of_not_bindable {parameters : Json.Members} (h : ¬ Bindable parameters)
    (controls : List String) : bindParameters parameters controls = .error .parameterName := by
  cases hbind : bindParameters parameters controls with
  | error rejection => rw [eq_parameterName_of_bindInOrder hbind]
  | ok bindings =>
    obtain ⟨-, hall, hnodup⟩ := bindInOrder_eq_ok hbind
    have hsorted : Bindable parameters.sorted := ⟨fun p hp => (hall p hp).1, hnodup⟩
    exact absurd (hsorted.of_perm (perm_sorted parameters).symm) h

/-- Parameters are bound each once, in the octet order of their keys, or all refused; how the members
were ordered does not matter. -/
theorem bindParameters_in_order (parameters : Json.Members) (controls : List String) :
    ((∃ bindings, bindParameters parameters controls = .ok bindings) ↔ Bindable parameters) ∧
      (¬ Bindable parameters → bindParameters parameters controls = .error .parameterName) ∧
      (∀ bindings, bindParameters parameters controls = .ok bindings →
        (∃ members : Json.Members, members.Perm parameters ∧
            (members.Pairwise fun a b => utf8 a.1 < utf8 b.1) ∧
            bindings = members.map (bindingOf controls)) ∧
          (bindings.map fun b => lowered b.1).Nodup) ∧
      ∀ parameters' : Json.Members, parameters'.Perm parameters →
        bindParameters parameters' controls = bindParameters parameters controls := by
  by_cases hb : Bindable parameters
  · rw [bindParameters_of_bindable hb]
    refine ⟨⟨fun _ => hb, fun _ => ⟨_, rfl⟩⟩, fun hnot => absurd hb hnot, ?_, ?_⟩
    · intro bindings hbindings
      obtain rfl := Except.ok.inj hbindings
      refine ⟨⟨_, perm_sorted parameters, ?_, rfl⟩, ?_⟩
      · exact (pairwise_sorted hb.nodup_keys).imp utf8_lt_utf8
      · rw [List.map_map]
        exact (hb.of_perm (perm_sorted parameters)).nodup
    · intro parameters' hperm
      rw [bindParameters_of_bindable (hb.of_perm hperm), sorted_eq_of_perm hperm hb.nodup_keys]
  · rw [bindParameters_of_not_bindable hb]
    refine ⟨⟨?_, fun h => absurd h hb⟩, fun _ => rfl, ?_, ?_⟩
    · rintro ⟨bindings, hbindings⟩
      cases hbindings
    · intro bindings hbindings
      cases hbindings
    · intro parameters' hperm
      exact bindParameters_of_not_bindable (fun hb' => hb (hb'.of_perm hperm.symm)) controls

example : bindParameters [("c", .null), ("@b", .int 1), ("A", .text "x")] ["b"] =
    .ok [("b", .int 1), ("A", .text "x"), ("c", .null)] := by
  cbv

end ErpGateway.Gate
