import ErpGateway.Gate.Admission
import ErpGateway.Proofs.Decimal.Integers
import ErpGateway.Proofs.Gate.RowControls
import Mathlib.Data.List.Nodup

namespace ErpGateway.Gate

open Sql Text

def nameOf (key : String) : String :=
  String.ofList (withoutSigil key.toList)

def ControlsRows (text name : String) : Prop :=
  ∃ form ∈ forms, ∃ x, form.OccursIn x text.toList ∧ lower x = lower name.toList

def IsInt64 (s : String) (v : Int) : Prop :=
  (∃ sign digits, Decimal.SignedText (trim s.toList) v sign digits) ∧ -2 ^ 63 ≤ v ∧ v ≤ 2 ^ 63 - 1

def bindingOf (controls : List String) (p : String × Json) : String × Scalar :=
  (nameOf p.1, scalarOf (controls.contains (lowered (nameOf p.1))) p.2)

lemma parameterName_of_isIdentifier {key : String} (h : isIdentifier (nameOf key).toList = true) :
    parameterName key = .ok (nameOf key) := by
  rw [nameOf, String.toList_ofList] at h
  exact if_pos h

lemma parameterName_of_not_isIdentifier {key : String}
    (h : ¬ isIdentifier (nameOf key).toList = true) :
    parameterName key = .error .parameterName := by
  rw [nameOf, String.toList_ofList] at h
  exact if_neg h

lemma bindInOrder_cons_eq (controls seen : List String) (p : String × Json)
    (rest : List (String × Json)) :
    bindInOrder controls seen (p :: rest) =
      if isIdentifier (nameOf p.1).toList = true ∧ lowered (nameOf p.1) ∉ seen then
        (bindInOrder controls (lowered (nameOf p.1) :: seen) rest).map (bindingOf controls p :: ·)
      else .error .parameterName := by
  obtain ⟨key, value⟩ := p
  rw [bindInOrder]
  by_cases hname : isIdentifier (nameOf key).toList = true
  · rw [parameterName_of_isIdentifier hname]
    by_cases hseen : lowered (nameOf key) ∈ seen
    · simp [hseen, bind, Except.bind, throw, throwThe, MonadExceptOf.throw]
    · rw [if_pos ⟨hname, hseen⟩]
      cases hrest : bindInOrder controls (lowered (nameOf key) :: seen) rest <;>
        simp [hseen, hrest, bind, Except.bind, pure, Except.pure, Except.map, bindingOf]
  · rw [parameterName_of_not_isIdentifier hname, if_neg fun h => hname h.1]
    rfl

lemma bindInOrder_cons {controls seen : List String} {p : String × Json}
    {rest : List (String × Json)} {bindings : Bindings}
    (h : bindInOrder controls seen (p :: rest) = .ok bindings) :
    isIdentifier (nameOf p.1).toList = true ∧ lowered (nameOf p.1) ∉ seen ∧
      ∃ bound, bindInOrder controls (lowered (nameOf p.1) :: seen) rest = .ok bound ∧
        bindings = bindingOf controls p :: bound := by
  rw [bindInOrder_cons_eq] at h
  split at h
  · rename_i hp
    cases hrest : bindInOrder controls (lowered (nameOf p.1) :: seen) rest with
    | error rejection =>
      rw [hrest] at h
      cases h
    | ok bound =>
      rw [hrest] at h
      exact ⟨hp.1, hp.2, bound, rfl, (Except.ok.inj h).symm⟩
  · cases h

lemma bindInOrder_eq_ok {controls seen : List String} {params : List (String × Json)}
    {bindings : Bindings} (h : bindInOrder controls seen params = .ok bindings) :
    bindings = params.map (bindingOf controls) ∧
      (∀ p ∈ params, isIdentifier (nameOf p.1).toList = true ∧ lowered (nameOf p.1) ∉ seen) ∧
        (params.map fun p => lowered (nameOf p.1)).Nodup := by
  induction params generalizing seen bindings with
  | nil =>
    obtain rfl : [] = bindings := by simpa [bindInOrder] using h
    simp
  | cons p rest ih =>
    obtain ⟨hname, hseen, bound, hrest, rfl⟩ := bindInOrder_cons h
    obtain ⟨rfl, hall, hnodup⟩ := ih hrest
    refine ⟨rfl, ?_, ?_⟩
    · intro q hq
      rcases List.mem_cons.mp hq with rfl | hq
      · exact ⟨hname, hseen⟩
      · exact ⟨(hall q hq).1, fun hmem => (hall q hq).2 (List.mem_cons_of_mem _ hmem)⟩
    · rw [List.map_cons, List.nodup_cons]
      refine ⟨?_, hnodup⟩
      intro hmem
      obtain ⟨q, hq, he⟩ := List.mem_map.mp hmem
      exact (hall q hq).2 (by simp [he])

lemma of_admission_eq_ok {query : Query} {accepted : Admission}
    (h : admission query = .ok accepted) :
    check query.text = .ok () ∧
      bindParameters query.parameters (rowControls query.text) = .ok accepted.bindings ∧
        accepted.text = trimmed query.text := by
  rw [admission] at h
  cases hcheck : check query.text with
  | error rejection => simp [hcheck, bind, Except.bind] at h
  | ok _ =>
    cases hbind : bindParameters query.parameters (rowControls query.text) with
    | error rejection => simp [hcheck, hbind, bind, Except.bind] at h
    | ok bindings =>
      simp only [hcheck, hbind, bind, Except.bind, pure, Except.pure, Except.ok.injEq] at h
      subst h
      exact ⟨rfl, rfl, rfl⟩

lemma bindings_of_admission {query : Query} {admission : Admission}
    (h : Gate.admission query = .ok admission) :
    admission.bindings = query.parameters.sorted.map (bindingOf (rowControls query.text)) ∧
      (∀ p ∈ query.parameters, isIdentifier (nameOf p.1).toList = true) ∧
        (query.parameters.map fun p => lowered (nameOf p.1)).Nodup := by
  have hperm : query.parameters.sorted.Perm query.parameters := List.mergeSort_perm _ _
  obtain ⟨-, hbind, -⟩ := of_admission_eq_ok h
  obtain ⟨hb, hall, hnodup⟩ := bindInOrder_eq_ok hbind
  refine ⟨hb, fun p hp => (hall p (hperm.mem_iff.mpr hp)).1, ?_⟩
  exact (hperm.map _).nodup_iff.mp hnodup

lemma isIdentifier_of_mem_bindings {query : Query} {admission : Admission}
    (h : Gate.admission query = .ok admission) {p : String × Scalar}
    (hp : p ∈ admission.bindings) : isIdentifier p.1.toList = true := by
  obtain ⟨hb, hall, -⟩ := bindings_of_admission h
  rw [hb] at hp
  obtain ⟨q, hq, rfl⟩ := List.mem_map.mp hp
  exact hall q (List.mem_mergeSort.mp hq)

lemma mem_bindings_iff {query : Query} {admission : Admission}
    (h : Gate.admission query = .ok admission) {key : String} {value : Json}
    (hp : (key, value) ∈ query.parameters) (v : Scalar) :
    (nameOf key, v) ∈ admission.bindings ↔
      v = scalarOf ((rowControls query.text).contains (lowered (nameOf key))) value := by
  obtain ⟨hb, -, hnodup⟩ := bindings_of_admission h
  rw [hb, List.mem_map]
  constructor
  · rintro ⟨q, hq, he⟩
    obtain ⟨hname, rfl⟩ := Prod.mk.inj he
    have hsame : q = (key, value) :=
      List.inj_on_of_nodup_map hnodup (List.mem_mergeSort.mp hq) hp (by rw [hname])
    rw [hsame]
  · rintro rfl
    exact ⟨(key, value), List.mem_mergeSort.mpr hp, rfl⟩

lemma contains_rowControls_iff (text name : String) :
    (rowControls text).contains (lowered name) = true ↔ ControlsRows text name := by
  rw [List.contains_iff_mem, mem_rowControls_iff, lowered, String.toList_ofList]
  rfl

lemma plainInt?_eq_some_iff (s : String) (v : Int) : plainInt? s = some v ↔ IsInt64 s v :=
  Decimal.int64?_eq_some_iff

lemma scalarOf_text (controls : Bool) (s : String) :
    scalarOf controls (.text s) =
      ((if controls then plainInt? s else none).map Scalar.int).getD (.text s) := by
  rw [scalarOf]
  split <;> simp_all

/-- A text is bound as an integer exactly when its name stands in a row-control form and the text is an
integer of 64 bits, and as it is otherwise. -/
theorem text_binding (query : Query) (admission : Admission)
    (h : Gate.admission query = .ok admission) (key s : String)
    (hp : (key, Json.text s) ∈ query.parameters) :
    ∃ v, (∀ w, (nameOf key, w) ∈ admission.bindings ↔ w = v) ∧
      (∀ i, v = .int i ↔ ControlsRows query.text (nameOf key) ∧ IsInt64 s i) ∧
      ((¬ ∃ i, ControlsRows query.text (nameOf key) ∧ IsInt64 s i) → v = .text s) := by
  refine ⟨_, mem_bindings_iff h hp, ?_⟩
  rw [scalarOf_text]
  cases hc : (rowControls query.text).contains (lowered (nameOf key)) with
  | false =>
    have hnot : ¬ ControlsRows query.text (nameOf key) := by
      rw [← contains_rowControls_iff, hc]
      simp
    simp [hnot]
  | true =>
    have hcontrols := (contains_rowControls_iff _ _).mp hc
    simp only [hcontrols, true_and, if_true, ← plainInt?_eq_some_iff]
    cases plainInt? s with
    | none => simp
    | some i => simp

def pagedQuery : Query where
  text := "SELECT a FROM t ORDER BY a OFFSET @Skip ROWS"
  parameters := [("@SKIP", .text " +007 ")]

theorem text_binding_offset :
    Gate.admission pagedQuery = .ok ⟨pagedQuery.text, [("SKIP", .int 7)]⟩ ∧
      ("@SKIP", Json.text " +007 ") ∈ pagedQuery.parameters ∧
      ControlsRows pagedQuery.text "SKIP" ∧ IsInt64 " +007 " 7 := by
  have hadmission : Gate.admission pagedQuery = .ok ⟨pagedQuery.text, [("SKIP", .int 7)]⟩ := by
    decide +kernel
  have hmem : ("@SKIP", Json.text " +007 ") ∈ pagedQuery.parameters := List.mem_singleton.mpr rfl
  obtain ⟨v, hbound, hint, -⟩ := text_binding pagedQuery _ hadmission "@SKIP" " +007 " hmem
  have hv : v = .int 7 := ((hbound (.int 7)).mp (List.mem_singleton.mpr rfl)).symm
  exact ⟨hadmission, hmem, (hint 7).mp hv⟩

end ErpGateway.Gate
