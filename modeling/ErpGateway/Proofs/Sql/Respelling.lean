import ErpGateway.Proofs.Keyed
import ErpGateway.Proofs.Text.Trim
import ErpGateway.Sql.Column
import Mathlib.Data.List.Forall2
import Mathlib.Data.List.Nodup
import Mathlib.Tactic.Common

namespace ErpGateway.Text

lemma sameLetters_iff {a b : String} : sameLetters a b = true ↔ lower a.toList = lower b.toList :=
  beq_iff_eq

end ErpGateway.Text

namespace ErpGateway.Sql

inductive Padded : Json → Json → Prop
  | same (v : Json) : Padded v v
  | text (s : String) {left right : List Char} (hleft : ∀ c ∈ left, Text.isBlank c = true)
      (hright : ∀ c ∈ right, Text.isBlank c = true) :
      Padded (.text s) (.text (String.ofList (left ++ s.toList ++ right)))

namespace Row

def Distinct (r : Row) : Prop :=
  (r.map fun e => Text.lower e.1.toList).Nodup

def Respelled (r r' : Row) : Prop :=
  ∃ q : Row, q.Perm r ∧
    List.Forall₂ (fun e e' => Text.sameLetters e.1 e'.1 = true ∧ Padded e.2 e'.2) q r'

structure Alike (r r' : Row) : Prop where
  distinct : r.Distinct
  respelled : r.Respelled r'

section Readers

variable {v v' : Json} (h : Padded v v')
include h

lemma Padded.textOf_eq : textOf v = textOf v' := by
  cases h with
  | same => rfl
  | text s hleft hright => rw [textOf, textOf, Text.trimmed_padded s hleft hright]

lemma Padded.floatOf_eq : floatOf v = floatOf v' := by
  cases h with
  | same => rfl
  | text s hleft hright =>
    rw [floatOf, floatOf, String.toList_ofList, Text.trim_padded hleft hright]

lemma Padded.signedOf_eq : signedOf v = signedOf v' := by
  cases h with
  | same => rfl
  | text s hleft hright =>
    rw [signedOf, signedOf, String.toList_ofList, Text.trim_padded hleft hright]

lemma Padded.intOf_eq : intOf v = intOf v' := by
  cases h with
  | same => rfl
  | text s hleft hright =>
    rw [intOf, intOf, String.toList_ofList, Text.trim_padded hleft hright]

lemma Padded.flagOf_eq : flagOf v = flagOf v' := by
  cases h with
  | same => rfl
  | text s hleft hright => rw [flagOf, flagOf, Text.trimmed_padded s hleft hright]

end Readers

lemma column?_of_mem {r : Row} (h : r.Distinct) {e : String × Json} (he : e ∈ r) {name : String}
    (hname : Text.sameLetters e.1 name = true) : column? r name = some e.2 := by
  -- whatever is found has the letters of the name, and so it is the one column that has them
  have hfound : ∀ f ∈ r, Text.sameLetters f.1 name = true → f = e := by
    intro f hf hletters
    have hsame := (Text.sameLetters_iff.mp hletters).trans (Text.sameLetters_iff.mp hname).symm
    exact List.inj_on_of_nodup_map h hf he hsame
  rw [column?]
  cases hget : r.get? name with
  | some v =>
    rw [← hfound (name, v) (Keyed.mem_of_get? hget) (Text.sameLetters_self name)]
  | none =>
    cases hfind : r.find? fun f => Text.sameLetters f.1 name with
    | none => exact absurd hname (List.find?_eq_none.mp hfind e he)
    | some f =>
      have hletters := List.find?_some hfind
      rw [hfound f (List.mem_of_find?_eq_some hfind) hletters]
      rfl

lemma exists_mem_of_column? {r : Row} {name : String} {v : Json} (h : column? r name = some v) :
    ∃ e ∈ r, Text.sameLetters e.1 name = true ∧ e.2 = v := by
  rw [column?] at h
  cases hget : r.get? name with
  | some w =>
    rw [hget] at h
    exact ⟨(name, w), Keyed.mem_of_get? hget, Text.sameLetters_self name, Option.some.inj h⟩
  | none =>
    rw [hget] at h
    obtain ⟨f, hfind, hvalue⟩ := Option.map_eq_some_iff.mp h
    have hletters := List.find?_some hfind
    exact ⟨f, List.mem_of_find?_eq_some hfind, hletters, hvalue⟩

lemma Respelled.distinct {r r' : Row} (h : r.Respelled r') (hr : r.Distinct) : r'.Distinct := by
  obtain ⟨q, hperm, hcells⟩ := h
  have hq : q.Distinct := (hperm.map _).nodup_iff.mpr hr
  have hnames : q.map (fun e => Text.lower e.1.toList) = r'.map fun e => Text.lower e.1.toList := by
    clear hperm hq
    induction hcells with
    | nil => rfl
    | cons hcell _ ih => rw [List.map_cons, List.map_cons, Text.sameLetters_iff.mp hcell.1, ih]
  rw [Distinct, ← hnames]
  exact hq

lemma exists_mem_right {α β : Type} {R : α → β → Prop} {l : List α} {l' : List β}
    (h : List.Forall₂ R l l') {a : α} (ha : a ∈ l) : ∃ b ∈ l', R a b := by
  induction h with
  | nil => cases ha
  | cons hab _ ih =>
    rcases List.mem_cons.mp ha with rfl | ha
    · exact ⟨_, List.mem_cons_self, hab⟩
    · obtain ⟨b, hb, hrel⟩ := ih ha
      exact ⟨b, List.mem_cons_of_mem _ hb, hrel⟩

lemma Alike.column?_rel {r r' : Row} (h : r.Alike r') (name : String) :
    Option.Rel Padded (column? r name) (column? r' name) := by
  obtain ⟨hdistinct, hrespelled⟩ := h
  have hdistinct' := hrespelled.distinct hdistinct
  obtain ⟨q, hperm, hcells⟩ := hrespelled
  cases hcolumn : column? r name with
  | some v =>
    obtain ⟨e, he, hletters, rfl⟩ := exists_mem_of_column? hcolumn
    obtain ⟨e', he', hcase, hpadded⟩ := exists_mem_right hcells (hperm.mem_iff.mpr he)
    have hletters' : Text.sameLetters e'.1 name = true := by
      rw [Text.sameLetters_iff] at hcase hletters ⊢
      rw [← hcase, hletters]
    rw [column?_of_mem hdistinct' he' hletters']
    exact .some hpadded
  | none =>
    cases hcolumn' : column? r' name with
    | none => exact .none
    | some v' =>
      obtain ⟨e', he', hletters', rfl⟩ := exists_mem_of_column? hcolumn'
      obtain ⟨e, he, hcase, -⟩ := exists_mem_right hcells.flip he'
      have hletters : Text.sameLetters e.1 name = true := by
        rw [Text.sameLetters_iff] at hcase hletters' ⊢
        rw [hcase, hletters']
      rw [column?_of_mem hdistinct (hperm.mem_iff.mp he) hletters] at hcolumn
      cases hcolumn

section Columns

variable {r r' : Row} (h : r.Alike r') (name : String)
include h

lemma Alike.bind_eq {read : Json → Option α} (hread : ∀ v v', Padded v v' → read v = read v') :
    (column? r name).bind read = (column? r' name).bind read := by
  have hrel := h.column?_rel name
  cases hcolumn : column? r name with
  | none =>
    rw [hcolumn] at hrel
    cases hcolumn' : column? r' name with
    | none => rfl
    | some v' => rw [hcolumn'] at hrel; cases hrel
  | some v =>
    rw [hcolumn] at hrel
    cases hcolumn' : column? r' name with
    | none => rw [hcolumn'] at hrel; cases hrel
    | some v' =>
      rw [hcolumn'] at hrel
      cases hrel with
      | some hpadded => exact hread v v' hpadded

lemma Alike.text?_eq : text? r name = text? r' name :=
  h.bind_eq name fun _ _ => Padded.textOf_eq

lemma Alike.float?_eq : float? r name = float? r' name :=
  h.bind_eq name fun _ _ => Padded.floatOf_eq

lemma Alike.signed?_eq : signed? r name = signed? r' name :=
  h.bind_eq name fun _ _ => Padded.signedOf_eq

lemma Alike.int?_eq : int? r name = int? r' name :=
  h.bind_eq name fun _ _ => Padded.intOf_eq

lemma Alike.flag_eq : flag r name = flag r' name := by
  have hread : ∀ v v', Padded v v' → some (flagOf v) = some (flagOf v') := fun _ _ hpadded =>
    congrArg some (Padded.flagOf_eq hpadded)
  have hbind := h.bind_eq name hread
  rw [flag, flag]
  cases hcolumn : column? r name <;> cases hcolumn' : column? r' name <;>
    rw [hcolumn, hcolumn'] at hbind <;> simp_all

end Columns

end Row

namespace Table

def Alike (rows rows' : Table) : Prop :=
  List.Forall₂ Row.Alike rows rows'

lemma Alike.filterMap_eq {rows rows' : Table} (h : rows.Alike rows') {read : Row → Option α}
    (hread : ∀ r r', Row.Alike r r' → read r = read r') :
    rows.filterMap read = rows'.filterMap read := by
  induction h with
  | nil => rfl
  | cons hrow _ ih => rw [List.filterMap_cons, List.filterMap_cons, hread _ _ hrow, ih]

lemma alike_getD {tables tables' : List Table} (h : List.Forall₂ Alike tables tables') (i : Nat) :
    Alike (tables.getD i []) (tables'.getD i []) := by
  induction h generalizing i with
  | nil => exact .nil
  | cons htable _ ih =>
    cases i with
    | zero => exact htable
    | succ i => exact ih i

lemma alike_headD {tables tables' : List Table} (h : List.Forall₂ Alike tables tables') :
    Alike (tables.headD []) (tables'.headD []) := by
  cases h with
  | nil => exact .nil
  | cons htable _ => exact htable

end Table

end ErpGateway.Sql
