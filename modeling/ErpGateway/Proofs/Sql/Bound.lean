import ErpGateway.Sql.Statement
import Mathlib.Tactic.Common

namespace ErpGateway.Sql.Statement

def itemStart (stem : String) : List Char :=
  stem.toList ++ ['_']

def names (stem name : String) : Bool :=
  (itemStart stem).isPrefixOf name.toList

def valuesOf (s : Statement) (stem : String) : List Scalar :=
  s.params.filterMap fun p => if names stem p.1 then some p.2 else none

variable (s : Statement) {name other stem : String} (marker : String) (value : Scalar)
  (values : List Scalar)

lemma toList_itemName (stem : String) (i : Nat) :
    (itemName stem i).toList = itemStart stem ++ Decimal.digits i := by
  simp [itemName, itemStart]

lemma names_itemName (stem : String) (i : Nat) : names stem (itemName stem i) = true := by
  rw [names, toList_itemName, List.isPrefixOf_iff_prefix]
  exact List.prefix_append _ _

lemma names_itemName_of_other (h : (itemStart stem).head? ≠ (itemStart other).head?) (i : Nat) :
    names stem (itemName other i) = false := by
  rw [names, toList_itemName, Bool.eq_false_iff, Ne, List.isPrefixOf_iff_prefix]
  rintro ⟨rest, hrest⟩
  have hne : ∀ stem, itemStart stem ≠ [] := fun stem => by simp [itemStart]
  obtain ⟨c, cs, hstem⟩ := List.exists_cons_of_ne_nil (hne stem)
  obtain ⟨d, ds, hother⟩ := List.exists_cons_of_ne_nil (hne other)
  rw [hstem, hother] at hrest h
  obtain rfl : c = d := (List.cons.inj hrest).1
  exact h rfl

@[simp] lemma valuesOf_text (text stem : String) : ({ text := text } : Statement).valuesOf stem = [] :=
  rfl

@[simp] lemma param?_text (text name : String) : ({ text := text } : Statement).param? name = none :=
  rfl

@[simp] lemma valuesOf_bind (h : names stem name = false) :
    (s.bind name value).valuesOf stem = s.valuesOf stem := by
  simp [valuesOf, bind, h]

@[simp] lemma valuesOf_bindList :
    (s.bindList marker stem values).valuesOf stem = s.valuesOf stem ++ values := by
  have hitems : (values.zipIdx.map fun v => (itemName stem v.2, v.1)).filterMap
      (fun p => if names stem p.1 then some p.2 else none) = values := by
    rw [List.filterMap_map]
    simp only [Function.comp_def, names_itemName, if_true]
    change values.zipIdx.filterMap (some ∘ Prod.fst) = values
    rw [List.filterMap_eq_map, List.zipIdx_map_fst]
  rw [valuesOf, bindList, List.filterMap_append, hitems]
  rfl

@[simp] lemma valuesOf_bindList_of_other (h : (itemStart stem).head? ≠ (itemStart other).head?) :
    (s.bindList marker other values).valuesOf stem = s.valuesOf stem := by
  have hitems : (values.zipIdx.map fun v => (itemName other v.2, v.1)).filterMap
      (fun p => if names stem p.1 then some p.2 else none) = [] := by
    rw [List.filterMap_map, List.filterMap_eq_nil_iff]
    intro v _
    simp [names_itemName_of_other h]
  rw [valuesOf, bindList, List.filterMap_append, hitems, List.append_nil]
  rfl

@[simp] lemma param?_bind_of_ne (h : other ≠ name) : (s.bind other value).param? name = s.param? name := by
  simp [param?, bind, h]

@[simp] lemma param?_bind :
    (s.bind name value).param? name = (s.param? name).or (some value) := by
  cases h : s.params.find? fun p => p.1 == name with
  | none => simp [param?, bind, h]
  | some p => simp [param?, bind, h]

@[simp] lemma param?_bindList (h : names stem name = false) :
    (s.bindList marker stem values).param? name = s.param? name := by
  have hne : ∀ i, itemName stem i ≠ name := by
    rintro i rfl
    rw [names_itemName] at h
    exact nomatch h
  have hitems : (values.zipIdx.map fun v => (itemName stem v.2, v.1)).find?
      (fun p => p.1 == name) = none := by
    rw [List.find?_eq_none]
    intro p hp
    obtain ⟨v, -, rfl⟩ := List.mem_map.mp hp
    simp [hne]
  rw [param?, bindList, List.find?_append, hitems, Option.or_none]
  rfl

end ErpGateway.Sql.Statement
