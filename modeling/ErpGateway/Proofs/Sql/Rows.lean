import ErpGateway.Sql.Column
import Mathlib.Tactic.Common

namespace ErpGateway.Sql

def rowsOf (column text : String) (rows : Table) : Table :=
  rows.filter fun r => Row.text? r column == some text

def rowsIn (column : String) (texts : List String) (rows : Table) : Table :=
  rows.filter fun r => (Row.text? r column).any texts.contains

lemma rowsOf_rowsOf (column text : String) (rows : Table) :
    rowsOf column text (rowsOf column text rows) = rowsOf column text rows := by
  simp [rowsOf]

lemma rowsOf_rowsIn (column : String) {text : String} {texts : List String} (h : text ∈ texts)
    (rows : Table) : rowsOf column text (rowsIn column texts rows) = rowsOf column text rows := by
  rw [rowsOf, rowsIn, List.filter_filter, rowsOf]
  congr 1
  funext r
  by_cases htext : Row.text? r column = some text
  · rw [htext, Option.any_some, List.contains_iff_mem.mpr h, Bool.and_true]
  · rw [beq_eq_false_iff_ne.mpr htext, Bool.false_and]

lemma own_of_key {α : Type} {column : String} {f : Row → Option α} {key : α → String}
    (hkey : ∀ r a, f r = some a → Row.text? r column = some (key a)) (text : String) (r : Row)
    (a : α) (hread : f r = some a) (htext : (key a == text) = true) :
    (Row.text? r column == some text) = true := by
  rw [hkey r a hread, beq_iff_eq.mp htext]
  exact beq_self_eq_true _

lemma filter_filterMap_key {α : Type} {column : String} {f : Row → Option α} {g : Row → α}
    {key : α → String} {text : String} (hkey : ∀ r a, f r = some a → Row.text? r column = some (key a))
    (hread : ∀ r, Row.text? r column = some text → f r = some (g r)) (rows : Table) :
    (rows.filterMap f).filter (fun a => key a == text) = (rowsOf column text rows).map g := by
  rw [List.filter_filterMap, rowsOf, ← List.filterMap_eq_map, List.filterMap_filter]
  congr 1
  funext r
  by_cases htext : Row.text? r column = some text
  · have hown : key (g r) = text := by
      rw [← Option.some_inj, ← hkey r (g r) (hread r htext), htext]
    rw [if_pos (beq_iff_eq.mpr htext), hread r htext]
    exact Option.filter_some_pos (p := fun a => key a == text) (beq_iff_eq.mpr hown)
  · rw [if_neg fun h => htext (beq_iff_eq.mp h)]
    cases hf : f r with
    | none => rfl
    | some a =>
      rw [Option.filter_some, if_neg]
      intro ha
      exact htext (by rw [hkey r a hf, beq_iff_eq.mp ha])

section Read

variable {α β : Type} {rows rows' : List β} {f : β → Option α} {p : α → Bool} {q : β → Bool}

lemma filter_filterMap_filter (hq : ∀ r a, f r = some a → p a = true → q r = true)
    (rows : List β) : ((rows.filter q).filterMap f).filter p = (rows.filterMap f).filter p := by
  rw [List.filterMap_filter, List.filter_filterMap, List.filter_filterMap]
  congr 1
  funext r
  by_cases hr : q r = true
  · rw [if_pos hr]
  · rw [if_neg hr]
    cases hf : f r with
    | none => rfl
    | some a =>
      rw [Option.filter_some, if_neg fun ha => hr (hq r a hf ha)]
      rfl

lemma filter_filterMap_congr (hq : ∀ r a, f r = some a → p a = true → q r = true)
    (h : rows.filter q = rows'.filter q) :
    (rows.filterMap f).filter p = (rows'.filterMap f).filter p := by
  rw [← filter_filterMap_filter hq, h, filter_filterMap_filter hq]

lemma find?_filterMap_congr (hq : ∀ r a, f r = some a → p a = true → q r = true)
    (h : rows.filter q = rows'.filter q) :
    (rows.filterMap f).find? p = (rows'.filterMap f).find? p := by
  rw [← List.head?_filter, filter_filterMap_congr hq h, List.head?_filter]

lemma find?_reverse_filterMap_congr (hq : ∀ r a, f r = some a → p a = true → q r = true)
    (h : rows.filter q = rows'.filter q) :
    (rows.filterMap f).reverse.find? p = (rows'.filterMap f).reverse.find? p := by
  rw [← List.getLast?_filter, filter_filterMap_congr hq h, List.getLast?_filter]

end Read

end ErpGateway.Sql
