import ErpGateway.Gate.Literal
import Mathlib.Algebra.Group.Nat.Even
import Mathlib.Tactic.Common

/-! Literals by parity: a character stands outside literals when an even number of quotes comes
before it. Nothing here builds the blanked text; that it agrees is `getElem?_code`. -/

namespace ErpGateway.Gate

def quotesBefore (t : List Char) (i : Nat) : Nat :=
  (t.take i).count '\''

def codeAt? (t : List Char) (i : Nat) : Option Char :=
  if Even (quotesBefore t i) then t[i]?.filter (· != '\'') else none

@[simp] lemma quotesBefore_zero (t : List Char) : quotesBefore t 0 = 0 := by
  simp [quotesBefore]

@[simp] lemma quotesBefore_cons_succ (c : Char) (t : List Char) (i : Nat) :
    quotesBefore (c :: t) (i + 1) = quotesBefore t i + if c = '\'' then 1 else 0 := by
  simp [quotesBefore, List.count_cons]

lemma quotesBefore_succ {t : List Char} {i : Nat} {c : Char} (h : t[i]? = some c) :
    quotesBefore t (i + 1) = quotesBefore t i + if c = '\'' then 1 else 0 := by
  rw [quotesBefore, quotesBefore, List.take_add_one, h, List.count_append, Option.toList_some,
    List.count_singleton]
  simp

lemma quotesBefore_append_left {a : List Char} {i : Nat} (b : List Char) (h : i ≤ a.length) :
    quotesBefore (a ++ b) i = quotesBefore a i := by
  rw [quotesBefore, List.take_append_of_le_length h, quotesBefore]

lemma quotesBefore_append_right (a b : List Char) (i : Nat) :
    quotesBefore (a ++ b) (a.length + i) = a.count '\'' + quotesBefore b i := by
  rw [quotesBefore, List.take_length_add_append, List.count_append, quotesBefore]

lemma codeAt?_eq_some {t : List Char} {i : Nat} {c : Char} :
    codeAt? t i = some c ↔ t[i]? = some c ∧ c ≠ '\'' ∧ Even (quotesBefore t i) := by
  by_cases he : Even (quotesBefore t i)
  · rw [codeAt?, if_pos he, Option.filter_eq_some_iff]
    simp [he]
  · simp [codeAt?, he]

lemma lt_of_codeAt? {t : List Char} {i : Nat} {c : Char} (h : codeAt? t i = some c) :
    i < t.length := by
  obtain ⟨hc, -, -⟩ := codeAt?_eq_some.mp h
  exact (List.getElem?_eq_some_iff.mp hc).1

lemma codeAt?_append_left {a : List Char} {i : Nat} (b : List Char) (h : i < a.length) :
    codeAt? (a ++ b) i = codeAt? a i := by
  rw [codeAt?, codeAt?, quotesBefore_append_left b (Nat.le_of_lt h), List.getElem?_append_left h]

lemma codeAt?_append_right {a : List Char} (b : List Char) (i : Nat) (ha : Even (a.count '\'')) :
    codeAt? (a ++ b) (a.length + i) = codeAt? b i := by
  have hq : Even (quotesBefore (a ++ b) (a.length + i)) ↔ Even (quotesBefore b i) := by
    rw [quotesBefore_append_right, Nat.even_add]
    simp only [ha, true_iff]
  have hg : (a ++ b)[a.length + i]? = b[i]? := by
    rw [List.getElem?_append_right (Nat.le_add_right _ _), Nat.add_sub_cancel_left]
  simp only [codeAt?, hq, hg]

end ErpGateway.Gate
