import ErpGateway.Text.Search
import Mathlib.Tactic.Common

/-! Splitting around a mark, which a single character does as a list does, and replacing its occurrences:
what stands before one is kept, and one gives way to the new text. A text that is split at the last
occurrence of a character. -/

namespace ErpGateway.Text

variable {mark new : List Char}

lemma splitFrom_ne_nil (skip : Nat) (cs : List Char) : splitFrom mark skip cs ≠ [] := by
  induction cs generalizing skip with
  | nil => simp [splitFrom]
  | cons c rest ih =>
    cases skip with
    | succ skip => exact ih skip
    | zero =>
      rw [splitFrom]
      split
      · simp
      · cases splitFrom mark 0 rest <;> simp [consFirst]

lemma splitFrom_append (cs rest : List Char) :
    splitFrom mark cs.length (cs ++ rest) = splitFrom mark 0 rest := by
  induction cs with
  | nil => rfl
  | cons c cs ih => exact ih

lemma splitAround_singleton (c : Char) (cs : List Char) : splitAround [c] cs = cs.splitOn c := by
  rw [splitAround]
  induction cs with
  | nil => rfl
  | cons d rest ih =>
    rw [splitFrom, List.splitOn_cons_eq_if_modifyHead]
    by_cases hd : c = d
    · rw [if_pos (by simp [hd]), if_pos (by simp [hd])]
      exact congrArg _ ih
    · rw [if_neg (by simpa using hd), if_neg (by simpa using Ne.symm hd), ← ih]
      cases hpieces : splitFrom [c] 0 rest with
      | nil => exact absurd hpieces (splitFrom_ne_nil 0 rest)
      | cons piece pieces => rfl

lemma intercalate_consFirst (c : Char) {pieces : List (List Char)} (hne : pieces ≠ []) :
    new.intercalate (consFirst c pieces) = c :: new.intercalate pieces := by
  obtain ⟨piece, pieces, rfl⟩ := List.exists_cons_of_ne_nil hne
  cases pieces with
  | nil => simp [consFirst]
  | cons piece' pieces => simp [consFirst, List.intercalate_cons_cons]

lemma replaceAll_cons {c : Char} {rest : List Char} (h : ¬ mark <+: c :: rest) :
    replaceAll mark new (c :: rest) = c :: replaceAll mark new rest := by
  have hsplit : splitAround mark (c :: rest) = consFirst c (splitAround mark rest) := by
    rw [splitAround, splitFrom, if_neg (by simpa using h)]
    rfl
  rw [replaceAll, hsplit]
  exact intercalate_consFirst c (splitFrom_ne_nil 0 rest)

lemma replaceAll_mark_append (hmark : mark ≠ []) (rest : List Char) :
    replaceAll mark new (mark ++ rest) = new ++ replaceAll mark new rest := by
  obtain ⟨c, cs, rfl⟩ := List.exists_cons_of_ne_nil hmark
  have hsplit : splitAround (c :: cs) (c :: cs ++ rest) = [] :: splitAround (c :: cs) rest := by
    rw [splitAround, List.cons_append, splitFrom, if_pos (by simp)]
    exact congrArg _ (splitFrom_append cs rest)
  rw [replaceAll, hsplit]
  have hne : splitFrom (c :: cs) 0 rest ≠ [] := splitFrom_ne_nil 0 rest
  obtain ⟨piece, pieces, hpieces⟩ := List.exists_cons_of_ne_nil hne
  rw [replaceAll, splitAround, hpieces, List.intercalate_cons_cons]
  simp

lemma replaceAll_append (mark new : List Char) {c : Char} (hmark : mark.head? = some c)
    {cs : List Char} (hc : c ∉ cs) (rest : List Char) :
    replaceAll mark new (cs ++ rest) = cs ++ replaceAll mark new rest := by
  induction cs with
  | nil => rfl
  | cons d cs ih =>
    rw [List.mem_cons, not_or] at hc
    have hprefix : ¬ mark <+: d :: (cs ++ rest) := by
      intro h
      cases mark with
      | nil => simp at hmark
      | cons m ms =>
        rw [List.head?_cons, Option.some.injEq] at hmark
        rw [List.cons_prefix_cons] at h
        exact hc.1 (hmark.symm.trans h.1)
    rw [List.cons_append, replaceAll_cons hprefix, ih hc.2, List.cons_append]

lemma splitLast_append_cons {c : Char} {after : List Char} (h : c ∉ after) (before : List Char) :
    splitLast c (before ++ c :: after) = some (before, after) := by
  have hreverse : (before ++ c :: after).reverse = after.reverse ++ c :: before.reverse := by simp
  have hrun : ∀ d ∈ after.reverse, (d != c) = true := by
    intro d hd
    exact bne_iff_ne.mpr (ne_of_mem_of_not_mem (List.mem_reverse.mp hd) h)
  rw [splitLast, hreverse, List.takeWhile_append_of_pos hrun, List.dropWhile_append_of_pos hrun]
  simp

end ErpGateway.Text
