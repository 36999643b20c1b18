import ErpGateway.Text.Order
import ErpGateway.Text.Utf8
import Mathlib.Data.List.Induction
import Mathlib.Data.List.Pairwise
import Mathlib.Tactic.Common

namespace ErpGateway.Text

section Distinct

variable (texts : List String) (a : String)

lemma mem_distinct {a : String} {texts : List String} : a ∈ distinct texts ↔ a ∈ texts :=
  List.mem_eraseDups

lemma distinct_append_singleton :
    distinct (texts ++ [a]) = if a ∈ texts then distinct texts else distinct texts ++ [a] := by
  rw [distinct, List.eraseDups_append, List.removeAll]
  by_cases ha : a ∈ texts
  · simp [distinct, ha]
  · simp [distinct, ha]
    rfl

lemma pairwise_idxOf_distinct_filter (p : String → Bool) :
    (distinct (texts.filter p)).Pairwise fun a b => texts.idxOf a < texts.idxOf b := by
  induction texts using List.reverseRecOn with
  | nil => exact List.Pairwise.nil
  | append_singleton texts a ih =>
    have hmem : ∀ b ∈ distinct (texts.filter p), b ∈ texts := by
      intro b hb
      exact (List.mem_filter.mp (mem_distinct.mp hb)).1
    have hidx : ∀ b ∈ texts, (texts ++ [a]).idxOf b = texts.idxOf b := by
      intro b hb
      rw [List.idxOf_append, if_pos hb]
    have hkept : (distinct (texts.filter p)).Pairwise
        fun b c => (texts ++ [a]).idxOf b < (texts ++ [a]).idxOf c := by
      refine ih.imp_of_mem ?_
      intro b c hb hc hlt
      rwa [hidx b (hmem b hb), hidx c (hmem c hc)]
    rw [List.filter_append]
    by_cases ha : p a = true
    · have hlast : [a].filter p = [a] := by simp [ha]
      rw [hlast, distinct_append_singleton]
      split
      · exact hkept
      · rename_i hnew
        have htexts : a ∉ texts := fun h => hnew (List.mem_filter.mpr ⟨h, ha⟩)
        rw [List.pairwise_append]
        refine ⟨hkept, List.pairwise_singleton _ _, ?_⟩
        intro b hb c hc
        obtain rfl := List.mem_singleton.mp hc
        rw [hidx b (hmem b hb), List.idxOf_append, if_neg htexts]
        exact Nat.lt_of_lt_of_le (List.idxOf_lt_length_of_mem (hmem b hb)) (Nat.le_add_left _ _)
    · have hlast : [a].filter p = [] := by simp [ha]
      rw [hlast, List.append_nil]
      exact hkept

lemma distinct_append_of_mem {texts more : List String} (h : ∀ a ∈ more, a ∈ texts) :
    distinct (texts ++ more) = distinct texts := by
  induction more using List.reverseRecOn with
  | nil => rw [List.append_nil]
  | append_singleton more a ih =>
    have hmore : ∀ b ∈ more, b ∈ texts := fun b hb => h b (List.mem_append_left _ hb)
    have ha : a ∈ texts ++ more := List.mem_append_left _ (h a List.mem_concat_self)
    rw [← List.append_assoc, distinct_append_singleton, if_pos ha, ih hmore]

lemma distinct_append_cons_of_mem {texts more : List String} {a : String} (ha : a ∈ texts) :
    distinct (texts ++ a :: more) = distinct (texts ++ more) := by
  rw [distinct, distinct, List.eraseDups_append, List.eraseDups_append, List.cons_removeAll,
    if_neg (by simpa using ha)]

lemma distinct_flatMap {f : String → List String} (hne : ∀ a, f a ≠ []) (hf : ∀ a, ∀ b ∈ f a, b = a) :
    distinct (texts.flatMap f) = distinct texts := by
  have hmem : ∀ texts : List String, ∀ a, a ∈ texts.flatMap f ↔ a ∈ texts := by
    intro texts a
    rw [List.mem_flatMap]
    constructor
    · rintro ⟨b, hb, ha⟩
      rwa [hf b a ha]
    · intro ha
      obtain ⟨b, hb⟩ := List.exists_mem_of_ne_nil _ (hne a)
      exact ⟨a, ha, hf a b hb ▸ hb⟩
  induction texts using List.reverseRecOn with
  | nil => rfl
  | append_singleton texts a ih =>
    obtain ⟨first, rest, hfa⟩ := List.exists_cons_of_ne_nil (hne a)
    obtain rfl : first = a := hf a first (hfa ▸ List.mem_cons_self)
    have hrest : ∀ b ∈ rest, b ∈ texts.flatMap f ++ [first] := by
      intro b hb
      rw [hf first b (hfa ▸ List.mem_cons_of_mem _ hb)]
      exact List.mem_concat_self
    rw [List.flatMap_append, List.flatMap_singleton, hfa, List.append_cons,
      distinct_append_of_mem hrest, distinct_append_singleton, distinct_append_singleton, ih]
    simp only [hmem texts first]

end Distinct

section Ascending

lemma perm_ascending (texts : List String) : (ascending texts).Perm texts :=
  List.mergeSort_perm _ _

lemma pairwise_le_ascending (texts : List String) : (ascending texts).Pairwise (· ≤ ·) := by
  have hsorted : (ascending texts).Pairwise fun a b => decide (a ≤ b) = true := by
    refine List.pairwise_mergeSort ?_ ?_ texts
    · intro a b c hab hbc
      exact decide_eq_true (String.le_trans (of_decide_eq_true hab) (of_decide_eq_true hbc))
    · intro a b
      simpa using String.le_total a b
  exact hsorted.imp of_decide_eq_true

lemma pairwise_lt_ascending {texts : List String} (h : texts.Nodup) :
    (ascending texts).Pairwise (· < ·) := by
  have hnodup := (perm_ascending texts).nodup_iff.mpr h
  refine (pairwise_le_ascending texts).imp₂ ?_ hnodup
  intro a b hle hne
  by_contra hlt
  exact hne (String.le_antisymm hle (String.not_lt.mp hlt))

lemma ascending_eq_of_perm {texts texts' : List String} (h : texts.Perm texts') :
    ascending texts = ascending texts' := by
  have hperm := ((perm_ascending texts).trans h).trans (perm_ascending texts').symm
  refine hperm.eq_of_pairwise ?_ (pairwise_le_ascending texts) (pairwise_le_ascending texts')
  intro a b _ _ hab hba
  exact String.le_antisymm hab hba

end Ascending

section Octets

lemma utf8_eq_flatMap (s : String) : utf8 s = s.toList.flatMap String.utf8EncodeChar := by
  have hoctets : s.toByteArray = s.toList.utf8Encode := by
    rw [← String.toByteArray_ofList, String.ofList_toList]
  rw [utf8, String.toUTF8, hoctets, List.utf8Encode]
  simp

lemma utf8EncodeChar_append_lt {c d : Char} (h : c < d) (xs ys : Octets) :
    String.utf8EncodeChar c ++ xs < String.utf8EncodeChar d ++ ys := by
  have hlt : c.val.toNat < d.val.toNat := h
  have hd : d.val.toNat < 0x110000 := by
    have hvalid := d.valid
    simp only [UInt32.isValidChar, Nat.isValidChar] at hvalid
    omega
  rw [String.utf8EncodeChar, String.utf8EncodeChar]
  generalize c.val.toNat = m at hlt ⊢
  generalize d.val.toNat = n at hlt hd ⊢
  -- the encoding writes digits to the base 64
  have hdigits : m / 64 / 64 / 64 < n / 64 / 64 / 64 ∨ m / 64 / 64 / 64 = n / 64 / 64 / 64 ∧
      (m / 64 / 64 % 64 < n / 64 / 64 % 64 ∨ m / 64 / 64 % 64 = n / 64 / 64 % 64 ∧
        (m / 64 % 64 < n / 64 % 64 ∨ m / 64 % 64 = n / 64 % 64 ∧ m % 64 < n % 64)) := by
    omega
  have htwo : ∀ k : Nat, k / 4096 = k / 64 / 64 := by omega
  have hthree : ∀ k : Nat, k / 262144 = k / 64 / 64 / 64 := by omega
  split_ifs <;>
    simp only [List.cons_append, List.nil_append, List.cons_lt_cons_iff, UInt8.lt_iff_toNat_lt,
      ← UInt8.toNat_inj, UInt8.toNat_ofNat', htwo, hthree] <;>
    simp (disch := omega) only [Nat.mod_eq_of_lt] <;>
    omega

theorem utf8_lt_utf8 {a b : String} (h : a < b) : utf8 a < utf8 b := by
  have hchars : a.toList < b.toList := h
  rw [utf8_eq_flatMap, utf8_eq_flatMap]
  generalize a.toList = cs at hchars
  generalize b.toList = ds at hchars
  induction hchars with
  | @nil d ds =>
    obtain ⟨first, rest, hd⟩ := List.exists_cons_of_ne_nil (String.utf8EncodeChar_ne_nil (c := d))
    rw [List.flatMap_nil, List.flatMap_cons, hd]
    exact List.nil_lt_cons _ _
  | rel h => exact utf8EncodeChar_append_lt h _ _
  | cons _ ih => exact List.append_left_lt ih

lemma utf8_lt_utf8_iff {a b : String} : utf8 a < utf8 b ↔ a < b := by
  refine ⟨fun h => ?_, utf8_lt_utf8⟩
  by_contra hle
  by_cases hlt : b < a
  · exact List.lt_asymm h (utf8_lt_utf8 hlt)
  · obtain rfl := String.le_antisymm (String.not_lt.mp hlt) (String.not_lt.mp hle)
    exact List.lt_irrefl _ h

end Octets

end ErpGateway.Text
