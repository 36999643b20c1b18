import ErpGateway.Text.Blank
import Mathlib.Data.List.DropRight

namespace ErpGateway.Text

lemma ascii_of_isAlphanum {c : Char} (h : c.isAlphanum = true) :
    (65 ≤ c.toNat ∧ c.toNat ≤ 90) ∨ (97 ≤ c.toNat ∧ c.toNat ≤ 122) ∨
      (48 ≤ c.toNat ∧ c.toNat ≤ 57) := by
  have hchars : c.isAlphanum = ((decide ('A'.val ≤ c.val ∧ c.val ≤ 'Z'.val) ||
      decide ('a'.val ≤ c.val) && decide (c.val ≤ 'z'.val)) ||
      decide ('0'.val ≤ c.val) && decide (c.val ≤ '9'.val)) := rfl
  simp only [hchars, Bool.or_eq_true, Bool.and_eq_true, decide_eq_true_eq,
    UInt32.le_iff_toNat_le] at h
  change ((65 ≤ c.toNat ∧ c.toNat ≤ 90) ∨ (97 ≤ c.toNat ∧ c.toNat ≤ 122)) ∨
    (48 ≤ c.toNat ∧ c.toNat ≤ 57) at h
  omega

lemma isBlank_of_isAlphanum {c : Char} (h : c.isAlphanum = true) : isBlank c = false := by
  have hascii := ascii_of_isAlphanum h
  simp only [isBlank, Bool.or_eq_false_iff, Bool.and_eq_false_iff, decide_eq_false_iff_not,
    beq_eq_false_iff_ne]
  omega

lemma isBlank_of_isDigit {c : Char} (h : c.isDigit = true) : isBlank c = false :=
  isBlank_of_isAlphanum (by simp [Char.isAlphanum, h])

lemma exists_append_trimLeft (cs : List Char) :
    ∃ l, cs = l ++ trimLeft cs ∧ ∀ c ∈ l, isBlank c = true := by
  refine ⟨cs.takeWhile isBlank, List.takeWhile_append_dropWhile.symm, ?_⟩
  intro c hc
  exact List.mem_takeWhile_imp hc

lemma exists_trimRight_append (cs : List Char) :
    ∃ r, cs = trimRight cs ++ r ∧ ∀ c ∈ r, isBlank c = true := by
  refine ⟨cs.rtakeWhile isBlank, (List.rdropWhile_append_rtakeWhile ..).symm, ?_⟩
  intro c hc
  exact List.mem_rtakeWhile_imp hc

lemma exists_append_trim_append (cs : List Char) :
    ∃ l r, cs = l ++ trim cs ++ r ∧ (∀ c ∈ l, isBlank c = true) ∧ ∀ c ∈ r, isBlank c = true := by
  obtain ⟨l, hl, hbl⟩ := exists_append_trimLeft cs
  obtain ⟨r, hr, hbr⟩ := exists_trimRight_append (trimLeft cs)
  refine ⟨l, r, ?_, hbl, hbr⟩
  rw [trim, List.append_assoc, ← hr]
  exact hl

lemma isBlank_of_trim_eq_cons {cs rest : List Char} {c : Char} (h : trim cs = c :: rest) :
    isBlank c = false := by
  obtain ⟨r, hr, -⟩ := exists_trimRight_append (trimLeft cs)
  have hl : (cs.dropWhile isBlank).head? = some c := by
    change (trimLeft cs).head? = some c
    rw [hr]
    change (trim cs ++ r).head? = some c
    rw [h]
    rfl
  have hn := List.head?_dropWhile_not isBlank cs
  rw [hl] at hn
  simpa using hn

lemma trim_ne_nil_of_mem {cs : List Char} {c : Char} (hc : c ∈ cs) (hb : isBlank c = false) :
    trim cs ≠ [] := by
  obtain ⟨l, r, hcs, hl, hr⟩ := exists_append_trim_append cs
  intro h
  rw [h, List.append_nil] at hcs
  rw [hcs] at hc
  rcases List.mem_append.mp hc with hc | hc
  · simp [hl c hc] at hb
  · simp [hr c hc] at hb

lemma trimLeft_append_cons {d : Char} (hd : isBlank d = false) (a b : List Char) :
    trimLeft (a ++ d :: b) = trimLeft a ++ d :: b := by
  induction a with
  | nil => simp [trimLeft, hd]
  | cons c a ih =>
    by_cases hc : isBlank c = true
    · simpa [trimLeft, hc] using ih
    · simp [trimLeft, hc]

lemma trimRight_append_cons {d : Char} (hd : isBlank d = false) (a b : List Char) :
    trimRight (a ++ d :: b) = a ++ d :: trimRight b := by
  have h := trimLeft_append_cons hd b.reverse a.reverse
  simp only [trimRight, trimLeft] at h ⊢
  rw [List.reverse_append, List.reverse_cons, List.append_assoc, List.singleton_append, h]
  simp

lemma trim_append_cons_append_cons {d e : Char} (hd : isBlank d = false) (he : isBlank e = false)
    (a b c : List Char) :
    trim (a ++ d :: b ++ e :: c) = trimLeft a ++ d :: b ++ e :: trimRight c := by
  rw [trim, List.append_assoc, List.cons_append, trimLeft_append_cons hd]
  rw [← List.cons_append, ← List.append_assoc, trimRight_append_cons he]

lemma trimRight_trimRight (cs : List Char) : trimRight (trimRight cs) = trimRight cs :=
  List.rdropWhile_idempotent isBlank cs

lemma trim_eq_self {cs : List Char} (hhead : ∀ c ∈ cs.head?, isBlank c = false)
    (hlast : ∀ c ∈ cs.getLast?, isBlank c = false) : trim cs = cs := by
  have hleft : trimLeft cs = cs := by
    cases cs with
    | nil => rfl
    | cons c rest => exact trimLeft_eq_self (hhead c rfl)
  have hright : trimRight cs = cs := by
    rcases List.eq_nil_or_concat' cs with rfl | ⟨init, c, rfl⟩
    · rfl
    · have hc : isBlank c = false := hlast c (by simp)
      exact List.rdropWhile_concat_neg isBlank init c (by simp [hc])
  rw [trim, hleft, hright]

lemma trim_trim (cs : List Char) : trim (trim cs) = trim cs := by
  have hleft : trimLeft (trim cs) = trim cs := by
    cases h : trim cs with
    | nil => rfl
    | cons c rest => exact trimLeft_eq_self (isBlank_of_trim_eq_cons h)
  calc trim (trim cs) = trimRight (trimLeft (trim cs)) := rfl
    _ = trimRight (trim cs) := by rw [hleft]
    _ = trim cs := trimRight_trimRight (trimLeft cs)

lemma trim_of_no_blank {cs : List Char} (h : ∀ c ∈ cs, isBlank c = false) : trim cs = cs :=
  trim_eq_self (fun c hc => h c (List.mem_of_mem_head? hc))
    (fun c hc => h c (List.mem_of_mem_getLast? hc))

lemma trimmed_trimmed (s : String) : trimmed (trimmed s) = trimmed s := by
  rw [trimmed, trimmed, String.toList_ofList, trim_trim]

section Padded

variable {left right cs : List Char}

lemma trimRight_append_blanks (hright : ∀ c ∈ right, isBlank c = true) :
    trimRight (cs ++ right) = trimRight cs := by
  have hblank : ∀ c ∈ right.reverse, isBlank c = true := by simpa using hright
  rw [trimRight, List.reverse_append, List.dropWhile_append]
  rw [List.dropWhile_eq_nil_iff.mpr hblank]
  rfl

lemma trim_padded (hleft : ∀ c ∈ left, isBlank c = true) (hright : ∀ c ∈ right, isBlank c = true) :
    trim (left ++ cs ++ right) = trim cs := by
  rw [trim, List.append_assoc, trimLeft, List.dropWhile_append,
    List.dropWhile_eq_nil_iff.mpr hleft, List.isEmpty_nil, if_pos rfl, List.dropWhile_append]
  cases hcs : cs.dropWhile isBlank with
  | nil =>
    -- nothing but blanks is there
    rw [List.isEmpty_nil, if_pos rfl, List.dropWhile_eq_nil_iff.mpr hright, trim, trimLeft, hcs]
  | cons c rest =>
    rw [List.isEmpty_cons, if_neg (by simp), trimRight_append_blanks hright, trim, trimLeft, hcs]

lemma trimmed_padded (s : String) (hleft : ∀ c ∈ left, isBlank c = true)
    (hright : ∀ c ∈ right, isBlank c = true) :
    trimmed (String.ofList (left ++ s.toList ++ right)) = trimmed s := by
  rw [trimmed, String.toList_ofList, trim_padded hleft hright]
  rfl

end Padded

end ErpGateway.Text
