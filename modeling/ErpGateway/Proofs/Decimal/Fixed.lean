import ErpGateway.Proofs.Decimal.Integers
import Mathlib.Algebra.GroupWithZero.Nat
import Mathlib.Data.Char
import Mathlib.Data.List.Lex
import Mathlib.Tactic.Common

namespace ErpGateway.Decimal

structure Fixed (width : Nat) (cs : List Char) : Prop where
  length : cs.length = width
  isDigit : ∀ c ∈ cs, c.isDigit = true

section Order

variable {c d : Char} {cs ds : List Char}

lemma toNat_of_isDigit (h : c.isDigit = true) : 48 ≤ c.toNat ∧ c.toNat ≤ 57 := by
  have hdigit : '0'.val ≤ c.val ∧ c.val ≤ '9'.val := by
    simpa [Char.isDigit] using h
  rwa [UInt32.le_iff_toNat_le, UInt32.le_iff_toNat_le] at hdigit

lemma mul_pow_le_ofDigitChars (cs : List Char) (init : Nat) :
    init * 10 ^ cs.length ≤ Nat.ofDigitChars 10 cs init := by
  induction cs generalizing init with
  | nil => simp
  | cons c cs ih =>
    rw [Nat.ofDigitChars_cons]
    refine Nat.le_trans ?_ (ih _)
    rw [List.length_cons, Nat.pow_succ, ← Nat.mul_assoc, Nat.mul_right_comm]
    exact Nat.mul_le_mul_right _ (by omega)

lemma ofDigitChars_lt_mul_pow (h : ∀ c ∈ cs, c.isDigit = true) (init : Nat) :
    Nat.ofDigitChars 10 cs init < (init + 1) * 10 ^ cs.length := by
  induction cs generalizing init with
  | nil => simp
  | cons c cs ih =>
    rw [List.forall_mem_cons] at h
    rw [Nat.ofDigitChars_cons]
    refine Nat.lt_of_lt_of_le (ih h.2 _) ?_
    have hc := toNat_of_isDigit h.1
    have hzero : '0'.toNat = 48 := rfl
    rw [List.length_cons, Nat.pow_succ, ← Nat.mul_assoc, Nat.mul_right_comm]
    exact Nat.mul_le_mul_right _ (by omega)

lemma ofDigitChars_cons_lt (hc : c.isDigit = true) (h : c < d) (hcs : ∀ c ∈ cs, c.isDigit = true)
    (hlength : cs.length = ds.length) (init : Nat) :
    Nat.ofDigitChars 10 (c :: cs) init < Nat.ofDigitChars 10 (d :: ds) init := by
  have hnat : c.toNat < d.toNat := h
  have hdigit := toNat_of_isDigit hc
  have hzero : '0'.toNat = 48 := rfl
  rw [Nat.ofDigitChars_cons, Nat.ofDigitChars_cons]
  calc Nat.ofDigitChars 10 cs (10 * init + (c.toNat - '0'.toNat))
      < (10 * init + (c.toNat - '0'.toNat) + 1) * 10 ^ cs.length := ofDigitChars_lt_mul_pow hcs _
    _ ≤ (10 * init + (d.toNat - '0'.toNat)) * 10 ^ ds.length := by
      rw [hlength]
      exact Nat.mul_le_mul_right _ (by omega)
    _ ≤ Nat.ofDigitChars 10 ds (10 * init + (d.toNat - '0'.toNat)) := mul_pow_le_ofDigitChars ds _

lemma ofDigitChars_lt_of_lt (h : cs < ds) (hcs : ∀ c ∈ cs, c.isDigit = true)
    (hlength : cs.length = ds.length) (init : Nat) :
    Nat.ofDigitChars 10 cs init < Nat.ofDigitChars 10 ds init := by
  induction h generalizing init with
  | nil => cases hlength
  | rel hlt =>
    rw [List.forall_mem_cons] at hcs
    exact ofDigitChars_cons_lt hcs.1 hlt hcs.2 (Nat.succ.inj hlength) init
  | cons _ ih =>
    rw [List.forall_mem_cons] at hcs
    rw [Nat.ofDigitChars_cons, Nat.ofDigitChars_cons]
    exact ih hcs.2 (Nat.succ.inj hlength) _

lemma append_lt_append (h : cs < ds) (hlength : cs.length = ds.length) (rest rest' : List Char) :
    cs ++ rest < ds ++ rest' := by
  induction h with
  | nil => cases hlength
  | rel hlt => exact List.Lex.rel hlt
  | cons _ ih => exact List.Lex.cons (ih (Nat.succ.inj hlength))

end Order

namespace Fixed

variable {width : Nat} {cs ds : List Char}

lemma exists_cons (h : Fixed (width + 1) cs) : ∃ c rest, cs = c :: rest ∧ c.isDigit = true := by
  cases cs with
  | nil => cases h.length
  | cons c rest => exact ⟨c, rest, rfl, h.isDigit c List.mem_cons_self⟩

lemma exists_snoc (h : Fixed (width + 1) cs) : ∃ rest c, cs = rest ++ [c] ∧ c.isDigit = true := by
  rcases List.eq_nil_or_concat' cs with rfl | ⟨rest, c, rfl⟩
  · cases h.length
  · exact ⟨rest, c, rfl, h.isDigit c (List.mem_append_right _ List.mem_cons_self)⟩

lemma ofDigits_lt_iff (h : Fixed width cs) (h' : Fixed width ds) :
    ofDigits cs < ofDigits ds ↔ cs < ds := by
  have hlength : cs.length = ds.length := h.length.trans h'.length.symm
  rw [ofDigits_eq, ofDigits_eq]
  constructor
  · intro hlt
    rcases lt_trichotomy cs ds with hcs | rfl | hds
    · exact hcs
    · exact absurd hlt (Nat.lt_irrefl _)
    · exact absurd hlt (Nat.lt_asymm (ofDigitChars_lt_of_lt hds h'.isDigit hlength.symm 0))
  · intro hcs
    exact ofDigitChars_lt_of_lt hcs h.isDigit hlength 0

lemma eq_of_ofDigits_eq (h : Fixed width cs) (h' : Fixed width ds)
    (hvalue : ofDigits cs = ofDigits ds) : cs = ds := by
  rcases lt_trichotomy cs ds with hcs | heq | hds
  · have hlt := (h.ofDigits_lt_iff h').mpr hcs
    omega
  · exact heq
  · have hlt := (h'.ofDigits_lt_iff h).mpr hds
    omega

lemma ofDigits_lt_pow (h : Fixed width cs) : ofDigits cs < 10 ^ width := by
  have hlt := ofDigitChars_lt_mul_pow h.isDigit 0
  rwa [h.length, Nat.zero_add, Nat.one_mul, ← ofDigits_eq] at hlt

end Fixed

section Padded

variable {width n : Nat}

lemma ofDigits_padded (width n : Nat) : ofDigits (padded width n) = n := by
  rw [padded, ofDigits_eq, Nat.ofDigitChars_append, Nat.ofDigitChars_replicate_zero, Nat.mul_zero,
    ← ofDigits_eq, ofDigits_digits]

lemma fixed_padded (hwidth : 0 < width) (hn : n < 10 ^ width) : Fixed width (padded width n) where
  length := by
    have hlength : (digits n).length ≤ width :=
      (Nat.length_toDigits_le_iff (by decide) hwidth).mpr hn
    rw [padded, List.length_append, List.length_replicate]
    omega
  isDigit c hc := by
    rcases List.mem_append.mp hc with hzero | hdigit
    · rw [(List.mem_replicate.mp hzero).2]
      decide
    · exact isDigit_of_mem_digits hdigit

end Padded

end ErpGateway.Decimal
