import ErpGateway.Decimal.Integer
import Mathlib.Algebra.Ring.Int.Defs

namespace ErpGateway.Decimal

lemma ofDigits_eq (cs : List Char) : ofDigits cs = Nat.ofDigitChars 10 cs 0 := rfl

lemma isDigit_of_mem_digits {n : Nat} {c : Char} (h : c ∈ digits n) : c.isDigit = true :=
  Nat.isDigit_of_mem_toDigits (by decide) (by decide) h

lemma toLower_of_isDigit {c : Char} (h : c.isDigit = true) : c.toLower = c := by
  have hdigit : '0'.val ≤ c.val ∧ c.val ≤ '9'.val := by
    simpa [Char.isDigit] using h
  have hnot : ¬ ('A'.val ≤ c.val ∧ c.val ≤ 'Z'.val) := by
    rw [UInt32.le_iff_toNat_le, UInt32.le_iff_toNat_le] at *
    have hA : 'A'.val.toNat = 65 := rfl
    have h9 : '9'.val.toNat = 57 := rfl
    omega
  exact dif_neg hnot

lemma map_toLower_digits (n : Nat) : (digits n).map Char.toLower = digits n := by
  rw [List.map_congr_left fun c hc => toLower_of_isDigit (isDigit_of_mem_digits hc)]
  exact List.map_id' _

lemma digits_ne_nil (n : Nat) : digits n ≠ [] :=
  Nat.toDigits_ne_nil

lemma ofDigits_digits (n : Nat) : ofDigits (digits n) = n :=
  Nat.ofDigitChars_toDigits (by decide) (by decide)

lemma digits_injective : Function.Injective digits := by
  intro m n h
  rw [← ofDigits_digits m, h, ofDigits_digits]

lemma natural?_eq_some_iff {cs : List Char} {n : Nat} :
    natural? cs = some n ↔ cs ≠ [] ∧ (∀ c ∈ cs, c.isDigit = true) ∧ n = ofDigits cs := by
  rw [natural?, Option.ite_none_right_eq_some, Bool.and_eq_true, List.all_eq_true,
    Option.some.injEq, and_assoc, eq_comm (a := ofDigits cs)]
  simp

lemma natural?_digits (n : Nat) : natural? (digits n) = some n :=
  natural?_eq_some_iff.mpr
    ⟨digits_ne_nil n, fun _ => isDigit_of_mem_digits, (ofDigits_digits n).symm⟩

structure SignedText (cs : List Char) (v : Int) (sign digits : List Char) : Prop where
  text_eq : cs = sign ++ digits
  sign_mem : sign = [] ∨ sign = ['+'] ∨ sign = ['-']
  digits_ne : digits ≠ []
  isDigit : ∀ c ∈ digits, c.isDigit = true
  value_eq : v = if sign = ['-'] then -(Nat.ofDigitChars 10 digits 0 : Int)
    else Nat.ofDigitChars 10 digits 0

lemma signed?_minus (cs : List Char) :
    signed? ('-' :: cs) = (natural? cs).map fun n : Nat => -(n : Int) := by
  rw [signed?]
  cases natural? cs <;> rfl

lemma signed?_plus (cs : List Char) :
    signed? ('+' :: cs) = (natural? cs).map fun n : Nat => (n : Int) := rfl

lemma signed?_cons {c : Char} (cs : List Char) (hm : c ≠ '-') (hp : c ≠ '+') :
    signed? (c :: cs) = (natural? (c :: cs)).map fun n : Nat => (n : Int) := by
  rw [signed?]
  · rfl
  · intro rest h
    exact hm (List.cons.inj h).1
  · intro rest h
    exact hp (List.cons.inj h).1

lemma unsigned?_plus (cs : List Char) : unsigned? ('+' :: cs) = natural? cs := rfl

lemma unsigned?_cons {c : Char} (cs : List Char) (hp : c ≠ '+') :
    unsigned? (c :: cs) = natural? (c :: cs) := by
  rw [unsigned?]
  intro rest h
  exact hp (List.cons.inj h).1

lemma SignedText.of_natural? {cs sign digits : List Char} {n : Nat} {v : Int}
    (hsign : sign = [] ∨ sign = ['+'] ∨ sign = ['-']) (hn : natural? digits = some n)
    (htext : cs = sign ++ digits) (hv : v = if sign = ['-'] then -(n : Int) else n) :
    SignedText cs v sign digits := by
  obtain ⟨hne, hd, rfl⟩ := natural?_eq_some_iff.mp hn
  exact ⟨htext, hsign, hne, hd, hv⟩

lemma signed?_eq_some_iff {cs : List Char} {v : Int} :
    signed? cs = some v ↔ ∃ sign digits, SignedText cs v sign digits := by
  constructor
  · intro h
    cases cs with
    | nil => simp [signed?, natural?] at h
    | cons c rest =>
      by_cases hm : c = '-'
      · rw [hm, signed?_minus] at h
        obtain ⟨n, hn, rfl⟩ := Option.map_eq_some_iff.mp h
        exact ⟨['-'], rest, .of_natural? (by simp) hn (by simp [hm]) (by simp)⟩
      by_cases hp : c = '+'
      · rw [hp, signed?_plus] at h
        obtain ⟨n, hn, rfl⟩ := Option.map_eq_some_iff.mp h
        exact ⟨['+'], rest, .of_natural? (by simp) hn (by simp [hp]) (by simp)⟩
      rw [signed?_cons rest hm hp] at h
      obtain ⟨n, hn, rfl⟩ := Option.map_eq_some_iff.mp h
      exact ⟨[], c :: rest, .of_natural? (by simp) hn rfl (by simp)⟩
  · rintro ⟨sign, digits, rfl, hsign, hne, hd, rfl⟩
    have hn := natural?_eq_some_iff.mpr ⟨hne, hd, ofDigits_eq digits⟩
    rcases hsign with rfl | rfl | rfl
    · obtain ⟨c, rest, rfl⟩ := List.exists_cons_of_ne_nil hne
      have hc := hd c (by simp)
      have hm : c ≠ '-' := by
        rintro rfl
        simp at hc
      have hp : c ≠ '+' := by
        rintro rfl
        simp at hc
      rw [List.nil_append, signed?_cons rest hm hp, hn]
      rfl
    · rw [List.singleton_append, signed?_plus, hn]
      rfl
    · rw [List.singleton_append, signed?_minus, hn]
      rfl

namespace SignedText

variable {cs sign digits : List Char} {v : Int}

lemma nonpos (h : SignedText cs v sign digits) (hsign : sign = ['-']) : v ≤ 0 := by
  rw [h.value_eq, if_pos hsign]
  omega

lemma nonneg (h : SignedText cs v sign digits) (hsign : sign ≠ ['-']) : 0 ≤ v := by
  rw [h.value_eq, if_neg hsign]
  omega

lemma notMem (h : SignedText cs v sign digits) {c : Char} (hdigit : c.isDigit = false)
    (hsign : c ≠ '+' ∧ c ≠ '-') : c ∉ cs := by
  rw [h.text_eq, List.mem_append, not_or]
  refine ⟨?_, fun hc => ?_⟩
  · rcases h.sign_mem with rfl | rfl | rfl <;> simp [hsign]
  · rw [h.isDigit c hc] at hdigit
    cases hdigit

lemma isDigit_of_mem_getLast? (h : SignedText cs v sign digits) {c : Char} (hc : c ∈ cs.getLast?) :
    c.isDigit = true := by
  rw [h.text_eq, List.getLast?_append, List.getLast?_eq_some_getLast h.digits_ne] at hc
  obtain rfl := Option.mem_some_iff.mp hc
  exact h.isDigit _ (List.getLast_mem h.digits_ne)

lemma unsigned?_eq (h : SignedText cs v sign digits) :
    unsigned? cs = if sign = ['-'] then none else some v.toNat := by
  obtain ⟨rfl, hsign, hne, hd, rfl⟩ := h
  have hn : natural? digits = some (Nat.ofDigitChars 10 digits 0) :=
    natural?_eq_some_iff.mpr ⟨hne, hd, ofDigits_eq digits⟩
  rcases hsign with rfl | rfl | rfl
  · obtain ⟨c, rest, rfl⟩ := List.exists_cons_of_ne_nil hne
    have hp : c ≠ '+' := by
      rintro rfl
      simpa using hd '+' (by simp)
    rw [List.nil_append, unsigned?_cons rest hp, hn]
    simp
  · rw [List.singleton_append, unsigned?_plus, hn]
    simp
  · rw [List.singleton_append, unsigned?_cons digits (by decide)]
    simp [natural?]

end SignedText

lemma signedText_digits (n : Nat) : SignedText (digits n) n [] (digits n) where
  text_eq := rfl
  sign_mem := Or.inl rfl
  digits_ne := digits_ne_nil n
  isDigit _ := isDigit_of_mem_digits
  value_eq := by
    rw [if_neg (by simp), ← ofDigits_eq, ofDigits_digits]

lemma int64?_eq_some_iff {cs : List Char} {v : Int} :
    int64? cs = some v ↔
      (∃ sign digits, SignedText cs v sign digits) ∧ -2 ^ 63 ≤ v ∧ v ≤ 2 ^ 63 - 1 := by
  rw [int64?, Option.filter_eq_some_iff, signed?_eq_some_iff]
  have hfits : fitsInt64 v = true ↔ int64Min ≤ v ∧ v ≤ int64Max := by
    simp [fitsInt64]
  have hmin : int64Min = -2 ^ 63 := by decide
  have hmax : int64Max = 2 ^ 63 - 1 := by decide
  rw [hfits, hmin, hmax]

end ErpGateway.Decimal
