import ErpGateway.Gate.Admission
import ErpGateway.Proofs.Gate.Verdict
import Mathlib.Algebra.Ring.Parity

/-! The delimiters of the database's dialect. Besides literals it has identifiers in brackets and in
double quotes, which the gate does not know: a quote in one of them turns code into literal and
literal into code for the rest of the text, as far as the gate can see. -/

namespace ErpGateway.Gate

open Text

inductive Region where
  | top | literal | bracketed | quoted
deriving DecidableEq

namespace Region

def closing? : Region → Option Char
  | top => none
  | literal => some '\''
  | bracketed => some ']'
  | quoted => some '"'

def openedBy (c : Char) : Region :=
  if c = '\'' then literal
  else if c = '[' then bracketed
  else if c = '"' then quoted
  else top

def isIdentifier : Region → Bool
  | bracketed | quoted => true
  | top | literal => false

end Region

def regions : Region → List Char → List Region
  | _, [] => []
  | .top, c :: rest => .top :: regions (.openedBy c) rest
  | r, [_] => [r]
  | r, c :: d :: rest =>
    if r.closing? = some c then
      if d = c then r :: r :: regions r rest else r :: regions .top (d :: rest)
    else r :: regions r (d :: rest)

def regionAt? (t : List Char) (i : Nat) : Option Region :=
  (regions .top t)[i]?

def SeparatorAt (t : List Char) (i : Nat) : Prop :=
  t[i]? = some ';' ∧ regionAt? t i = some .top

instance (t : List Char) (i : Nat) : Decidable (SeparatorAt t i) :=
  inferInstanceAs (Decidable (_ ∧ _))

def identifierQuotesIn (marked : List (Region × Char)) (i : Nat) : Nat :=
  (marked.take i).countP fun p => p.1.isIdentifier && p.2 == '\''

def identifierQuotes (t : List Char) (i : Nat) : Nat :=
  identifierQuotesIn ((regions .top t).zip t) i

@[simp] lemma identifierQuotesIn_zero (marked : List (Region × Char)) :
    identifierQuotesIn marked 0 = 0 := by
  simp [identifierQuotesIn]

@[simp] lemma identifierQuotesIn_cons_succ (r : Region) (c : Char) (marked : List (Region × Char))
    (i : Nat) : identifierQuotesIn ((r, c) :: marked) (i + 1) =
      identifierQuotesIn marked i + if r.isIdentifier = true ∧ c = '\'' then 1 else 0 := by
  simp [identifierQuotesIn, List.countP_cons]

def Region.openQuotes (r : Region) : Nat :=
  if r = .literal then 1 else 0

lemma openQuotes_openedBy (c : Char) :
    (Region.openedBy c).openQuotes = if c = '\'' then 1 else 0 := by
  unfold Region.openedBy Region.openQuotes
  split_ifs <;> simp_all

lemma closing?_eq_some {r : Region} {c : Char} (h : r.closing? = some c) :
    (c = '\'' ↔ r = .literal) ∧ ¬ (r.isIdentifier = true ∧ c = '\'') := by
  cases r <;> simp [Region.closing?, Region.isIdentifier] at h ⊢ <;> subst h <;> decide

lemma isIdentifier_of_closing?_ne {r : Region} (ht : r ≠ .top) (h : r.closing? ≠ some '\'') :
    r.isIdentifier = true := by
  cases r <;> simp_all [Region.closing?, Region.isIdentifier]

lemma quotesBefore_parity (r : Region) (t : List Char) (i : Nat) (c : Char) (q : Region)
    (hc : t[i]? = some c) (hn : c ≠ '\'') (hq : (regions r t)[i]? = some q) :
    (quotesBefore t i + r.openQuotes) % 2 =
      (identifierQuotesIn ((regions r t).zip t) i + q.openQuotes) % 2 := by
  fun_induction regions r t generalizing i with
  | case1 => simp at hc
  | case2 d rest ih =>
    cases i with
    | zero =>
      obtain rfl : Region.top = q := by simpa using hq
      rfl
    | succ i =>
      have h := ih i (by simpa using hc) (by simpa using hq)
      rw [openQuotes_openedBy] at h
      simpa [Region.openQuotes, Region.isIdentifier] using h
  | case3 r d ht =>
    obtain ⟨hi, -⟩ := List.getElem?_eq_some_iff.mp hc
    obtain rfl : i = 0 := by simpa using hi
    obtain rfl : r = q := by simpa using hq
    simp
  | case4 r d rest ht hd ih =>
    obtain ⟨hl, hid⟩ := closing?_eq_some hd
    match i with
    | 0 =>
      obtain rfl : r = q := by simpa using hq
      simp
    | 1 =>
      obtain rfl : r = q := by simpa using hq
      obtain rfl : d = c := by simpa using hc
      simp [hn]
    | i + 2 =>
      have h := ih i (by simpa using hc) (by simpa using hq)
      simp only [quotesBefore_cons_succ, List.zip_cons_cons, identifierQuotesIn_cons_succ, hid,
        if_false]
      omega
  | case5 r d e rest ht hd he ih =>
    obtain ⟨hl, hid⟩ := closing?_eq_some hd
    cases i with
    | zero =>
      obtain rfl : r = q := by simpa using hq
      simp
    | succ i =>
      have h := ih i (by simpa using hc) (by simpa using hq)
      have ho : r.openQuotes = if d = '\'' then 1 else 0 := by simp only [Region.openQuotes, hl]
      have htop : Region.top.openQuotes = 0 := rfl
      simp only [quotesBefore_cons_succ, List.zip_cons_cons, identifierQuotesIn_cons_succ, hid,
        if_false]
      omega
  | case6 r d e rest ht hd ih =>
    cases i with
    | zero =>
      obtain rfl : r = q := by simpa using hq
      simp
    | succ i =>
      have h := ih i (by simpa using hc) (by simpa using hq)
      by_cases hdq : d = '\''
      · have hid := isIdentifier_of_closing?_ne (r := r) (by simpa using ht) (hdq ▸ hd)
        simp only [quotesBefore_cons_succ, List.zip_cons_cons, identifierQuotesIn_cons_succ, hdq,
          hid, and_self, if_true]
        omega
      · simpa [hdq] using h

lemma codeAt?_separator_iff {t : List Char} {i : Nat} {q : Region} (hc : t[i]? = some ';')
    (hq : regionAt? t i = some q) :
    codeAt? t i = some ';' ↔ (Odd (identifierQuotes t i) ↔ q = .literal) := by
  have hp := quotesBefore_parity .top t i ';' q hc (by decide) hq
  have htop : Region.top.openQuotes = 0 := rfl
  rw [codeAt?_eq_some, Nat.even_iff, Nat.odd_iff, identifierQuotes]
  simp only [hc, true_and, ne_eq, Char.reduceEq, not_false_eq_true]
  by_cases hl : q = .literal
  · have ho : q.openQuotes = 1 := if_pos hl
    simp only [hl, iff_true]
    omega
  · have ho : q.openQuotes = 0 := if_neg hl
    simp only [hl, iff_false]
    omega

lemma length_regions (r : Region) (t : List Char) : (regions r t).length = t.length := by
  fun_induction regions r t <;> simp_all

lemma exists_regionAt? {t : List Char} {i : Nat} {c : Char} (hc : t[i]? = some c) :
    ∃ q, regionAt? t i = some q := by
  obtain ⟨hi, -⟩ := List.getElem?_eq_some_iff.mp hc
  rw [← length_regions .top t] at hi
  exact ⟨_, List.getElem?_eq_getElem hi⟩

def Exposed (t : List Char) (i : Nat) : Prop :=
  t[i]? = some ';' ∧ (Odd (identifierQuotes t i) ↔ regionAt? t i = some .literal)

lemma exposed_iff (t : List Char) (i : Nat) : Exposed t i ↔ codeAt? t i = some ';' := by
  constructor
  · rintro ⟨hc, ho⟩
    obtain ⟨q, hq⟩ := exists_regionAt? hc
    rw [codeAt?_separator_iff hc hq, ho, hq, Option.some.injEq]
  · intro h
    obtain ⟨hc, -, -⟩ := codeAt?_eq_some.mp h
    obtain ⟨q, hq⟩ := exists_regionAt? hc
    rw [codeAt?_separator_iff hc hq] at h
    exact ⟨hc, by rw [hq, Option.some.injEq, h]⟩

lemma exposed_of_separatorAt {t : List Char} {i : Nat} (h : SeparatorAt t i)
    (he : Even (identifierQuotes t i)) : Exposed t i := by
  obtain ⟨hc, ht⟩ := h
  refine ⟨hc, ?_⟩
  rw [ht, ← Nat.not_even_iff_odd]
  simp [he]

lemma hasSeparator_trim_iff (t : List Char) :
    HasSeparator (trim t) ↔ ∃ i, codeAt? t i = some ';' := by
  obtain ⟨l, r, ht, hl, hr⟩ := exists_append_trim_append t
  have hq : Even (l.count '\'') := by
    have h0 : l.count '\'' = 0 := List.count_eq_zero.mpr fun h => absurd (hl _ h) (by decide)
    rw [h0]
    exact Even.zero
  have hb : ∀ c ∈ l ++ r, c ≠ ';' := by
    rintro c hc rfl
    exact absurd ((List.mem_append.mp hc).elim (hl _) (hr _)) (by decide)
  rw [List.append_assoc] at ht
  constructor
  · rintro ⟨i, hi, h⟩
    refine ⟨l.length + i, ?_⟩
    rw [ht, codeAt?_append_right _ _ hq, codeAt?_append_left _ hi]
    exact h
  · rintro ⟨i, h⟩
    rw [ht] at h
    obtain ⟨hc, -, -⟩ := codeAt?_eq_some.mp h
    have hi : l.length ≤ i := by
      by_contra hlt
      rw [List.getElem?_append_left (Nat.lt_of_not_le hlt)] at hc
      exact hb _ (List.mem_append_left _ (List.mem_of_getElem? hc)) rfl
    obtain ⟨k, rfl⟩ := Nat.exists_eq_add_of_le hi
    rw [codeAt?_append_right _ _ hq] at h
    have hk : k < (trim t).length := by
      by_contra hge
      obtain ⟨hc', -, -⟩ := codeAt?_eq_some.mp h
      rw [List.getElem?_append_right (Nat.le_of_not_lt hge)] at hc'
      exact hb _ (List.mem_append_right _ (List.mem_of_getElem? hc')) rfl
    exact ⟨k, hk, by rwa [codeAt?_append_left _ hk] at h⟩

lemma admission_of_check {query : Query} {rejection : Rejection}
    (h : check query.text = .error rejection) : admission query = .error rejection := by
  rw [admission, h]
  rfl

lemma admission_without_parameters {text : String} (h : check text = .ok ()) :
    admission ⟨text, []⟩ = .ok ⟨Text.trimmed text, []⟩ := by
  have hb (controls : List String) : bindParameters [] controls = .ok [] := by
    simp [bindParameters, Keyed.sorted, bindInOrder]
  rw [admission, h, hb]
  rfl

/-- The gate refuses a text with a separator when an even number of quotes stands inside identifiers
before it. It lets one through exactly when no separator is exposed and no other check fails. -/
theorem check_of_separatorAt (query : String) (i : Nat) (h : SeparatorAt query.toList i) :
    (Even (identifierQuotes query.toList i) →
      check query = .error .multipleStatements ∧
        ∀ parameters, admission ⟨query, parameters⟩ = .error .multipleStatements) ∧
    (check query ≠ .ok () ↔
      (∃ j, Exposed query.toList j) ∨ HasCommentMark (trim query.toList) ∨
        ¬ BeginsReadOnly (trim query.toList) ∨ HasMutatingWord (trim query.toList)) := by
  have hne : trim query.toList ≠ [] :=
    trim_ne_nil_of_mem (List.mem_of_getElem? h.1) (by decide)
  have hs : HasSeparator (trim query.toList) ↔ ∃ j, Exposed query.toList j := by
    simp only [hasSeparator_trim_iff, exposed_iff]
  rw [check_of_trim_ne_nil hne]
  constructor
  · intro he
    have hv : verdict (trim query.toList) = .error .multipleStatements :=
      (verdict_eq_multipleStatements_iff hne).mpr (hs.mpr ⟨i, exposed_of_separatorAt h he⟩)
    exact ⟨hv, fun _ => admission_of_check ((check_of_trim_ne_nil hne).trans hv)⟩
  · rw [Ne, verdict_eq_ok_iff hne, hs]
    tauto

theorem check_of_separatorAt_paired_quotes :
    SeparatorAt "SELECT '[' AS [it''s]; SELECT 2".toList 21 ∧
      check "SELECT '[' AS [it''s]; SELECT 2" = .error .multipleStatements :=
  ⟨by decide, ((check_of_separatorAt _ 21 (by decide)).1 (by decide)).1⟩

theorem separator_hidden_by_quote_in_identifier :
    SeparatorAt "SELECT [']; DROP TABLE Items".toList 10 ∧
      check "SELECT [']; DROP TABLE Items" = .ok () ∧
        admission ⟨"SELECT [']; DROP TABLE Items", []⟩ =
          .ok ⟨"SELECT [']; DROP TABLE Items", []⟩ := by
  have hc : check "SELECT [']; DROP TABLE Items" = .ok () := by decide
  exact ⟨by decide, hc, admission_without_parameters hc⟩

end ErpGateway.Gate
