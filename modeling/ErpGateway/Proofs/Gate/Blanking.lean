import ErpGateway.Proofs.Gate.Literals
import Mathlib.Algebra.Ring.Parity

/-! Blanking, position by position. A reader takes a doubled quote inside a literal as one pair; the
quotes before a position tell where it comes to, so that parity alone finds the pairs. Blanking keeps the
code and the delimiters, blanks out everything else, and finds nothing more to blank in what it gives. -/

namespace ErpGateway.Gate

inductive ReadsTo (t : List Char) : Nat → Bool → Prop
  | start : ReadsTo t 0 false
  | outside {i : Nat} {c : Char} : ReadsTo t i false → t[i]? = some c →
      ReadsTo t (i + 1) (c == '\'')
  | content {i : Nat} {c : Char} : ReadsTo t i true → t[i]? = some c → c ≠ '\'' →
      ReadsTo t (i + 1) true
  | pair {i : Nat} : ReadsTo t i true → t[i]? = some '\'' → t[i + 1]? = some '\'' →
      ReadsTo t (i + 2) true
  | closing {i : Nat} : ReadsTo t i true → t[i]? = some '\'' → t[i + 1]? ≠ some '\'' →
      ReadsTo t (i + 1) false

structure PairAt (t : List Char) (i : Nat) : Prop where
  readsTo : ReadsTo t i true
  first : t[i]? = some '\''
  second : t[i + 1]? = some '\''

def InPair (t : List Char) (i : Nat) : Prop :=
  PairAt t i ∨ ∃ j, i = j + 1 ∧ PairAt t j

section Reading

variable {t : List Char} {i : Nat} {inside : Bool} {c : Char}

lemma ReadsTo.inside_iff (h : ReadsTo t i inside) : inside = true ↔ Odd (quotesBefore t i) := by
  induction h with
  | start => simp
  | @outside i c _ hc ih =>
    have heven : Even (quotesBefore t i) := by
      rw [← Nat.not_odd_iff_even, ← ih]
      simp
    rw [quotesBefore_succ hc]
    by_cases hq : c = '\'' <;> simp [hq, heven]
  | content _ hc hq ih => rwa [quotesBefore_succ hc, if_neg hq]
  | pair _ hfirst hsecond ih =>
    rw [quotesBefore_succ hsecond, quotesBefore_succ hfirst]
    simpa [parity_simps] using ih
  | closing _ hc _ ih =>
    rw [quotesBefore_succ hc, if_pos rfl, Nat.odd_add_one]
    simp [← ih]

lemma readsTo_or_pairAt (h : i ≤ t.length) :
    (∃ inside, ReadsTo t i inside) ∨ ∃ j, i = j + 1 ∧ PairAt t j := by
  induction i with
  | zero => exact Or.inl ⟨false, .start⟩
  | succ i ih =>
    have hc : t[i]? = some t[i] := List.getElem?_eq_getElem h
    rcases ih (Nat.le_of_succ_le h) with ⟨inside, hi⟩ | ⟨j, rfl, hj⟩
    · cases inside with
      | false => exact Or.inl ⟨_, hi.outside hc⟩
      | true =>
        by_cases hq : t[i] = '\''
        · rw [hq] at hc
          by_cases hn : t[i + 1]? = some '\''
          · exact Or.inr ⟨i, rfl, hi, hc, hn⟩
          · exact Or.inl ⟨_, hi.closing hc hn⟩
        · exact Or.inl ⟨_, hi.content hc hq⟩
    · -- the position before is the second one of a pair, and the pair ends here
      exact Or.inl ⟨_, hj.readsTo.pair hj.first hj.second⟩

lemma exists_readsTo (hc : t[i]? = some c) (hsecond : ¬ ∃ j, i = j + 1 ∧ PairAt t j) :
    ∃ inside, ReadsTo t i inside := by
  have hi := (List.getElem?_eq_some_iff.mp hc).1
  exact (readsTo_or_pairAt (Nat.le_of_lt hi)).resolve_right hsecond

lemma ReadsTo.even (h : ReadsTo t i false) : Even (quotesBefore t i) := by
  rw [← Nat.not_odd_iff_even, ← h.inside_iff]
  simp

lemma PairAt.even_succ (h : PairAt t i) : Even (quotesBefore t (i + 1)) := by
  have hodd := h.readsTo.inside_iff.mp rfl
  rw [quotesBefore_succ h.first, if_pos rfl, Nat.even_add_one]
  simpa using hodd

lemma readsTo_true_iff (h : t[i]? = some c) : ReadsTo t i true ↔ Odd (quotesBefore t i) := by
  refine ⟨fun hi => hi.inside_iff.mp rfl, fun hodd => ?_⟩
  have hsecond : ¬ ∃ j, i = j + 1 ∧ PairAt t j := by
    rintro ⟨j, rfl, hj⟩
    exact Nat.not_even_iff_odd.mpr hodd hj.even_succ
  obtain ⟨inside, hi⟩ := exists_readsTo h hsecond
  obtain rfl := hi.inside_iff.mpr hodd
  exact hi

lemma pairAt_iff :
    PairAt t i ↔ t[i]? = some '\'' ∧ t[i + 1]? = some '\'' ∧ Odd (quotesBefore t i) := by
  constructor
  · rintro ⟨hi, hfirst, hsecond⟩
    exact ⟨hfirst, hsecond, (readsTo_true_iff hfirst).mp hi⟩
  · rintro ⟨hfirst, hsecond, hodd⟩
    exact ⟨(readsTo_true_iff hfirst).mpr hodd, hfirst, hsecond⟩

end Reading

instance (t : List Char) (i : Nat) : Decidable (PairAt t i) :=
  decidable_of_iff _ pairAt_iff.symm

instance (t : List Char) : (i : Nat) → Decidable (InPair t i)
  | 0 => decidable_of_iff (PairAt t 0) (by simp [InPair])
  | i + 1 => decidable_of_iff (PairAt t (i + 1) ∨ PairAt t i) (by simp [InPair])

section Output

variable {t rest : List Char} {i : Nat} {inside : Bool} {c : Char}

lemma blankLiterals_content (hc : c ≠ '\'') :
    blankLiterals true (c :: rest) = ' ' :: blankLiterals true rest := by
  rw [blankLiterals]
  · rintro _ rfl _
    exact hc rfl
  · exact hc

lemma blankLiterals_closing (h : rest.head? ≠ some '\'') :
    blankLiterals true ('\'' :: rest) = '\'' :: blankLiterals false rest := by
  rw [blankLiterals]
  rintro _ rfl
  exact h rfl

lemma drop_eq_cons (h : t[i]? = some c) : t.drop i = c :: t.drop (i + 1) := by
  obtain ⟨hi, rfl⟩ := List.getElem?_eq_some_iff.mp h
  exact List.drop_eq_getElem_cons hi

lemma ReadsTo.drop_code (h : ReadsTo t i inside) :
    (code t).drop i = blankLiterals inside (t.drop i) := by
  induction h with
  | start => rfl
  | outside _ hc ih =>
    rw [← List.drop_drop, ih, drop_eq_cons hc]
    rfl
  | content _ hc hq ih =>
    rw [← List.drop_drop, ih, drop_eq_cons hc, blankLiterals_content hq]
    rfl
  | pair _ hfirst hsecond ih =>
    rw [← List.drop_drop, ih, drop_eq_cons hfirst, drop_eq_cons hsecond]
    rfl
  | @closing i _ hc hn ih =>
    rw [← List.drop_drop, ih, drop_eq_cons hc, blankLiterals_closing (by rwa [List.head?_drop])]
    rfl

lemma PairAt.drop_code (h : PairAt t i) :
    (code t).drop i = ' ' :: ' ' :: blankLiterals true (t.drop (i + 2)) := by
  rw [h.readsTo.drop_code, drop_eq_cons h.first, drop_eq_cons h.second]
  rfl

lemma getElem?_code_of_inPair (h : InPair t i) : (code t)[i]? = some ' ' := by
  rcases h with h | ⟨j, rfl, h⟩
  · rw [← List.head?_drop, h.drop_code]
    rfl
  · rw [← List.head?_drop, ← List.drop_drop, h.drop_code]
    rfl

lemma getElem?_code_of_not_inPair (hc : t[i]? = some '\'') (h : ¬ InPair t i) :
    (code t)[i]? = some '\'' := by
  obtain ⟨hi, hj⟩ := not_or.mp h
  obtain ⟨inside, hread⟩ := exists_readsTo hc hj
  rw [← List.head?_drop, hread.drop_code, drop_eq_cons hc]
  cases inside with
  | false => rfl
  | true =>
    have hn : t[i + 1]? ≠ some '\'' := fun hn => hi ⟨hread, hc, hn⟩
    rw [blankLiterals_closing (by rwa [List.head?_drop])]
    rfl

lemma getElem?_code_of_ne_quote (hc : t[i]? = some c) (hq : c ≠ '\'') :
    (code t)[i]? = some (if Even (quotesBefore t i) then c else ' ') := by
  have hsecond : ¬ ∃ j, i = j + 1 ∧ PairAt t j := by
    rintro ⟨j, rfl, hj⟩
    exact hq (Option.some.inj (hc.symm.trans hj.second))
  obtain ⟨inside, hread⟩ := exists_readsTo hc hsecond
  rw [← List.head?_drop, hread.drop_code, drop_eq_cons hc]
  cases inside with
  | false =>
    rw [if_pos hread.even]
    rfl
  | true =>
    rw [if_neg (Nat.not_even_iff_odd.mpr (hread.inside_iff.mp rfl)), blankLiterals_content hq]
    rfl

lemma getElem?_code (hq : c ≠ '\'') (hb : c ≠ ' ') :
    (code t)[i]? = some c ↔ codeAt? t i = some c := by
  rw [codeAt?_eq_some]
  cases ht : t[i]? with
  | none =>
    have hl : (code t).length ≤ i := by
      rw [code, length_blankLiterals]
      exact List.getElem?_eq_none_iff.mp ht
    simp [List.getElem?_eq_none hl]
  | some d =>
    by_cases hd : d = '\''
    · subst hd
      have hs : ('\'' : Char) ≠ c := Ne.symm hq
      by_cases hp : InPair t i
      · simp [getElem?_code_of_inPair hp, hs, Ne.symm hb]
      · simp [getElem?_code_of_not_inPair ht hp, hs]
    · rw [getElem?_code_of_ne_quote ht hd]
      by_cases he : Even (quotesBefore t i)
      · simp only [he, if_true, Option.some.injEq, and_true]
        constructor
        · rintro rfl
          exact ⟨rfl, hd⟩
        · exact And.left
      · simp [he, Ne.symm hb]

lemma head?_blankLiterals_outside (t : List Char) : (blankLiterals false t).head? = t.head? := by
  cases t <;> rfl

lemma blankLiterals_blankLiterals (inside : Bool) (t : List Char) :
    blankLiterals inside (blankLiterals inside t) = blankLiterals inside t := by
  fun_induction blankLiterals inside t with
  | case1 inside => cases inside <;> rfl
  | case2 c rest ih => rw [blankLiterals, ih]
  | case3 rest ih => rw [blankLiterals_content (by decide), blankLiterals_content (by decide), ih]
  | case4 rest hrest ih =>
    -- what follows a literal is kept, so the quote that ends it is not doubled
    have hhead : (blankLiterals false rest).head? ≠ some '\'' := by
      rw [head?_blankLiterals_outside]
      cases rest with
      | nil => simp
      | cons d rest =>
        rintro h
        obtain rfl := Option.some.inj h
        exact hrest rest rfl
    rw [blankLiterals_closing hhead, ih]
  | case5 c rest _ hc ih => rw [blankLiterals_content (by decide), ih]

end Output

theorem code_by_position (t : List Char) :
    (code t).length = t.length ∧
    (∀ i c, t[i]? = some c → c ≠ '\'' →
      (code t)[i]? = some (if Even (quotesBefore t i) then c else ' ')) ∧
    (∀ i, t[i]? = some '\'' → (code t)[i]? = some (if InPair t i then ' ' else '\'')) ∧
    code (code t) = code t := by
  refine ⟨length_blankLiterals false t, fun i c hc hq => ?_, fun i hc => ?_,
    blankLiterals_blankLiterals false t⟩
  · exact getElem?_code_of_ne_quote hc hq
  · by_cases h : InPair t i
    · rw [if_pos h]
      exact getElem?_code_of_inPair h
    · rw [if_neg h]
      exact getElem?_code_of_not_inPair hc h

theorem code_by_position_runs :
    (code "x'''y'''z".toList)[2]? = some ' ' ∧ (code "x'''y'''z".toList)[4]? = some ' ' ∧
      (code "x'''y'''z".toList)[7]? = some '\'' ∧
      (code "x'''y'''z".toList)[8]? = some 'z' := by
  obtain ⟨-, hother, hquote, -⟩ := code_by_position "x'''y'''z".toList
  exact ⟨(hquote 2 rfl).trans (by decide), (hother 4 'y' rfl (by decide)).trans (by decide),
    (hquote 7 rfl).trans (by decide), (hother 8 'z' rfl (by decide)).trans (by decide)⟩

end ErpGateway.Gate
