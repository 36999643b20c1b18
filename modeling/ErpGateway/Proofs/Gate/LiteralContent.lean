import ErpGateway.Proofs.Gate.Verdict

namespace ErpGateway.Gate

open Text

/-- `At i j` pairs positions of two texts so that runs of code characters of the first are found in
the second, with the same ends. -/
structure Alignment (t u : List Char) (At : Nat → Nat → Prop) : Prop where
  same : ∀ i j, At i j → codeAt? t i = codeAt? u j
  next : ∀ i j c, At i j → codeAt? t i = some c → At (i + 1) (j + 1)
  covers : ∀ i c, codeAt? t i = some c → ∃ j, At i j
  start : ∀ i j c, At i j → codeAt? t i = some c → (i = 0 ∨ wordCodeAt t (i - 1) = false) →
    j = 0 ∨ wordCodeAt u (j - 1) = false

namespace Alignment

variable {t u : List Char} {At : Nat → Nat → Prop}

lemma spells_next (h : Alignment t u At) (same : Char → Char → Bool) (word : List Char) (i j : Nat)
    (ha : At i j) (hs : spells same t word i = true) :
    spells same u word j = true ∧ At (i + word.length) (j + word.length) := by
  induction word generalizing i j with
  | nil => exact ⟨rfl, ha⟩
  | cons letter word ih =>
    rw [spells, Bool.and_eq_true, Option.any_eq_true] at hs
    obtain ⟨⟨c, hc, hl⟩, hs⟩ := hs
    obtain ⟨hu, hn⟩ := ih (i + 1) (j + 1) (h.next i j c ha hc) hs
    have hj : codeAt? u j = some c := (h.same i j ha).symm.trans hc
    refine ⟨by simp [spells, hj, hl, hu], ?_⟩
    simpa only [List.length_cons, Nat.add_assoc, Nat.add_comm 1] using hn

lemma hasSeparator (h : Alignment t u At) (hs : HasSeparator t) : HasSeparator u := by
  obtain ⟨i, -, hi⟩ := hs
  obtain ⟨j, ha⟩ := h.covers i ';' hi
  have hj : codeAt? u j = some ';' := (h.same i j ha).symm.trans hi
  exact ⟨j, lt_of_codeAt? hj, hj⟩

lemma exists_spells (h : Alignment t u At) {same : Char → Char → Bool} {word : List Char}
    (hw : word ≠ []) {i : Nat} (hs : spells same t word i = true) :
    ∃ j c, At i j ∧ codeAt? t i = some c ∧ spells same u word j = true ∧
      At (i + word.length) (j + word.length) := by
  obtain ⟨letter, word, rfl⟩ := List.exists_cons_of_ne_nil hw
  have hc := hs
  rw [spells, Bool.and_eq_true, Option.any_eq_true] at hc
  obtain ⟨⟨c, hc, -⟩, -⟩ := hc
  obtain ⟨j, ha⟩ := h.covers i c hc
  obtain ⟨hu, hn⟩ := h.spells_next same _ i j ha hs
  exact ⟨j, c, ha, hc, hu, hn⟩

lemma hasCommentMark (h : Alignment t u At) (hm : HasCommentMark t) : HasCommentMark u := by
  obtain ⟨mark, hmark, i, -, hs⟩ := hm
  have hne := (plain_of_mem_commentMarks mark hmark).1
  obtain ⟨j, -, -, -, hu, -⟩ := h.exists_spells hne hs
  exact ⟨mark, hmark, j, lt_of_spells hne hu, hu⟩

lemma hasMutatingWord (h : Alignment t u At) (hm : HasMutatingWord t) : HasMutatingWord u := by
  obtain ⟨word, hword, i, -, hs, hb, he⟩ := hm
  have hne := (plain_of_mem_mutatingWords word hword).1
  obtain ⟨j, c, ha, hc, hu, hn⟩ := h.exists_spells hne hs
  refine ⟨word, hword, j, lt_of_spells hne hu, hu, h.start i j c ha hc hb, ?_⟩
  rw [wordCodeAt, ← h.same _ _ hn]
  exact he

end Alignment

def quotesPaired : List Char → Bool
  | [] => true
  | '\'' :: '\'' :: rest => quotesPaired rest
  | c :: rest => c != '\'' && quotesPaired rest

lemma even_count_of_quotesPaired {content : List Char} (h : quotesPaired content = true) :
    Even (content.count '\'') := by
  fun_induction quotesPaired content with
  | case1 => simp
  | case2 rest ih => simpa [parity_simps] using ih h
  | case3 d rest _ ih =>
    rw [Bool.and_eq_true, bne_iff_ne] at h
    simpa [List.count_cons, h.1] using ih h.2

lemma even_quotesBefore_of_quotesPaired {content : List Char} (h : quotesPaired content = true)
    {i : Nat} {d : Char} (hd : content[i]? = some d) (hq : d ≠ '\'') :
    Even (quotesBefore content i) := by
  fun_induction quotesPaired content generalizing i with
  | case1 => simp at hd
  | case2 rest ih =>
    match i with
    | 0 | 1 => simp at hd; exact absurd hd.symm hq
    | i + 2 => simpa [parity_simps] using ih h (by simpa using hd)
  | case3 e rest _ ih =>
    rw [Bool.and_eq_true, bne_iff_ne] at h
    cases i with
    | zero => simp
    | succ i => simpa [h.1] using ih h.2 (by simpa using hd)

def literal (content : List Char) : List Char :=
  '\'' :: content ++ ['\'']

lemma even_count_literal {c : List Char} (h : quotesPaired c = true) :
    Even ((literal c).count '\'') := by
  simpa [literal, parity_simps] using even_count_of_quotesPaired h

lemma codeAt?_literal {c : List Char} (h : quotesPaired c = true) (i : Nat) :
    codeAt? (literal c) i = none := by
  rw [Option.eq_none_iff_forall_ne_some]
  intro d hd
  obtain ⟨hi, hq, he⟩ := codeAt?_eq_some.mp hd
  cases i with
  | zero => simp [literal] at hi; exact hq hi.symm
  | succ i =>
    rw [literal, List.cons_append, List.getElem?_cons_succ] at hi
    rw [literal, List.cons_append, quotesBefore_cons_succ, if_pos rfl] at he
    by_cases hl : i < c.length
    · rw [List.getElem?_append_left hl] at hi
      rw [quotesBefore_append_left _ (Nat.le_of_lt hl), Nat.even_add_one] at he
      exact he (even_quotesBefore_of_quotesPaired h hi hq)
    · rw [List.getElem?_append_right (Nat.le_of_not_lt hl), List.getElem?_singleton] at hi
      split at hi
      · exact hq (Option.some.inj hi).symm
      · simp at hi

lemma length_literal (c : List Char) : (literal c).length = c.length + 2 := by
  simp [literal]

section Around

variable {p c c' : List Char} (s : List Char)

lemma codeAt?_before_literal {i : Nat} (hi : i < p.length) :
    codeAt? (p ++ literal c ++ s) i = codeAt? p i := by
  rw [List.append_assoc, codeAt?_append_left _ hi]

lemma codeAt?_in_literal (hp : Even (p.count '\'')) (hc : quotesPaired c = true) {i : Nat}
    (hi : i < (literal c).length) : codeAt? (p ++ literal c ++ s) (p.length + i) = none := by
  rw [List.append_assoc, codeAt?_append_right _ _ hp, codeAt?_append_left _ hi, codeAt?_literal hc]

lemma codeAt?_after_literal (hp : Even (p.count '\'')) (hc : quotesPaired c = true) (k : Nat) :
    codeAt? (p ++ literal c ++ s) (p.length + (literal c).length + k) = codeAt? s k := by
  have he : Even ((p ++ literal c).count '\'') := by
    rw [List.count_append]
    exact hp.add (even_count_literal hc)
  rw [← List.length_append, codeAt?_append_right _ _ he]

def Aligned (p c c' : List Char) (i j : Nat) : Prop :=
  (i ≤ p.length ∧ j = i) ∨
    ∃ k, i = p.length + (literal c).length + k ∧ j = p.length + (literal c').length + k

lemma codeAt?_aligned (hp : Even (p.count '\'')) (hc : quotesPaired c = true)
    (hc' : quotesPaired c' = true) {i j : Nat} (h : Aligned p c c' i j) :
    codeAt? (p ++ literal c ++ s) i = codeAt? (p ++ literal c' ++ s) j := by
  rcases h with ⟨hi, rfl⟩ | ⟨k, rfl, rfl⟩
  · rcases Nat.lt_or_eq_of_le hi with hi | rfl
    · rw [codeAt?_before_literal s hi, codeAt?_before_literal s hi]
    · have hl : 0 < (literal c).length := by rw [length_literal]; omega
      have hl' : 0 < (literal c').length := by rw [length_literal]; omega
      exact (codeAt?_in_literal s hp hc hl).trans (codeAt?_in_literal s hp hc' hl').symm
  · rw [codeAt?_after_literal s hp hc, codeAt?_after_literal s hp hc']

lemma before_or_after_literal (hp : Even (p.count '\'')) (hc : quotesPaired c = true) {i : Nat}
    {d : Char} (hd : codeAt? (p ++ literal c ++ s) i = some d) :
    i < p.length ∨ ∃ k, i = p.length + (literal c).length + k := by
  by_cases hi : i < p.length
  · exact Or.inl hi
  by_cases hl : i < p.length + (literal c).length
  · have hn := codeAt?_in_literal s hp hc (i := i - p.length) (by omega)
    rw [Nat.add_sub_cancel' (Nat.le_of_not_lt hi), hd] at hn
    cases hn
  · exact Or.inr ⟨i - (p.length + (literal c).length), by omega⟩

lemma literal_alignment (hp : Even (p.count '\'')) (hc : quotesPaired c = true)
    (hc' : quotesPaired c' = true) :
    Alignment (p ++ literal c ++ s) (p ++ literal c' ++ s) (Aligned p c c') where
  same i j h := codeAt?_aligned s hp hc hc' h
  next i j d h hd := by
    rcases before_or_after_literal s hp hc hd with hi | ⟨k, rfl⟩
    · rcases h with ⟨_, rfl⟩ | ⟨k, rfl, _⟩
      · exact Or.inl ⟨hi, rfl⟩
      · omega
    · rcases h with ⟨hi, _⟩ | ⟨k', hk, rfl⟩
      · rw [length_literal] at hi
        omega
      · exact Or.inr ⟨k + 1, by omega, by omega⟩
  covers i d hd := by
    rcases before_or_after_literal s hp hc hd with hi | ⟨k, rfl⟩
    · exact ⟨i, Or.inl ⟨Nat.le_of_lt hi, rfl⟩⟩
    · exact ⟨_, Or.inr ⟨k, rfl, rfl⟩⟩
  start i j d h hd hb := by
    have hw {i j : Nat} (ha : Aligned p c c' i j) :
        wordCodeAt (p ++ literal c ++ s) i = wordCodeAt (p ++ literal c' ++ s) j := by
      rw [wordCodeAt, codeAt?_aligned s hp hc hc' ha, wordCodeAt]
    rcases h with ⟨hi, rfl⟩ | ⟨k, rfl, rfl⟩
    · rw [← hw (Or.inl ⟨by omega, rfl⟩)]
      exact hb
    · refine Or.inr ?_
      cases k with
      | zero =>
        -- the left neighbour is the closing quote
        have hl : (literal c').length - 1 < (literal c').length := by rw [length_literal]; omega
        have he : p.length + (literal c').length + 0 - 1 = p.length + ((literal c').length - 1) := by
          omega
        rw [wordCodeAt, he, codeAt?_in_literal s hp hc' hl]
        rfl
      | succ k => exact (hw (Or.inr ⟨k, rfl, rfl⟩)).symm.trans (hb.resolve_left (by omega))

end Around

lemma leadsWith_append_quote {keyword : List Char} (hk : '\'' ∉ keyword) (p r r' : List Char) :
    leadsWith keyword (p ++ '\'' :: r) = leadsWith keyword (p ++ '\'' :: r') := by
  induction keyword generalizing p with
  | nil => cases p <;> simp [leadsWith_nil]
  | cons letter keyword ih =>
    rw [List.mem_cons, not_or] at hk
    cases p with
    | nil =>
      have hl : (letter == ('\'' : Char).toLower) = false := beq_false_of_ne (Ne.symm hk.1)
      rw [List.nil_append, List.nil_append, leadsWith_cons_cons, leadsWith_cons_cons, hl]
      simp
    | cons d p =>
      rw [List.cons_append, List.cons_append, leadsWith_cons_cons, leadsWith_cons_cons, ih hk.2]

lemma beginsReadOnly_literal_iff (p c c' s : List Char) :
    BeginsReadOnly (p ++ literal c ++ s) ↔ BeginsReadOnly (p ++ literal c' ++ s) := by
  have h (keyword : List Char) (hk : '\'' ∉ keyword) :
      BeginsWith keyword (p ++ literal c ++ s) ↔ BeginsWith keyword (p ++ literal c' ++ s) := by
    rw [← leadsWith_iff, ← leadsWith_iff, List.append_assoc, List.append_assoc]
    exact iff_of_eq (congrArg (· = true) (leadsWith_append_quote hk p _ _))
  exact or_congr (h _ (by decide)) (h _ (by decide))

lemma verdict_literal {p c c' : List Char} (s : List Char) (hp : Even (p.count '\''))
    (hc : quotesPaired c = true) (hc' : quotesPaired c' = true) :
    verdict (p ++ literal c ++ s) = verdict (p ++ literal c' ++ s) := by
  have h := literal_alignment s hp hc hc'
  have h' := literal_alignment s hp hc' hc
  have hs : HasSeparator (p ++ literal c ++ s) ↔ HasSeparator (p ++ literal c' ++ s) :=
    ⟨h.hasSeparator, h'.hasSeparator⟩
  have hm : HasCommentMark (p ++ literal c ++ s) ↔ HasCommentMark (p ++ literal c' ++ s) :=
    ⟨h.hasCommentMark, h'.hasCommentMark⟩
  have hw : HasMutatingWord (p ++ literal c ++ s) ↔ HasMutatingWord (p ++ literal c' ++ s) :=
    ⟨h.hasMutatingWord, h'.hasMutatingWord⟩
  have hn (content : List Char) : p ++ literal content ++ s ≠ [] := by
    simp [literal]
  simp only [verdict, if_neg (hn _), hs, hm, hw, beginsReadOnly_literal_iff p c c' s]

lemma count_quote_trimLeft (p : List Char) : (trimLeft p).count '\'' = p.count '\'' := by
  obtain ⟨l, hl, hb⟩ := exists_append_trimLeft p
  have h0 : l.count '\'' = 0 := by
    rw [List.count_eq_zero]
    intro hq
    have hbl := hb _ hq
    simp [isBlank] at hbl
  conv_rhs => rw [hl, List.count_append, h0, Nat.zero_add]

lemma trim_literal (p c s : List Char) :
    trim (p ++ literal c ++ s) = trimLeft p ++ literal c ++ trimRight s := by
  have h := trim_append_cons_append_cons (d := '\'') (e := '\'') (by decide) (by decide) p c s
  simpa [literal] using h

theorem check_literal_content (p s c₁ c₂ : String) (hp : Even (p.toList.count '\''))
    (h₁ : quotesPaired c₁.toList = true) (h₂ : quotesPaired c₂.toList = true) :
    check (p ++ "'" ++ c₁ ++ "'" ++ s) = check (p ++ "'" ++ c₂ ++ "'" ++ s) := by
  have hv (content : String) : check (p ++ "'" ++ content ++ "'" ++ s) =
      verdict (trimLeft p.toList ++ literal content.toList ++ trimRight s.toList) := by
    rw [check_of_trim_ne_nil, ← trim_literal]
    · simp [literal]
    · exact trim_ne_nil_of_mem (c := '\'') (by simp) (by decide)
  rw [hv, hv]
  exact verdict_literal _ ((count_quote_trimLeft p.toList).symm ▸ hp) h₁ h₂

theorem check_literal_content_between_quotes :
    Even ("SELECT ''".toList.count '\'') ∧ quotesPaired "; DROP TABLE t --".toList = true ∧
      quotesPaired "it''s".toList = true ∧
      check ("SELECT ''" ++ "'" ++ "; DROP TABLE t --" ++ "'" ++ "' AS x'") =
        check ("SELECT ''" ++ "'" ++ "it''s" ++ "'" ++ "' AS x'") :=
  ⟨by decide, by decide, by decide,
    check_literal_content _ _ _ _ (by decide) (by decide) (by decide)⟩

end ErpGateway.Gate
