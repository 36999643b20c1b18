import ErpGateway.Gate.ReadOnly
import ErpGateway.Proofs.Gate.Blanking
import ErpGateway.Proofs.Text.Trim

/-! What the gate decides, said by positions of the query as it came: a code character stands there,
a run of code characters spells a word, a word ends there. No blanked text is built. -/

namespace ErpGateway.Gate

open Text

def spells (same : Char → Char → Bool) (t : List Char) : (word : List Char) → (i : Nat) → Bool
  | [], _ => true
  | letter :: word, i => (codeAt? t i).any (same letter) && spells same t word (i + 1)

def wordCodeAt (t : List Char) (i : Nat) : Bool :=
  (codeAt? t i).any isWordChar

def StandsAlone (t : List Char) (i n : Nat) : Prop :=
  (i = 0 ∨ wordCodeAt t (i - 1) = false) ∧ wordCodeAt t (i + n) = false

def HasSeparator (t : List Char) : Prop :=
  ∃ i < t.length, codeAt? t i = some ';'

def commentMarks : List (List Char) :=
  [['-', '-'], ['/', '*'], ['*', '/']]

def HasCommentMark (t : List Char) : Prop :=
  ∃ mark ∈ commentMarks, ∃ i < t.length, spells (· == ·) t mark i = true

def BeginsWith (keyword t : List Char) : Prop :=
  keyword <+: lower t ∧ t[keyword.length]?.all (fun c => !continuesIdentifier c) = true

def BeginsReadOnly (t : List Char) : Prop :=
  BeginsWith "select".toList t ∨ BeginsWith "with".toList t

def HasMutatingWord (t : List Char) : Prop :=
  ∃ word ∈ mutatingWords, ∃ i < t.length,
    spells foldsTo t word i = true ∧ StandsAlone t i word.length

instance (t : List Char) : Decidable (HasSeparator t) :=
  inferInstanceAs (Decidable (∃ i < t.length, codeAt? t i = some ';'))

instance (t : List Char) : Decidable (HasCommentMark t) :=
  inferInstanceAs (Decidable (∃ mark ∈ commentMarks, ∃ i < t.length,
    spells (· == ·) t mark i = true))

instance (keyword t : List Char) : Decidable (BeginsWith keyword t) :=
  inferInstanceAs (Decidable (_ ∧ _))

instance (t : List Char) : Decidable (BeginsReadOnly t) :=
  inferInstanceAs (Decidable (_ ∨ _))

instance (t : List Char) (i n : Nat) : Decidable (StandsAlone t i n) :=
  inferInstanceAs (Decidable ((_ ∨ _) ∧ _))

instance (t : List Char) : Decidable (HasMutatingWord t) :=
  inferInstanceAs (Decidable (∃ word ∈ mutatingWords, ∃ i < t.length,
    spells foldsTo t word i = true ∧ StandsAlone t i word.length))

def verdict (t : List Char) : Except Rejection Unit :=
  if t = [] then .error .queryRequired
  else if HasSeparator t then .error .multipleStatements
  else if HasCommentMark t then .error .comments
  else if ¬ BeginsReadOnly t ∨ HasMutatingWord t then .error .notReadOnly
  else .ok ()

lemma any_code {p : Char → Bool} (hq : p '\'' = false) (hb : p ' ' = false) (t : List Char)
    (i : Nat) : (code t)[i]?.any p = (codeAt? t i).any p := by
  have h (c : Char) (hc : p c = true) : (code t)[i]? = some c ↔ codeAt? t i = some c := by
    apply getElem?_code
    · rintro rfl
      simp [hq] at hc
    · rintro rfl
      simp [hb] at hc
  rw [Bool.eq_iff_iff, Option.any_eq_true, Option.any_eq_true]
  constructor
  · rintro ⟨c, hi, hc⟩
    exact ⟨c, (h c hc).mp hi, hc⟩
  · rintro ⟨c, hi, hc⟩
    exact ⟨c, (h c hc).mpr hi, hc⟩

lemma isWordChar_code (t : List Char) (i : Nat) : (code t)[i]?.any isWordChar = wordCodeAt t i :=
  any_code (by decide) (by decide) t i

lemma contains_separator_iff (t : List Char) : (code t).contains ';' = true ↔ HasSeparator t := by
  rw [List.contains_iff_mem, List.mem_iff_getElem?]
  constructor
  · rintro ⟨i, hi⟩
    have hc := (getElem?_code (by decide) (by decide)).mp hi
    exact ⟨i, lt_of_codeAt? hc, hc⟩
  · rintro ⟨i, -, hi⟩
    exact ⟨i, (getElem?_code (by decide) (by decide)).mpr hi⟩

def Plain (same : Char → Char → Bool) (word : List Char) : Prop :=
  ∀ letter ∈ word, same letter '\'' = false ∧ same letter ' ' = false

instance (same : Char → Char → Bool) (word : List Char) : Decidable (Plain same word) :=
  List.decidableBAll _ word

lemma isPrefixOf_drop_code (t word : List Char) (i : Nat) (hw : Plain (· == ·) word) :
    word.isPrefixOf ((code t).drop i) = spells (· == ·) t word i := by
  induction word generalizing i with
  | nil => rfl
  | cons letter word ih =>
    have hl := hw letter (by simp)
    rw [spells, ← any_code hl.1 hl.2, ← ih (i + 1) fun l h => hw l (List.mem_cons_of_mem _ h)]
    by_cases hi : i < (code t).length
    · rw [List.drop_eq_getElem_cons hi, List.isPrefixOf, List.getElem?_eq_getElem hi, Option.any_some]
    · rw [List.drop_eq_nil_of_le (Nat.le_of_not_lt hi), List.getElem?_eq_none (Nat.le_of_not_lt hi)]
      rfl

lemma afterWord?_drop_code (t word : List Char) (i : Nat) (hw : Plain foldsTo word) :
    afterWord? word ((code t).drop i) =
      if spells foldsTo t word i then some ((code t).drop (i + word.length)) else none := by
  induction word generalizing i with
  | nil => rfl
  | cons letter word ih =>
    have hl := hw letter (by simp)
    have hi' := ih (i + 1) fun l h => hw l (List.mem_cons_of_mem _ h)
    have hn : i + 1 + word.length = i + (letter :: word).length := by
      simp only [List.length_cons]
      omega
    rw [spells, ← any_code hl.1 hl.2]
    by_cases hi : i < (code t).length
    · rw [List.drop_eq_getElem_cons hi, afterWord?, List.getElem?_eq_getElem hi, Option.any_some, hi', hn]
      cases foldsTo letter (code t)[i] <;> simp
    · rw [List.drop_eq_nil_of_le (Nat.le_of_not_lt hi), List.getElem?_eq_none (Nat.le_of_not_lt hi)]
      rfl

lemma plain_of_mem_mutatingWords : ∀ word ∈ mutatingWords, word ≠ [] ∧ Plain foldsTo word := by
  decide

lemma plain_of_mem_commentMarks : ∀ mark ∈ commentMarks, mark ≠ [] ∧ Plain (· == ·) mark := by
  decide

lemma lt_of_spells {same : Char → Char → Bool} {t word : List Char} {i : Nat} (hw : word ≠ [])
    (h : spells same t word i = true) : i < t.length := by
  cases word with
  | nil => exact absurd rfl hw
  | cons letter word =>
    rw [spells, Bool.and_eq_true, Option.any_eq_true] at h
    obtain ⟨⟨c, hc, -⟩, -⟩ := h
    exact lt_of_codeAt? hc

lemma occursIn_iff {needle : List Char} (hn : needle ≠ []) (text : List Char) :
    occursIn needle text = true ↔ ∃ i, needle.isPrefixOf (text.drop i) = true := by
  have hnil : needle.isPrefixOf [] = false := by
    cases needle with
    | nil => exact absurd rfl hn
    | cons _ _ => rfl
  induction text with
  | nil => simp [occursIn, hn, hnil]
  | cons c text ih =>
    simp only [occursIn, Bool.or_eq_true, ih]
    constructor
    · rintro (h | ⟨i, h⟩)
      · exact ⟨0, h⟩
      · exact ⟨i + 1, h⟩
    · rintro ⟨i, h⟩
      cases i with
      | zero => exact Or.inl h
      | succ i => exact Or.inr ⟨i, h⟩

lemma occursIn_code_iff {t mark : List Char} (hm : mark ≠ []) (hp : Plain (· == ·) mark) :
    occursIn mark (code t) = true ↔ ∃ i < t.length, spells (· == ·) t mark i = true := by
  rw [occursIn_iff hm]
  constructor
  · rintro ⟨i, h⟩
    rw [isPrefixOf_drop_code t mark i hp] at h
    exact ⟨i, lt_of_spells hm h, h⟩
  · rintro ⟨i, -, h⟩
    exact ⟨i, (isPrefixOf_drop_code t mark i hp).trans h⟩

lemma hasComment_code_iff (t : List Char) : hasComment (code t) = true ↔ HasCommentMark t := by
  have h (mark : List Char) (hm : mark ∈ commentMarks) :
      occursIn mark (code t) = true ↔ ∃ i < t.length, spells (· == ·) t mark i = true := by
    obtain ⟨hn, hp⟩ := plain_of_mem_commentMarks mark hm
    exact occursIn_code_iff hn hp
  rw [HasCommentMark, hasComment, Bool.or_eq_true, Bool.or_eq_true]
  simp only [commentMarks, List.exists_mem_cons_iff, List.not_mem_nil, false_and, exists_false,
    or_false, or_assoc]
  exact or_congr (h _ (by decide)) (or_congr (h _ (by decide)) (h _ (by decide)))

lemma mutatesFrom_iff (mayStart : Bool) (text : List Char) :
    mutatesFrom mayStart text = true ↔
      ∃ i < text.length, (i = 0 → mayStart = true) ∧
        (i = 0 ∨ text[i - 1]?.any isWordChar = false) ∧ mutatesHere (text.drop i) = true := by
  induction text generalizing mayStart with
  | nil => simp [mutatesFrom]
  | cons c text ih =>
    rw [mutatesFrom, Bool.or_eq_true, Bool.and_eq_true, ih]
    constructor
    · rintro (⟨hm, hh⟩ | ⟨i, hi, hs, hb, hh⟩)
      · exact ⟨0, by simp, fun _ => hm, Or.inl rfl, hh⟩
      · refine ⟨i + 1, by simpa using hi, by simp, Or.inr ?_, hh⟩
        cases i with
        | zero => simpa using hs rfl
        | succ i => simpa using hb
    · rintro ⟨i, hi, hs, hb, hh⟩
      cases i with
      | zero => exact Or.inl ⟨hs rfl, hh⟩
      | succ i =>
        have hb' := hb.resolve_left (Nat.succ_ne_zero i)
        refine Or.inr ⟨i, by simpa using hi, ?_, ?_, hh⟩
        · rintro rfl
          simpa using hb'
        · cases i with
          | zero => exact Or.inl rfl
          | succ i => exact Or.inr (by simpa using hb')

lemma endsWord_drop (text : List Char) (i : Nat) :
    endsWord (text.drop i) = !text[i]?.any isWordChar := by
  rw [← List.head?_drop]
  cases text.drop i <;> rfl

lemma mutatesHere_drop_code_iff (t : List Char) (i : Nat) :
    mutatesHere ((code t).drop i) = true ↔
      ∃ word ∈ mutatingWords, spells foldsTo t word i = true ∧
        wordCodeAt t (i + word.length) = false := by
  rw [mutatesHere, List.any_eq_true]
  refine exists_congr fun word => and_congr_right fun hw => ?_
  rw [afterWord?_drop_code t word i (plain_of_mem_mutatingWords word hw).2]
  cases spells foldsTo t word i with
  | false => simp
  | true => simp [endsWord_drop, isWordChar_code]

lemma mutates_code_iff (t : List Char) : mutates (code t) = true ↔ HasMutatingWord t := by
  rw [mutates, mutatesFrom_iff]
  simp only [isWordChar_code, mutatesHere_drop_code_iff]
  constructor
  · rintro ⟨i, -, -, hb, word, hw, hs, he⟩
    exact ⟨word, hw, i, lt_of_spells (plain_of_mem_mutatingWords word hw).1 hs, hs, hb, he⟩
  · rintro ⟨word, hw, i, hi, hs, hb, he⟩
    refine ⟨i, ?_, by simp, hb, word, hw, hs, he⟩
    rwa [code, length_blankLiterals]

lemma continuesIdentifier_toLower (c : Char) :
    continuesIdentifier c.toLower = continuesIdentifier c := by
  have hu : ∀ n : Fin 26, continuesIdentifier (Char.ofNat (65 + n)).toLower =
      continuesIdentifier (Char.ofNat (65 + n)) := by decide
  by_cases hc : 65 ≤ c.toNat ∧ c.toNat ≤ 90
  · have h := hu ⟨c.toNat - 65, by omega⟩
    have hn : 65 + (c.toNat - 65) = c.toNat := by omega
    simpa only [hn, Char.ofNat_toNat] using h
  · have h : c.toLower = c := by
      unfold Char.toLower
      exact dif_neg hc
    rw [h]

lemma leadsWith_nil (t : List Char) :
    leadsWith [] t = t.head?.all fun c => !continuesIdentifier c := by
  cases t with
  | nil => rfl
  | cons c t => simp [leadsWith, lower, List.isPrefixOf?, continuesIdentifier_toLower]

lemma leadsWith_cons_cons (letter c : Char) (keyword t : List Char) :
    leadsWith (letter :: keyword) (c :: t) = (letter == c.toLower && leadsWith keyword t) := by
  by_cases h : letter = c.toLower <;> simp [leadsWith, lower, List.isPrefixOf?, h]

lemma leadsWith_code {keyword : List Char} (hk : '\'' ∉ keyword) (t : List Char) :
    leadsWith keyword (code t) = leadsWith keyword t := by
  induction keyword generalizing t with
  | nil => cases t <;> simp [leadsWith_nil, code, blankLiterals]
  | cons letter keyword ih =>
    rw [List.mem_cons, not_or] at hk
    cases t with
    | nil => rfl
    | cons c t =>
      rw [code, blankLiterals, leadsWith_cons_cons, leadsWith_cons_cons]
      by_cases hc : c = '\''
      · -- no keyword goes on with a quote
        have hl : (letter == c.toLower) = false := by
          subst hc
          exact beq_false_of_ne (Ne.symm hk.1)
        simp only [hl, Bool.false_and]
      · have h := ih hk.2 t
        rw [code] at h
        rw [beq_false_of_ne hc, h]

lemma leadsWith_iff (keyword t : List Char) :
    leadsWith keyword t = true ↔ BeginsWith keyword t := by
  induction keyword generalizing t with
  | nil => simp [leadsWith_nil, BeginsWith, List.head?_eq_getElem?]
  | cons letter keyword ih =>
    cases t with
    | nil => simp [leadsWith, BeginsWith, lower, List.isPrefixOf?]
    | cons c t =>
      have hl : lower (c :: t) = c.toLower :: lower t := rfl
      rw [leadsWith_cons_cons, Bool.and_eq_true, beq_iff_eq, ih, BeginsWith, BeginsWith, hl,
        List.cons_prefix_cons, and_assoc]
      rfl

lemma leadsReadOnly_code_iff {c : Char} {rest : List Char} (hc : isBlank c = false) :
    leadsReadOnly (code (c :: rest)) = true ↔ BeginsReadOnly (c :: rest) := by
  have ht : trimLeft (code (c :: rest)) = code (c :: rest) := by
    rw [code, blankLiterals]
    exact trimLeft_eq_self hc
  rw [leadsReadOnly, ht, leadsWith_code (by decide), leadsWith_code (by decide), Bool.or_eq_true,
    leadsWith_iff, leadsWith_iff, BeginsReadOnly]

lemma check_of_trim_ne_nil {query : String} (h : trim query.toList ≠ []) :
    check query = verdict (trim query.toList) := by
  rw [check]
  obtain ⟨c, rest, ht⟩ := List.exists_cons_of_ne_nil h
  have hb := isBlank_of_trim_eq_cons ht
  rw [ht]
  simp only [checkTrimmed, verdict, contains_separator_iff, hasComment_code_iff,
    leadsReadOnly_code_iff hb, mutates_code_iff, List.isEmpty_cons, reduceCtorEq, if_false,
    Bool.false_eq_true, Bool.not_eq_true', ← Bool.not_eq_true]
  by_cases hr : BeginsReadOnly (c :: rest) <;> simp [hr]

theorem check_eq_verdict (query : String) : check query = verdict (trim query.toList) := by
  by_cases h : trim query.toList = []
  · rw [check, h]
    rfl
  · exact check_of_trim_ne_nil h

lemma verdict_eq_multipleStatements_iff {t : List Char} (h : t ≠ []) :
    verdict t = .error .multipleStatements ↔ HasSeparator t := by
  unfold verdict
  split_ifs <;> simp_all

lemma verdict_eq_ok_iff {t : List Char} (h : t ≠ []) :
    verdict t = .ok () ↔
      ¬ HasSeparator t ∧ ¬ HasCommentMark t ∧ BeginsReadOnly t ∧ ¬ HasMutatingWord t := by
  have hr : ¬ (¬ BeginsReadOnly t ∨ HasMutatingWord t) ↔ BeginsReadOnly t ∧ ¬ HasMutatingWord t := by
    rw [not_or, not_not]
  rw [← hr]
  unfold verdict
  split_ifs <;> simp_all

end ErpGateway.Gate
