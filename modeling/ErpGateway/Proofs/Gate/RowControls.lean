import ErpGateway.Gate.RowControl
import ErpGateway.Proofs.Text.Trim
import Mathlib.Data.List.TakeWhile
import Mathlib.Tactic.Common

/-! Row-control forms as the texts that they stand for. A form that stands somewhere in a query is
found: runs are read to their end and no form of a kind starts inside another one, so the search from
left to right passes none over. -/

namespace ErpGateway.Gate

open Text

def SameWord (letters w : List Char) : Prop :=
  List.Forall₂ (fun letter c => foldsTo letter c = true) letters w

def IsName : List Char → Prop
  | [] => False
  | c :: rest => opensName c = true ∧ ∀ d ∈ rest, continuesName d = true

/-- The parts stand for `text`. The last name among them is `name`, and it is `found` where they have
none. -/
inductive Spelling : List Part → (found text name : List Char) → Prop
  | done {x : List Char} : Spelling [] x [] x
  | word {letters w : List Char} {parts : List Part} {found t x : List Char} :
      SameWord letters w → Spelling parts found t x →
      Spelling (.word letters :: parts) found (w ++ t) x
  | blanks {s : List Char} {parts : List Part} {found t x : List Char} :
      (∀ c ∈ s, isBlank c = true) → Spelling parts found t x →
      Spelling (.blanks :: parts) found (s ++ t) x
  | someBlanks {s : List Char} {parts : List Part} {found t x : List Char} :
      s ≠ [] → (∀ c ∈ s, isBlank c = true) → Spelling parts found t x →
      Spelling (.someBlanks :: parts) found (s ++ t) x
  | mark {c : Char} {parts : List Part} {found t x : List Char} :
      Spelling parts found t x → Spelling (.mark c :: parts) found (c :: t) x
  | name {n : List Char} {parts : List Part} {found t x : List Char} :
      IsName n → Spelling parts n t x → Spelling (.name :: parts) found (n ++ t) x

def Form.StandsAt (form : Form) (x text : List Char) : Prop :=
  ∃ t rest, text = t ++ rest ∧ Spelling form.parts [] t x ∧
    (form.closed = true → endsWord rest = true)

def mayStartAfter (start : Bool) (before : List Char) : Bool :=
  (before.getLast?.map fun c => !isWordChar c).getD start

def Form.OccursIn (form : Form) (x text : List Char) : Prop :=
  ∃ before here, text = before ++ here ∧ mayStartAfter true before = true ∧ form.StandsAt x here

section Characters

variable {letter c : Char}

lemma isAlpha_of_isLower_toLower (h : c.toLower.isLower = true) : c.isAlpha = true := by
  have halpha : c.isAlpha = (c.isUpper || c.isLower) := rfl
  have hupper : c.isUpper = decide ('A'.val ≤ c.val ∧ c.val ≤ 'Z'.val) := rfl
  rw [halpha, Bool.or_eq_true]
  by_cases hu : c.isUpper = true
  · exact Or.inl hu
  · have hc : c.toLower = c := by
      rw [hupper] at hu
      exact dif_neg (by simpa using hu)
    rw [hc] at h
    exact Or.inr h

lemma opensName_of_foldsTo (hl : letter.isLower = true) (h : foldsTo letter c = true) :
    opensName c = true := by
  simp only [foldsTo, Bool.or_eq_true, Bool.and_eq_true, beq_iff_eq] at h
  rcases h with (rfl | ⟨-, rfl⟩) | ⟨-, rfl⟩
  · simp [opensName, isAlpha_of_isLower_toLower hl]
  · decide
  · decide

lemma foldsTo_unique {letter' : Char} (hl : letter.isLower = true) (hl' : letter'.isLower = true)
    (h : foldsTo letter c = true) (h' : foldsTo letter' c = true) : letter = letter' := by
  have hlong : ('ſ' : Char).toLower.isLower = false := by decide
  have hkelvin : ('\u212A' : Char).toLower.isLower = false := by decide
  simp only [foldsTo, Bool.or_eq_true, Bool.and_eq_true, beq_iff_eq] at h h'
  rcases h with (rfl | ⟨rfl, rfl⟩) | ⟨rfl, rfl⟩ <;> rcases h' with (rfl | ⟨rfl, h'⟩) | ⟨rfl, h'⟩ <;>
    simp_all

lemma continuesName_iff : continuesName c = true ↔
    c.isAlphanum = true ∨ c = '_' ∨ c = 'ſ' ∨ c = '\u212A' := by
  simp only [continuesName, opensName, Char.isAlphanum, Bool.or_eq_true, beq_iff_eq]
  tauto

lemma isWordChar_of_continuesName (h : continuesName c = true) : isWordChar c = true := by
  rw [continuesName_iff] at h
  rcases h with h | rfl | rfl | rfl
  · have ha : isAscii c = true := by
      have := ascii_of_isAlphanum h
      simp only [isAscii, decide_eq_true_eq]
      omega
    simp [isWordChar, ha, h]
  · decide
  · decide +kernel
  · decide +kernel

lemma isBlank_of_continuesName (h : continuesName c = true) : isBlank c = false := by
  rw [continuesName_iff] at h
  rcases h with h | rfl | rfl | rfl
  · exact isBlank_of_isAlphanum h
  · decide
  · decide
  · decide

lemma continuesName_of_isBlank (h : isBlank c = true) : continuesName c = false := by
  rw [← Bool.not_eq_true]
  intro hc
  simp [isBlank_of_continuesName hc] at h

lemma continuesName_of_foldsTo (hl : letter.isLower = true)
    (h : foldsTo letter c = true) : continuesName c = true := by
  simp [continuesName, opensName_of_foldsTo hl h]

lemma isBlank_of_foldsTo (hl : letter.isLower = true)
    (h : foldsTo letter c = true) : isBlank c = false :=
  isBlank_of_continuesName (continuesName_of_foldsTo hl h)

lemma ne_of_foldsTo {d : Char} (hd : foldsTo letter d = false)
    (h : foldsTo letter c = true) : c ≠ d := by
  rintro rfl
  simp [hd] at h

end Characters

section Reading

variable {parts : List Part} {found text rest x : List Char}

lemma afterWord?_eq_some_iff {letters : List Char} :
    afterWord? letters text = some rest ↔ ∃ w, text = w ++ rest ∧ SameWord letters w := by
  induction letters generalizing text with
  | nil =>
    constructor
    · intro h
      obtain rfl : text = rest := Option.some.inj h
      exact ⟨[], rfl, .nil⟩
    · rintro ⟨w, rfl, hw⟩
      cases hw
      rfl
  | cons letter letters ih =>
    constructor
    · intro h
      cases text with
      | nil => simp [afterWord?] at h
      | cons c text =>
        rw [afterWord?] at h
        split at h
        · rename_i hc
          obtain ⟨w, rfl, hw⟩ := ih.mp h
          exact ⟨c :: w, rfl, .cons hc hw⟩
        · cases h
    · rintro ⟨w, rfl, hw⟩
      cases hw with
      | cons hc hw =>
        rw [List.cons_append, afterWord?, if_pos hc]
        exact ih.mpr ⟨_, rfl, hw⟩

lemma exists_spelling_of_matchParts (h : matchParts parts found text = some (x, rest)) :
    ∃ t, text = t ++ rest ∧ Spelling parts found t x := by
  induction parts generalizing found text with
  | nil =>
    obtain ⟨rfl, rfl⟩ : found = x ∧ text = rest := by simpa [matchParts] using h
    exact ⟨[], rfl, .done⟩
  | cons part parts ih =>
    cases part with
    | word letters =>
      rw [matchParts, Option.bind_eq_some_iff] at h
      obtain ⟨text', hw, h⟩ := h
      obtain ⟨w, rfl, hsame⟩ := afterWord?_eq_some_iff.mp hw
      obtain ⟨t, rfl, ht⟩ := ih h
      exact ⟨w ++ t, (List.append_assoc ..).symm, .word hsame ht⟩
    | blanks =>
      rw [matchParts] at h
      obtain ⟨t, he, ht⟩ := ih h
      refine ⟨text.takeWhile isBlank ++ t, ?_, .blanks (fun c hc => List.mem_takeWhile_imp hc) ht⟩
      rw [List.append_assoc, ← he, List.takeWhile_append_dropWhile]
    | someBlanks =>
      cases text with
      | nil => simp [matchParts] at h
      | cons c text =>
        simp only [matchParts] at h
        split at h
        · rename_i hc
          obtain ⟨t, he, ht⟩ := ih h
          refine ⟨(c :: text.takeWhile isBlank) ++ t, ?_, .someBlanks (by simp) ?_ ht⟩
          · rw [List.append_assoc, ← he, List.cons_append, List.takeWhile_append_dropWhile]
          · intro d hd
            rcases List.mem_cons.mp hd with rfl | hd
            · exact hc
            · exact List.mem_takeWhile_imp hd
        · cases h
    | mark m =>
      cases text with
      | nil => simp [matchParts] at h
      | cons c text =>
        simp only [matchParts] at h
        split at h
        · rename_i hc
          obtain rfl : c = m := by simpa using hc
          obtain ⟨t, rfl, ht⟩ := ih h
          exact ⟨c :: t, rfl, .mark ht⟩
        · cases h
    | name =>
      cases text with
      | nil => simp [matchParts] at h
      | cons c text =>
        simp only [matchParts] at h
        split at h
        · rename_i hc
          obtain ⟨t, he, ht⟩ := ih h
          have hc' : continuesName c = true := by simp [continuesName, hc]
          refine ⟨(c :: text).takeWhile continuesName ++ t, ?_, .name ?_ ht⟩
          · rw [List.append_assoc, ← he, List.takeWhile_append_dropWhile]
          · rw [List.takeWhile_cons_of_pos hc']
            exact ⟨hc, fun d hd => List.mem_takeWhile_imp hd⟩
        · cases h

def Leads (p : Char → Prop) : List Part → Prop
  | .word (letter :: _) :: _ => ∀ c, foldsTo letter c = true → p c
  | .mark c :: _ => p c
  | .someBlanks :: _ => ∀ c, isBlank c = true → p c
  | .blanks :: parts => (∀ c, isBlank c = true → p c) ∧ Leads p parts
  | .name :: _ => ∀ c, opensName c = true → p c
  | _ => False

lemma Spelling.leads {p : Char → Prop} {t : List Char} (h : Spelling parts found t x)
    (hp : Leads p parts) : ∃ c u, t = c :: u ∧ p c := by
  induction h with
  | done => exact hp.elim
  | @word letters w parts found t x hw _ ih =>
    cases hw with
    | nil => exact hp.elim
    | @cons letter c letters w hc hw => exact ⟨c, w ++ t, rfl, hp c hc⟩
  | @blanks s parts found t x hs _ ih =>
    cases s with
    | nil => exact ih hp.2
    | cons c s => exact ⟨c, s ++ t, rfl, hp.1 c (hs c (by simp))⟩
  | @someBlanks s parts found t x hne hs _ ih =>
    obtain ⟨c, s, rfl⟩ := List.exists_cons_of_ne_nil hne
    exact ⟨c, s ++ t, rfl, hp c (hs c (by simp))⟩
  | @mark c parts found t x _ ih => exact ⟨c, t, rfl, hp⟩
  | @name n parts found t x hn _ ih =>
    cases n with
    | nil => exact hn.elim
    | cons c n => exact ⟨c, n ++ t, rfl, hp c hn.1⟩

def Separated : List Part → Prop
  | [] => True
  | .blanks :: parts | .someBlanks :: parts =>
    Leads (fun c => isBlank c = false) parts ∧ Separated parts
  | .name :: parts => Leads (fun c => continuesName c = false) parts ∧ Separated parts
  | .word _ :: parts | .mark _ :: parts => Separated parts

lemma takeWhile_run {p : Char → Bool} {s u : List Char} {c : Char} (hs : ∀ d ∈ s, p d = true)
    (hc : p c = false) : (s ++ c :: u).takeWhile p = s := by
  rw [List.takeWhile_append_of_pos hs, List.takeWhile_cons_of_neg (by simp [hc]), List.append_nil]

lemma dropWhile_run {p : Char → Bool} {s u : List Char} {c : Char} (hs : ∀ d ∈ s, p d = true)
    (hc : p c = false) : (s ++ c :: u).dropWhile p = c :: u := by
  rw [List.dropWhile_append_of_pos hs, List.dropWhile_cons_of_neg (by simp [hc])]

lemma IsName.continues {n : List Char} (h : IsName n) : ∀ d ∈ n, continuesName d = true := by
  cases n with
  | nil => exact h.elim
  | cons c n =>
    intro d hd
    rcases List.mem_cons.mp hd with rfl | hd
    · simp [continuesName, h.1]
    · exact h.2 d hd

lemma SameWord.continues {letters w : List Char} (h : SameWord letters w)
    (hl : ∀ l ∈ letters, l.isLower = true) : ∀ c ∈ w, continuesName c = true := by
  induction h with
  | nil => simp
  | @cons letter c letters w hc _ ih =>
    intro d hd
    rcases List.mem_cons.mp hd with rfl | hd
    · exact continuesName_of_foldsTo (hl letter (by simp)) hc
    · exact ih (fun l h => hl l (List.mem_cons_of_mem _ h)) d hd

lemma matchParts_of_spelling {t : List Char} (hp : Separated parts) (h : Spelling parts found t x)
    (rest : List Char) : matchParts parts found (t ++ rest) = some (x, rest) := by
  induction h with
  | done => rfl
  | word hw _ ih =>
    rw [List.append_assoc, matchParts, afterWord?_eq_some_iff.mpr ⟨_, rfl, hw⟩]
    exact ih hp
  | blanks hs ht ih =>
    obtain ⟨c, u, rfl, hc⟩ := ht.leads hp.1
    rw [List.append_assoc, matchParts, List.cons_append, dropWhile_run hs hc]
    exact ih hp.2
  | @someBlanks s parts found t x hne hs ht ih =>
    obtain ⟨c, u, rfl, hc⟩ := ht.leads hp.1
    obtain ⟨d, s, rfl⟩ := List.exists_cons_of_ne_nil hne
    have hs' : ∀ e ∈ s, isBlank e = true := fun e he => hs e (List.mem_cons_of_mem _ he)
    simp only [List.cons_append, List.append_assoc, matchParts]
    rw [if_pos (hs d (by simp)), dropWhile_run hs' hc]
    exact ih hp.2
  | mark _ ih =>
    simp only [List.cons_append, matchParts, beq_self_eq_true, if_true]
    exact ih hp
  | @name n parts found t x hn ht ih =>
    obtain ⟨c, u, rfl, hc⟩ := ht.leads hp.1
    have hrun := hn.continues
    cases n with
    | nil => exact hn.elim
    | cons d n =>
      simp only [List.cons_append, List.append_assoc, matchParts]
      rw [if_pos hn.1, ← List.cons_append, takeWhile_run hrun hc, dropWhile_run hrun hc]
      exact ih hp.2

end Reading

section Search

variable {a s v : List Char}

lemma mayStartAfter_append (start : Bool) (s a : List Char) :
    mayStartAfter start (s ++ a) = mayStartAfter (mayStartAfter start s) a := by
  cases h : a.getLast? with
  | none =>
    obtain rfl := List.getLast?_eq_none_iff.mp h
    simp [mayStartAfter]
  | some c => simp [mayStartAfter, List.getLast?_append, h]

lemma mayStartAfter_cons (start : Bool) (c : Char) (a : List Char) :
    mayStartAfter start (c :: a) = mayStartAfter (!isWordChar c) a :=
  mayStartAfter_append start [c] a

lemma mayStartAfter_true {start : Bool} (h : mayStartAfter start a = true) :
    mayStartAfter true a = true := by
  cases ha : a.getLast? with
  | none => simp [mayStartAfter, ha]
  | some c => simpa [mayStartAfter, ha] using h

lemma eq_nil_of_mayStartAfter {start : Bool} (h : mayStartAfter start a = true)
    (hw : ∀ c ∈ a, isWordChar c = true) : a = [] := by
  by_contra hne
  have hl : isWordChar (a.getLast hne) = true := hw _ (List.getLast_mem hne)
  simp [mayStartAfter, List.getLast?_eq_some_getLast hne, hl] at h

lemma behind_or_inside {start : Bool} {t rest : List Char} (h : s ++ t ++ rest = a ++ v)
    (ha : mayStartAfter start a = true) :
    (∃ a', a = s ++ a' ∧ t ++ rest = a' ++ v ∧ mayStartAfter true a' = true) ∨
      ∃ c s', s = a ++ c :: s' ∧ v = c :: s' ++ (t ++ rest) := by
  rw [List.append_assoc] at h
  rcases List.append_eq_append_iff.mp h with ⟨a', rfl, hu⟩ | ⟨s', rfl, hv⟩
  · rw [mayStartAfter_append] at ha
    exact Or.inl ⟨a', rfl, hu, mayStartAfter_true ha⟩
  · cases s' with
    | nil => exact Or.inl ⟨[], by simp, hv.symm, rfl⟩
    | cons c s' => exact Or.inr ⟨c, s', rfl, hv⟩

lemma exists_before_cons_iff {P : List Char → Prop} {skip : Nat} {start : Bool} {c : Char}
    {rest : List Char} :
    (∃ before here, c :: rest = before ++ here ∧ skip ≤ before.length ∧
      mayStartAfter start before = true ∧ P here) ↔
    (skip = 0 ∧ start = true ∧ P (c :: rest)) ∨
      ∃ before here, rest = before ++ here ∧ skip ≤ before.length + 1 ∧
        mayStartAfter (!isWordChar c) before = true ∧ P here := by
  constructor
  · rintro ⟨before, here, he, hskip, hstart, hp⟩
    cases before with
    | nil =>
      obtain rfl : c :: rest = here := he
      exact Or.inl ⟨Nat.le_zero.mp hskip, hstart, hp⟩
    | cons d before =>
      obtain ⟨rfl, rfl⟩ := List.cons.inj he
      rw [mayStartAfter_cons] at hstart
      exact Or.inr ⟨before, here, rfl, hskip, hstart, hp⟩
  · rintro (⟨rfl, hstart, hp⟩ | ⟨before, here, rfl, hskip, hstart, hp⟩)
    · exact ⟨[], c :: rest, rfl, Nat.zero_le _, hstart, hp⟩
    · refine ⟨c :: before, here, rfl, hskip, ?_, hp⟩
      rw [mayStartAfter_cons]
      exact hstart

def Resumes (p : Char → Prop) : List Part → Prop
  | .blanks :: parts | .someBlanks :: parts => Leads (fun c => isBlank c = false ∧ p c) parts
  | _ => False

lemma Spelling.dropWhile_isBlank {p : Char → Prop} {parts : List Part} {found t x : List Char}
    (h : Spelling parts found t x) (hp : Resumes p parts) (rest : List Char) :
    ∃ c u, (t ++ rest).dropWhile isBlank = c :: u ∧ p c := by
  cases h with
  | blanks hs ht =>
    obtain ⟨c, u, rfl, hb, hc⟩ := ht.leads hp
    exact ⟨c, u ++ rest, by rw [List.append_assoc, List.cons_append, dropWhile_run hs hb], hc⟩
  | someBlanks _ hs ht =>
    obtain ⟨c, u, rfl, hb, hc⟩ := ht.leads hp
    exact ⟨c, u ++ rest, by rw [List.append_assoc, List.cons_append, dropWhile_run hs hb], hc⟩
  | done | word | mark | name => exact hp.elim

def Clear (letter : Char) (p : Char → Prop) : List Part → Prop
  | [] => True
  | .word letters :: parts =>
    (∀ l ∈ letters, l.isLower = true) ∧ letters.head? ≠ some letter ∧ Clear letter p parts
  | .blanks :: parts | .someBlanks :: parts => Clear letter p parts
  | .mark c :: parts => foldsTo letter c = false ∧ Clear letter p parts
  | .name :: parts => Leads (fun c => continuesName c = false) parts ∧
      Resumes (fun c => ¬ p c) parts ∧ Clear letter p parts

structure Apart (form : Form) (letter : Char) (letters : List Char) (parts : List Part)
    (p : Char → Prop) : Prop where
  parts_eq : form.parts = .word (letter :: letters) :: parts
  lower : ∀ l ∈ letter :: letters, l.isLower = true
  ends : Leads (fun c => continuesName c = false) parts
  resumes : Resumes p parts
  clear : Clear letter p parts
  separated : Separated parts

lemma isLower_of_all {letters : List Char} (h : letters.all Char.isLower = true) :
    ∀ l ∈ letters, l.isLower = true :=
  List.all_eq_true.mp h

lemma exists_apart_offsetForm :
    ∃ letter letters parts p, Apart offsetForm letter letters parts p := by
  have hblank : ∀ c, isBlank c = true → continuesName c = false :=
    fun c => continuesName_of_isBlank
  have hrows : ∀ c, foldsTo 'r' c = true → isBlank c = false :=
    fun c => isBlank_of_foldsTo (by decide)
  have hmark : ∀ c, foldsTo 'r' c = true → isBlank c = false ∧ c ≠ '@' :=
    fun c hc => ⟨hrows c hc, ne_of_foldsTo (by decide) hc⟩
  refine ⟨'o', _, _, (· = '@'), rfl, isLower_of_all (by decide), hblank, ⟨rfl, rfl⟩, ?_, ?_⟩
  · exact ⟨rfl, hblank, hmark, isLower_of_all (by decide), by decide, trivial⟩
  · exact ⟨rfl, hblank, hrows, trivial⟩

lemma exists_apart_fetchForm :
    ∃ letter letters parts p, Apart fetchForm letter letters parts p := by
  have hblank : ∀ c, isBlank c = true → continuesName c = false :=
    fun c => continuesName_of_isBlank
  have hnext : ∀ c, foldsTo 'n' c = true → isBlank c = false :=
    fun c => isBlank_of_foldsTo (by decide)
  have hrows : ∀ c, foldsTo 'r' c = true → isBlank c = false :=
    fun c => isBlank_of_foldsTo (by decide)
  have honly : ∀ c, foldsTo 'o' c = true → isBlank c = false :=
    fun c => isBlank_of_foldsTo (by decide)
  have hother : ∀ c, foldsTo 'r' c = true → isBlank c = false ∧ ¬ foldsTo 'n' c = true := by
    intro c hc
    refine ⟨hrows c hc, fun hn => ?_⟩
    exact absurd (foldsTo_unique (by decide) (by decide) hc hn) (by decide)
  refine ⟨'f', _, _, (foldsTo 'n' · = true), rfl, isLower_of_all (by decide), hblank, ?_, ?_, ?_⟩
  · exact fun c hc => ⟨hnext c hc, hc⟩
  · exact ⟨isLower_of_all (by decide), by decide, rfl, hblank, hother, isLower_of_all (by decide),
      by decide, isLower_of_all (by decide), by decide, trivial⟩
  · exact ⟨hnext, rfl, hblank, hrows, honly, trivial⟩

lemma exists_apart_topForm :
    ∃ letter letters parts p, Apart topForm letter letters parts p := by
  have hblank : ∀ c, isBlank c = true → continuesName c = false :=
    fun c => continuesName_of_isBlank
  refine ⟨'t', _, _, (· = '('), rfl, isLower_of_all (by decide), ⟨hblank, rfl⟩, ⟨rfl, rfl⟩, ?_, ?_⟩
  · exact ⟨rfl, rfl, ⟨hblank, rfl⟩, ⟨rfl, by decide⟩, rfl, trivial⟩
  · exact ⟨rfl, rfl, ⟨hblank, rfl⟩, rfl, trivial⟩

lemma exists_apart {form : Form} (h : form ∈ forms) :
    ∃ letter letters parts p, Apart form letter letters parts p := by
  simp only [forms, List.mem_cons, List.not_mem_nil, or_false] at h
  rcases h with rfl | rfl | rfl
  · exact exists_apart_offsetForm
  · exact exists_apart_fetchForm
  · exact exists_apart_topForm

namespace Apart

variable {form : Form} {letter : Char} {letters : List Char} {parts : List Part} {p : Char → Prop}

lemma separated_parts (h : Apart form letter letters parts p) : Separated form.parts := by
  rw [h.parts_eq]
  exact h.separated

lemma head_of_standsAt (h : Apart form letter letters parts p) {x v : List Char}
    (hv : form.StandsAt x v) : ∃ c u, v = c :: u ∧ foldsTo letter c = true := by
  obtain ⟨t, rest, rfl, ht, -⟩ := hv
  rw [h.parts_eq] at ht
  obtain ⟨c, u, rfl, hc⟩ := ht.leads (p := fun c => foldsTo letter c = true) fun c hc => hc
  exact ⟨c, u ++ rest, rfl, hc⟩

lemma here?_eq_some_iff (h : Apart form letter letters parts p) {text x rest : List Char} :
    form.here? text = some (x, rest) ↔ ∃ t, text = t ++ rest ∧ Spelling form.parts [] t x ∧
      (form.closed = true → endsWord rest = true) := by
  have hclosed : (!form.closed || endsWord rest) = true ↔
      (form.closed = true → endsWord rest = true) := by
    cases form.closed <;> simp
  rw [Form.here?, Option.filter_eq_some_iff, hclosed]
  constructor
  · rintro ⟨hm, hc⟩
    obtain ⟨t, rfl, ht⟩ := exists_spelling_of_matchParts hm
    exact ⟨t, rfl, ht, hc⟩
  · rintro ⟨t, rfl, ht, hc⟩
    exact ⟨matchParts_of_spelling h.separated_parts ht rest, hc⟩

lemma not_standsAt_name (h : Apart form letter letters parts p) {n t y x : List Char}
    {behind : List Part} {found : List Char} (hn : IsName n) (ht : Spelling behind found t y)
    (hends : Leads (fun c => continuesName c = false) behind)
    (hresumes : Resumes (fun c => ¬ p c) behind) (rest : List Char) :
    ¬ form.StandsAt x (n ++ (t ++ rest)) := by
  rintro ⟨m, b, he, hm, -⟩
  rw [h.parts_eq] at hm
  cases hm with
  | @word _ w _ _ t' _ hw ht' =>
    have hwn := hw.continues h.lower
    obtain ⟨d, u, rfl, hd⟩ := ht.leads hends
    obtain ⟨d', u', rfl, hd'⟩ := ht'.leads h.ends
    rw [List.append_assoc, List.cons_append, List.cons_append] at he
    have hbehind : d :: (u ++ rest) = d' :: (u' ++ b) := by
      rw [← dropWhile_run hn.continues hd, ← dropWhile_run hwn hd', he]
    obtain ⟨c, v, hc, hpc⟩ := ht.dropWhile_isBlank hresumes rest
    obtain ⟨c', v', hc', hpc'⟩ := ht'.dropWhile_isBlank h.resumes b
    rw [List.cons_append, hbehind, ← List.cons_append, hc'] at hc
    obtain ⟨rfl, -⟩ := List.cons.inj hc
    exact hpc hpc'

lemma length_le_of_standsAt (h : Apart form letter letters parts p) {behind : List Part}
    {found t y x a v rest : List Char} (ht : Spelling behind found t y)
    (hclear : Clear letter p behind) (he : t ++ rest = a ++ v) (ha : mayStartAfter true a = true)
    (hv : form.StandsAt x v) : t.length ≤ a.length := by
  obtain ⟨d, w, hd, hfold⟩ := h.head_of_standsAt hv
  have hdn : continuesName d = true :=
    continuesName_of_foldsTo (h.lower letter (by simp)) hfold
  induction ht generalizing a with
  | done => exact Nat.zero_le _
  | @word letters' s behind found t y hs _ ih =>
    rcases behind_or_inside he ha with ⟨a', rfl, hu, ha'⟩ | ⟨c, s', rfl, hv'⟩
    · simpa using ih hclear.2.2 hu ha'
    · -- a word has no start inside, and its first letter is not that of the form
      have hsn := hs.continues hclear.1
      obtain rfl : a = [] := eq_nil_of_mayStartAfter ha fun e he =>
        isWordChar_of_continuesName (hsn e (List.mem_append_left _ he))
      obtain ⟨rfl, -⟩ := List.cons.inj (hd.symm.trans hv')
      cases hs with
      | @cons l _ letters' _ hl _ =>
        have hlow := hclear.1 l (by simp)
        have hsame := foldsTo_unique hlow (h.lower letter (by simp)) hl hfold
        exact absurd (congrArg some hsame) hclear.2.1
  | @blanks s behind found t y hs _ ih =>
    rcases behind_or_inside he ha with ⟨a', rfl, hu, ha'⟩ | ⟨c, s', rfl, hv'⟩
    · simpa using ih hclear hu ha'
    · obtain ⟨rfl, -⟩ := List.cons.inj (hd.symm.trans hv')
      have hb := hs d (by simp)
      simp [isBlank_of_continuesName hdn] at hb
  | @someBlanks s behind found t y _ hs _ ih =>
    rcases behind_or_inside he ha with ⟨a', rfl, hu, ha'⟩ | ⟨c, s', rfl, hv'⟩
    · simpa using ih hclear hu ha'
    · obtain ⟨rfl, -⟩ := List.cons.inj (hd.symm.trans hv')
      have hb := hs d (by simp)
      simp [isBlank_of_continuesName hdn] at hb
  | @mark e behind found t y _ ih =>
    rcases behind_or_inside (s := [e]) he ha with ⟨a', rfl, hu, ha'⟩ | ⟨c, s', hs, hv'⟩
    · simpa using ih hclear.2 hu ha'
    · obtain ⟨rfl, -⟩ := List.cons.inj (hd.symm.trans hv')
      have hmem : d ∈ [e] := by simp [hs]
      rw [List.mem_singleton] at hmem
      rw [hmem, hclear.1] at hfold
      cases hfold
  | @name n behind found t y hn ht ih =>
    rcases behind_or_inside he ha with ⟨a', rfl, hu, ha'⟩ | ⟨c, s', rfl, hv'⟩
    · simpa using ih hclear.2.2 hu ha'
    · obtain rfl : a = [] := eq_nil_of_mayStartAfter ha fun e he =>
        isWordChar_of_continuesName (hn.continues e (List.mem_append_left _ he))
      rw [hv'] at hv
      exact (h.not_standsAt_name hn ht hclear.1 hclear.2.1 rest hv).elim

lemma length_le_of_spelling (h : Apart form letter letters parts p) {t y x a v rest : List Char}
    {start : Bool} (ht : Spelling form.parts [] t y) (he : t ++ rest = a ++ v) (hne : a ≠ [])
    (ha : mayStartAfter start a = true) (hv : form.StandsAt x v) : t.length ≤ a.length := by
  rw [h.parts_eq] at ht
  cases ht with
  | @word _ w _ _ t' _ hw ht' =>
    rcases behind_or_inside he ha with ⟨a', rfl, hu, ha'⟩ | ⟨c, s', rfl, hv'⟩
    · simpa using h.length_le_of_standsAt ht' h.clear hu ha' hv
    · refine absurd (eq_nil_of_mayStartAfter ha fun e he => ?_) hne
      exact isWordChar_of_continuesName (hw.continues h.lower e (List.mem_append_left _ he))

lemma standsAt_iff (h : Apart form letter letters parts p) (x text : List Char) :
    form.StandsAt x text ↔ ∃ rest, form.here? text = some (x, rest) := by
  simp only [Form.StandsAt, h.here?_eq_some_iff]
  exact exists_comm

lemma mem_namesFrom_iff (h : Apart form letter letters parts p) (skip : Nat) (start : Bool)
    (text x : List Char) :
    x ∈ namesFrom form skip start text ↔ ∃ before here, text = before ++ here ∧
      skip ≤ before.length ∧ mayStartAfter start before = true ∧ form.StandsAt x here := by
  fun_induction namesFrom form skip start text with
  | case1 skip start =>
    simp only [List.not_mem_nil, false_iff]
    rintro ⟨before, here, he, -, -, hs⟩
    obtain ⟨c, u, rfl, -⟩ := h.head_of_standsAt hs
    simp at he
  | case2 skip start c rest ih =>
    rw [ih, exists_before_cons_iff]
    simp
  | case3 start c rest name after hfound ih =>
    obtain ⟨rfl, hhere⟩ : start = true ∧ form.here? (c :: rest) = some (name, after) := by
      cases start
      · simp at hfound
      · exact ⟨rfl, hfound⟩
    have hname : form.StandsAt x (c :: rest) ↔ x = name := by
      rw [h.standsAt_iff, hhere]
      simp [eq_comm]
    obtain ⟨t, ht, hspell, -⟩ := h.here?_eq_some_iff.mp hhere
    have hlength := congrArg List.length ht
    rw [List.length_cons, List.length_append] at hlength
    rw [List.mem_cons, ih, exists_before_cons_iff, hname]
    simp only [true_and, Nat.zero_le]
    refine or_congr_right (exists_congr fun before => exists_congr fun here => ?_)
    refine and_congr_right fun he => and_iff_right_of_imp ?_
    rintro ⟨hstart, hs⟩
    -- what the search skips is the form that it found, in which no other one begins
    have hstart' : mayStartAfter true (c :: before) = true := by
      rw [mayStartAfter_cons]
      exact hstart
    have hsplit : t ++ after = (c :: before) ++ here := by
      rw [← ht, he, List.cons_append]
    have hle := h.length_le_of_spelling hspell hsplit (List.cons_ne_nil c before) hstart' hs
    rw [List.length_cons] at hle
    omega
  | case4 start c rest hnone ih =>
    have hnot : ¬ (start = true ∧ form.StandsAt x (c :: rest)) := by
      rintro ⟨rfl, hs⟩
      obtain ⟨after, hafter⟩ := (h.standsAt_iff x _).mp hs
      rw [if_pos rfl, hafter] at hnone
      cases hnone
    rw [ih, exists_before_cons_iff]
    simp [hnot]

end Apart

lemma mem_rowControls_iff (query name : String) :
    name ∈ rowControls query ↔
      ∃ form ∈ forms, ∃ x, form.OccursIn x query.toList ∧ lower x = name.toList := by
  simp only [rowControls, List.mem_map, List.mem_flatMap]
  constructor
  · rintro ⟨x, ⟨form, hform, hx⟩, rfl⟩
    obtain ⟨letter, letters, parts, p, h⟩ := exists_apart hform
    obtain ⟨before, here, he, -, hstart, hs⟩ := (h.mem_namesFrom_iff ..).mp hx
    exact ⟨form, hform, x, ⟨before, here, he, hstart, hs⟩, String.toList_ofList.symm⟩
  · rintro ⟨form, hform, x, ⟨before, here, he, hstart, hs⟩, hx⟩
    obtain ⟨letter, letters, parts, p, h⟩ := exists_apart hform
    have hmem := (h.mem_namesFrom_iff 0 true _ x).mpr
      ⟨before, here, he, Nat.zero_le _, hstart, hs⟩
    exact ⟨x, ⟨form, hform, hmem⟩, by rw [hx, String.ofList_toList]⟩

end Search

end ErpGateway.Gate
