import ErpGateway.Calendar.Date
import Mathlib.Algebra.BigOperators.Group.List.Basic
import Mathlib.Algebra.GroupWithZero.Nat
import Mathlib.Tactic.Common

namespace ErpGateway.Calendar

section Years

lemma daysOfYears_succ (years : Int) :
    daysOfYears (years + 1) = daysOfYears years + 365 + if isLeap (years + 1) then 1 else 0 := by
  simp only [daysOfYears, isLeap, Bool.and_eq_true, Bool.or_eq_true, beq_iff_eq, bne_iff_ne]
  split <;> omega

lemma daysOfYears_mono {years later : Int} (h : years ≤ later) :
    daysOfYears years ≤ daysOfYears later := by
  simp only [daysOfYears]
  omega

lemma yearsBefore_spec (days : Int) :
    daysOfYears (yearsBefore days) ≤ days ∧ days < daysOfYears (yearsBefore days + 1) := by
  -- the mean length of a year is off by less than a year over any number of years
  have hguess : daysOfYears (400 * days / 146097) ≤ days ∧
      days < daysOfYears (400 * days / 146097 + 1 + 1) := by
    simp only [daysOfYears]
    omega
  rw [yearsBefore]
  split
  · rename_i hnext
    exact ⟨hnext, hguess.2⟩
  · rename_i hnext
    exact ⟨hguess.1, Int.not_le.mp hnext⟩

lemma yearsBefore_eq {days years : Int} (hfirst : daysOfYears years ≤ days)
    (hlast : days < daysOfYears (years + 1)) : yearsBefore days = years := by
  obtain ⟨hbefore, hafter⟩ := yearsBefore_spec days
  have hle : ¬ years < yearsBefore days := by
    intro hlt
    have := daysOfYears_mono (show years + 1 ≤ yearsBefore days from hlt)
    omega
  have hge : ¬ yearsBefore days < years := by
    intro hlt
    have := daysOfYears_mono (show yearsBefore days + 1 ≤ years from hlt)
    omega
  omega

end Years

section Months

lemma sum_monthLengths (year : Int) :
    (monthLengths year).sum = 365 + if isLeap year then 1 else 0 := by
  rw [monthLengths]
  cases isLeap year <;> rfl

lemma length_monthLengths (year : Int) : (monthLengths year).length = 12 := rfl

variable {lengths : List Nat}

lemma monthAndDay_spec {n : Nat} (h : n < lengths.sum) :
    (monthAndDay lengths n).1 < lengths.length ∧
      (monthAndDay lengths n).2 < lengths.getD (monthAndDay lengths n).1 0 ∧
      (lengths.take (monthAndDay lengths n).1).sum + (monthAndDay lengths n).2 = n := by
  induction lengths generalizing n with
  | nil => simp at h
  | cons length rest ih =>
    rw [monthAndDay]
    split
    · rename_i hn
      simpa using hn
    · rename_i hn
      rw [List.sum_cons] at h
      have hinside : n - length < rest.sum := by omega
      obtain ⟨hmonth, hday, hsum⟩ := ih hinside
      refine ⟨by simpa using hmonth, by simpa using hday, ?_⟩
      simp only [List.take_succ_cons, List.sum_cons]
      omega

lemma sum_take_add_lt {m m' k : Nat} (hm : m < m') (hm' : m' ≤ lengths.length)
    (hk : k < lengths.getD m 0) : (lengths.take m).sum + k < (lengths.take m').sum := by
  induction lengths generalizing m m' with
  | nil => simp at hk
  | cons length rest ih =>
    obtain ⟨m', rfl⟩ : ∃ i, m' = i + 1 := ⟨m' - 1, by omega⟩
    cases m with
    | zero =>
      simp only [List.getD_cons_zero] at hk
      simp only [List.take_zero, List.sum_nil, List.take_succ_cons, List.sum_cons]
      omega
    | succ m =>
      simp only [List.getD_cons_succ] at hk
      have hrest := ih (Nat.succ_lt_succ_iff.mp hm) (by simpa using hm') hk
      simp only [List.take_succ_cons, List.sum_cons]
      omega

lemma monthAndDay_eq {m k : Nat} (hm : m < lengths.length) (hk : k < lengths.getD m 0) :
    monthAndDay lengths ((lengths.take m).sum + k) = (m, k) := by
  induction lengths generalizing m with
  | nil => simp at hm
  | cons length rest ih =>
    cases m with
    | zero =>
      simp only [List.getD_cons_zero] at hk
      simp [monthAndDay, hk]
    | succ m =>
      simp only [List.getD_cons_succ] at hk
      have hrest := ih (Nat.succ_lt_succ_iff.mp hm) hk
      have hn : ¬ length + (rest.take m).sum + k < length := by omega
      have hsub : length + (rest.take m).sum + k - length = (rest.take m).sum + k := by omega
      rw [List.take_succ_cons, List.sum_cons, monthAndDay, if_neg hn, hsub, hrest]

end Months

namespace Date

structure Placed (d : Date) (years : Int) (month day : Nat) : Prop where
  eq : d = ⟨years + 1, month + 1, day + 1⟩
  month_lt : month < 12
  day_lt : day < (monthLengths (years + 1)).getD month 0

variable {d d' : Date} {years : Int} {month day : Nat}

lemma isValid_iff : d.isValid = true ↔ ∃ years month day, d.Placed years month day := by
  simp only [isValid, Bool.and_eq_true, decide_eq_true_eq]
  constructor
  · rintro ⟨⟨⟨hmonth, htwelve⟩, hday⟩, hlength⟩
    refine ⟨d.year - 1, d.month - 1, d.day - 1, ?_, by omega, ?_⟩
    · rw [Int.sub_add_cancel, Nat.sub_add_cancel hmonth, Nat.sub_add_cancel hday]
    · rw [Int.sub_add_cancel]
      omega
  · rintro ⟨years, month, day, rfl, hmonth, hday⟩
    refine ⟨⟨⟨?_, ?_⟩, ?_⟩, ?_⟩
    · exact Nat.le_add_left 1 month
    · exact hmonth
    · exact Nat.le_add_left 1 day
    · exact hday

lemma foldl_add_eq (lengths : List Nat) (n : Nat) : lengths.foldl (· + ·) n = lengths.sum + n := by
  induction lengths generalizing n with
  | nil => simp
  | cons length rest ih =>
    rw [List.foldl_cons, ih, List.sum_cons]
    omega

lemma Placed.toDays_eq (h : d.Placed years month day) :
    d.toDays = daysOfYears years + (((monthLengths (years + 1)).take month).sum + day : Nat) := by
  obtain ⟨rfl, -, -⟩ := h
  simp only [toDays, daysBefore, Nat.add_sub_cancel, foldl_add_eq, Int.add_sub_cancel]

lemma Placed.dayOfYear_lt (h : d.Placed years month day) :
    ((monthLengths (years + 1)).take month).sum + day < (monthLengths (years + 1)).sum := by
  have hlength := length_monthLengths (years + 1)
  have hlt := sum_take_add_lt h.month_lt (Nat.le_of_eq hlength.symm) h.day_lt
  rwa [List.take_of_length_le (Nat.le_of_eq hlength)] at hlt

lemma Placed.toDays_lt (h : d.Placed years month day) : d.toDays < daysOfYears (years + 1) := by
  have hlt := h.dayOfYear_lt
  rw [sum_monthLengths] at hlt
  rw [h.toDays_eq, daysOfYears_succ]
  cases hleap : isLeap (years + 1) with
  | false =>
    simp only [hleap, Bool.false_eq_true, if_false] at hlt ⊢
    omega
  | true =>
    simp only [hleap, if_true] at hlt ⊢
    omega

lemma placed_ofDays (days : Int) : ∃ years month day, (ofDays days).Placed years month day ∧
    daysOfYears years + (((monthLengths (years + 1)).take month).sum + day : Nat) = days := by
  obtain ⟨hfirst, hlast⟩ := yearsBefore_spec days
  have hinside : (days - daysOfYears (yearsBefore days)).toNat <
      (monthLengths (yearsBefore days + 1)).sum := by
    rw [daysOfYears_succ] at hlast
    rw [sum_monthLengths]
    split at hlast
    · rename_i hleap
      rw [if_pos hleap]
      omega
    · rename_i hleap
      rw [if_neg hleap]
      omega
  obtain ⟨hmonth, hday, hsum⟩ := monthAndDay_spec hinside
  refine ⟨_, _, _, ⟨rfl, hmonth, hday⟩, ?_⟩
  rw [hsum]
  omega

theorem isValid_ofDays (days : Int) : (ofDays days).isValid = true := by
  obtain ⟨_, _, _, hplaced, -⟩ := placed_ofDays days
  exact isValid_iff.mpr ⟨_, _, _, hplaced⟩

theorem toDays_ofDays (days : Int) : (ofDays days).toDays = days := by
  obtain ⟨_, _, _, hplaced, hdays⟩ := placed_ofDays days
  exact hplaced.toDays_eq.trans hdays

theorem ofDays_toDays (h : d.isValid = true) : ofDays d.toDays = d := by
  obtain ⟨years, month, day, hplaced⟩ := isValid_iff.mp h
  have hdays := hplaced.toDays_eq
  have hyears : yearsBefore d.toDays = years := yearsBefore_eq (by omega) hplaced.toDays_lt
  have hplace : (d.toDays - daysOfYears years).toNat =
      ((monthLengths (years + 1)).take month).sum + day := by omega
  rw [ofDays, hyears, hplace, monthAndDay_eq hplaced.month_lt hplaced.day_lt]
  exact hplaced.eq.symm

def Before (d d' : Date) : Prop :=
  d.year < d'.year ∨ d.year = d'.year ∧
    (d.month < d'.month ∨ d.month = d'.month ∧ d.day < d'.day)

lemma before_trichotomy (d d' : Date) : d.Before d' ∨ d = d' ∨ d'.Before d := by
  obtain ⟨year, month, day⟩ := d
  obtain ⟨year', month', day'⟩ := d'
  simp only [Before, Date.mk.injEq]
  omega

lemma toDays_lt_of_before (h : d.isValid = true) (h' : d'.isValid = true) (hbefore : d.Before d') :
    d.toDays < d'.toDays := by
  obtain ⟨years, month, day, hplaced⟩ := isValid_iff.mp h
  obtain ⟨years', month', day', hplaced'⟩ := isValid_iff.mp h'
  have hlt := hplaced.toDays_lt
  have hdays := hplaced.toDays_eq
  have hdays' := hplaced'.toDays_eq
  obtain ⟨rfl, -, hday⟩ := hplaced
  obtain ⟨rfl, hmonth', -⟩ := hplaced'
  have hcounts : years < years' ∨ years = years' ∧ (month < month' ∨ month = month' ∧ day < day') := by
    simp only [Before] at hbefore
    omega
  rcases hcounts with hyears | ⟨rfl, hmonths | ⟨rfl, hlater⟩⟩
  · have hmono := daysOfYears_mono (show years + 1 ≤ years' from hyears)
    omega
  · have hlength : month' ≤ (monthLengths (years + 1)).length := Nat.le_of_lt hmonth'
    have hsum := sum_take_add_lt hmonths hlength hday
    omega
  · omega

theorem before_ofDays_iff {n n' : Int} : (ofDays n).Before (ofDays n') ↔ n < n' := by
  constructor
  · intro h
    have hlt := toDays_lt_of_before (isValid_ofDays n) (isValid_ofDays n') h
    rwa [toDays_ofDays, toDays_ofDays] at hlt
  · intro h
    rcases before_trichotomy (ofDays n) (ofDays n') with hbefore | heq | hbefore
    · exact hbefore
    · have hdays := congrArg toDays heq
      rw [toDays_ofDays, toDays_ofDays] at hdays
      omega
    · have hlt := toDays_lt_of_before (isValid_ofDays n') (isValid_ofDays n) hbefore
      rw [toDays_ofDays, toDays_ofDays] at hlt
      omega

lemma year_ofDays {n : Int} (hfirst : 0 ≤ n) (hlast : n < daysOfYears 9999) :
    1 ≤ (ofDays n).year ∧ (ofDays n).year ≤ 9999 := by
  obtain ⟨hbefore, hafter⟩ := yearsBefore_spec n
  have hyear : (ofDays n).year = yearsBefore n + 1 := rfl
  rw [hyear]
  simp only [daysOfYears] at hbefore hafter hlast
  omega

end Date

end ErpGateway.Calendar
