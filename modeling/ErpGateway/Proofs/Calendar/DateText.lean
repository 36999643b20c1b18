import ErpGateway.Proofs.Calendar.Days
import ErpGateway.Proofs.Decimal.Fixed
import ErpGateway.Proofs.Text.Order
import ErpGateway.Proofs.Text.Trim

/-! Dates as they are written, with four digits for the year and two for the month and the day. They read
back as the same dates, and their texts are in the order of the days. -/

namespace ErpGateway.Calendar

open Decimal

structure DayText where
  year : List Char
  month : List Char
  day : List Char
  fixed_year : Fixed 4 year
  fixed_month : Fixed 2 month
  fixed_day : Fixed 2 day

namespace DayText

variable (t : DayText)

def chars : List Char :=
  t.year ++ '-' :: (t.month ++ '-' :: t.day)

def date : Date :=
  ⟨ofDigits t.year, ofDigits t.month, ofDigits t.day⟩

def NamesDay : Prop :=
  ∃ n : Int, (Date.ofDays n).text.toList = t.chars

end DayText

section Reading

variable {most : Nat} {run rest : List Char} {c : Char}

lemma digitRun?_append (h : Fixed (most + 1) run) (rest : List Char) :
    Date.digitRun? (most + 1) (run ++ rest) = some (ofDigits run, rest) := by
  have htake : (run ++ rest).take (most + 1) = run := by
    rw [← h.length, List.take_left]
  have hrun : run.takeWhile Char.isDigit = run := List.takeWhile_eq_self_iff.mpr h.isDigit
  obtain ⟨c, tail, rfl, -⟩ := h.exists_cons
  rw [Date.digitRun?, htake, hrun]
  simp

lemma trimLeft_fixed (h : Fixed (most + 1) run) (rest : List Char) :
    Text.trimLeft (run ++ rest) = run ++ rest := by
  obtain ⟨c, tail, rfl, hc⟩ := h.exists_cons
  exact Text.trimLeft_eq_self (Text.isBlank_of_isDigit hc)

lemma year?_append (h : Fixed 4 run) (rest : List Char) :
    Date.year? (run ++ rest) = some ((ofDigits run : Int), rest) := by
  have hdigits := digitRun?_append h rest
  have htrim := trimLeft_fixed h rest
  obtain ⟨c, tail, rfl, hc⟩ := h.exists_cons
  rw [Date.year?, htrim, List.cons_append]
  -- a digit is not one of the signs
  split
  · rename_i heq
    rw [(List.cons.inj heq).1] at hc
    cases hc
  · rename_i heq
    rw [(List.cons.inj heq).1] at hc
    cases hc
  · rw [← List.cons_append, hdigits]
    rfl

lemma trim_chars (t : DayText) : Text.trim t.chars = t.chars := by
  obtain ⟨day, c, hday, hc⟩ := t.fixed_day.exists_snoc
  have hend : t.chars = (t.year ++ '-' :: (t.month ++ '-' :: day)) ++ [c] := by
    simp [DayText.chars, hday]
  rw [Text.trim, DayText.chars, trimLeft_fixed t.fixed_year, ← DayText.chars, hend,
    Text.trimRight_append_cons (Text.isBlank_of_isDigit hc)]
  rfl

lemma ofText?_chars (t : DayText) :
    Date.ofText? t.chars = if t.date.isValid then some t.date else none := by
  have hyear := t.fixed_year.ofDigits_lt_pow
  have hmin : Date.yearMin ≤ (ofDigits t.year : Int) := by
    simp only [Date.yearMin]
    omega
  have hmax : (ofDigits t.year : Int) ≤ Date.yearMax := by
    simp only [Date.yearMax]
    omega
  have hday := digitRun?_append t.fixed_day []
  rw [List.append_nil] at hday
  have htrim := trimLeft_fixed t.fixed_day []
  rw [List.append_nil] at htrim
  simp only [Date.ofText?, DayText.chars, year?_append t.fixed_year, Option.bind_eq_bind,
    Option.bind_some, Date.dash?, trimLeft_fixed t.fixed_month, digitRun?_append t.fixed_month,
    htrim, hday]
  simp only [List.isEmpty_nil, decide_eq_true hmin, decide_eq_true hmax, Bool.true_and]
  rfl

end Reading

namespace DayText

variable {t t' : DayText}

lemma chars_eq_iff : t.chars = t'.chars ↔ t.date = t'.date := by
  constructor
  · intro h
    obtain ⟨hyear, h⟩ := List.append_inj h (t.fixed_year.length.trans t'.fixed_year.length.symm)
    have hrest := (List.cons.inj h).2
    obtain ⟨hmonth, h⟩ := List.append_inj hrest
      (t.fixed_month.length.trans t'.fixed_month.length.symm)
    have hday := (List.cons.inj h).2
    rw [date, date, hyear, hmonth, hday]
  · intro h
    obtain ⟨hyear, hmonth, hday⟩ := Date.mk.inj h
    rw [chars, chars, t.fixed_year.eq_of_ofDigits_eq t'.fixed_year (Int.ofNat_inj.mp hyear),
      t.fixed_month.eq_of_ofDigits_eq t'.fixed_month hmonth,
      t.fixed_day.eq_of_ofDigits_eq t'.fixed_day hday]

lemma chars_lt_of_before (h : t.date.Before t'.date) : t.chars < t'.chars := by
  rcases h with hyear | ⟨hyear, hmonth | ⟨hmonth, hday⟩⟩
  · have hlt := (t.fixed_year.ofDigits_lt_iff t'.fixed_year).mp (Int.ofNat_lt.mp hyear)
    exact append_lt_append hlt (t.fixed_year.length.trans t'.fixed_year.length.symm) _ _
  · have hsame := t.fixed_year.eq_of_ofDigits_eq t'.fixed_year (Int.ofNat_inj.mp hyear)
    have hlt := (t.fixed_month.ofDigits_lt_iff t'.fixed_month).mp hmonth
    rw [chars, chars, hsame]
    exact List.append_left_lt (List.Lex.cons
      (append_lt_append hlt (t.fixed_month.length.trans t'.fixed_month.length.symm) _ _))
  · have hsame := t.fixed_year.eq_of_ofDigits_eq t'.fixed_year (Int.ofNat_inj.mp hyear)
    have hsame' := t.fixed_month.eq_of_ofDigits_eq t'.fixed_month hmonth
    have hlt := (t.fixed_day.ofDigits_lt_iff t'.fixed_day).mp hday
    rw [chars, chars, hsame, hsame']
    exact List.append_left_lt (List.Lex.cons (List.append_left_lt (List.Lex.cons hlt)))

end DayText

namespace Date

variable {d d' : Date}

lemma length_month_le (year : Int) : ∀ month < 12, (monthLengths year).getD month 0 ≤ 31 := by
  rw [monthLengths]
  cases isLeap year <;> decide

lemma month_and_day_lt (h : d.isValid = true) : d.month < 100 ∧ d.day < 100 := by
  obtain ⟨years, month, day, rfl, hmonth, hday⟩ := isValid_iff.mp h
  have hlength := length_month_le (years + 1) month hmonth
  dsimp only
  omega

lemma exists_dayText (h : d.isValid = true) (hfirst : 0 ≤ d.year) (hlast : d.year ≤ 9999) :
    ∃ t : DayText, d.text.toList = t.chars ∧ t.date = d := by
  obtain ⟨hmonth, hday⟩ := month_and_day_lt h
  refine ⟨⟨padded 4 d.year.toNat, padded 2 d.month, padded 2 d.day,
    fixed_padded (by decide) (by omega), fixed_padded (by decide) hmonth,
    fixed_padded (by decide) hday⟩, ?_, ?_⟩
  · have hyear : (decide (0 ≤ d.year) && decide (d.year ≤ 9999)) = true := by
      simp [hfirst, hlast]
    simp only [text, yearText, hyear, if_true, DayText.chars, twoDigits, String.toList_ofList,
      List.append_assoc, List.cons_append]
  · simp only [DayText.date, ofDigits_padded]
    rw [Int.toNat_of_nonneg hfirst]

lemma year_of_text {t : DayText} (h : d.text.toList = t.chars) : 0 ≤ d.year ∧ d.year ≤ 9999 := by
  by_contra hout
  have hyear : (decide (0 ≤ d.year) && decide (d.year ≤ 9999)) = false := by
    rw [← Bool.not_eq_true, Bool.and_eq_true, decide_eq_true_eq, decide_eq_true_eq]
    exact hout
  simp only [text, yearText, hyear, Bool.false_eq_true, if_false, String.toList_ofList,
    DayText.chars, List.cons_append] at h
  obtain ⟨c, year, hc, hdigit⟩ := t.fixed_year.exists_cons
  rw [hc, List.cons_append] at h
  rw [← (List.cons.inj h).1] at hdigit
  split at hdigit <;> cases hdigit

end Date

lemma DayText.namesDay_iff (t : DayText) : t.NamesDay ↔ t.date.isValid = true := by
  constructor
  · rintro ⟨n, hn⟩
    obtain ⟨hfirst, hlast⟩ := Date.year_of_text hn
    obtain ⟨t', ht', hdate⟩ := Date.exists_dayText (Date.isValid_ofDays n) hfirst hlast
    have hsame : t'.chars = t.chars := ht'.symm.trans hn
    rw [← chars_eq_iff.mp hsame, hdate]
    exact Date.isValid_ofDays n
  · intro h
    have hyear := t.fixed_year.ofDigits_lt_pow
    have hfirst : 0 ≤ t.date.year := Int.natCast_nonneg _
    have hlast : t.date.year ≤ 9999 := by
      simp only [date]
      omega
    obtain ⟨t', ht', hdate⟩ := Date.exists_dayText h hfirst hlast
    refine ⟨t.date.toDays, ?_⟩
    rw [Date.ofDays_toDays h, ht']
    exact chars_eq_iff.mpr hdate

section Days

variable {n n' : Int}

def Recorded (n : Int) : Prop :=
  (⟨1, 1, 1⟩ : Date).toDays ≤ n ∧ n ≤ (⟨9999, 12, 31⟩ : Date).toDays

instance : Decidable (Recorded n) :=
  inferInstanceAs (Decidable (_ ∧ _))

lemma exists_dayText_of_recorded (h : Recorded n) :
    ∃ t : DayText, (Date.ofDays n).text.toList = t.chars ∧ t.date = Date.ofDays n := by
  obtain ⟨hfirst, hlast⟩ := h
  have hyear : 1 ≤ (Date.ofDays n).year ∧ (Date.ofDays n).year ≤ 9999 :=
    Date.year_ofDays hfirst (Int.lt_of_le_of_lt hlast (by decide))
  exact Date.exists_dayText (Date.isValid_ofDays n) (by omega) hyear.2

theorem utf8_text_lt_iff (h : Recorded n) (h' : Recorded n') :
    Text.utf8 (Date.ofDays n).text < Text.utf8 (Date.ofDays n').text ↔ n < n' := by
  obtain ⟨t, ht, hdate⟩ := exists_dayText_of_recorded h
  obtain ⟨t', ht', hdate'⟩ := exists_dayText_of_recorded h'
  have hmono {n n' : Int} {t t' : DayText} (hdate : t.date = Date.ofDays n)
      (hdate' : t'.date = Date.ofDays n') (hlt : n < n') : t.chars < t'.chars := by
    refine DayText.chars_lt_of_before ?_
    rw [hdate, hdate']
    exact Date.before_ofDays_iff.mpr hlt
  rw [Text.utf8_lt_utf8_iff]
  change (Date.ofDays n).text.toList < (Date.ofDays n').text.toList ↔ n < n'
  rw [ht, ht']
  constructor
  · intro hlt
    rcases Int.lt_trichotomy n n' with hn | rfl | hn
    · exact hn
    · rw [DayText.chars_eq_iff.mpr (hdate.trans hdate'.symm)] at hlt
      exact absurd hlt (List.lt_irrefl _)
    · exact absurd hlt (List.lt_asymm (hmono hdate' hdate hn))
  · exact hmono hdate hdate'

end Days

end ErpGateway.Calendar
