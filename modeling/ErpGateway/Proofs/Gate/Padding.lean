import ErpGateway.Proofs.Gate.BindingOrder
import ErpGateway.Proofs.Text.Trim

namespace ErpGateway.Gate

open Text

section Ends

lemma isWordChar_of_isBlank {c : Char} (h : isBlank c = true) : isWordChar c = false := by
  have hcode : c.toNat ∈ [9, 10, 11, 12, 13, 0x20, 0x85, 0xA0, 0x1680, 0x2000, 0x2001, 0x2002,
      0x2003, 0x2004, 0x2005, 0x2006, 0x2007, 0x2008, 0x2009, 0x200A, 0x2028, 0x2029, 0x202F,
      0x205F, 0x3000] := by
    simp only [isBlank, Bool.or_eq_true, Bool.and_eq_true, decide_eq_true_eq, beq_iff_eq] at h
    simp only [List.mem_cons, List.not_mem_nil, or_false]
    omega
  rw [← Char.ofNat_toNat c]
  revert hcode
  generalize c.toNat = n
  revert n
  decide +kernel

variable {left right : List Char}

lemma mayStartAfter_blanks (hleft : ∀ c ∈ left, isBlank c = true) :
    mayStartAfter true left = true := by
  rw [mayStartAfter]
  cases hlast : left.getLast? with
  | none => rfl
  | some c => simp [isWordChar_of_isBlank (hleft c (List.mem_of_getLast? hlast))]

lemma endsWord_append_blanks (hright : ∀ c ∈ right, isBlank c = true) (rest : List Char) :
    endsWord (rest ++ right) = endsWord rest := by
  cases rest with
  | cons c rest => rfl
  | nil =>
    cases right with
    | nil => rfl
    | cons c right => simp [endsWord, isWordChar_of_isBlank (hright c List.mem_cons_self)]

def Closes (p : Char → Prop) : List Part → Prop
  | [] => False
  | [.word letters] => letters ≠ [] ∧ ∀ l ∈ letters, ∀ c, foldsTo l c = true → p c
  | [.mark c] => p c
  | _ :: parts => Closes p parts

lemma Closes.of_cons {p : Char → Prop} {part other : Part} {parts : List Part}
    (h : Closes p (part :: other :: parts)) : Closes p (other :: parts) := by
  cases part <;> exact h

lemma SameWord.exists_last {p : Char → Prop} {letters w : List Char} (h : SameWord letters w)
    (hp : ∀ l ∈ letters, ∀ c, foldsTo l c = true → p c) (hne : letters ≠ []) :
    ∃ u c, w = u ++ [c] ∧ p c := by
  induction h with
  | nil => exact absurd rfl hne
  | @cons letter c letters w hc hw ih =>
    cases hw with
    | nil => exact ⟨[], c, rfl, hp letter List.mem_cons_self c hc⟩
    | cons hd hw =>
      obtain ⟨u, e, he, hpe⟩ := ih (fun l hl => hp l (List.mem_cons_of_mem _ hl))
        (List.cons_ne_nil _ _)
      exact ⟨c :: u, e, by rw [he, List.cons_append], hpe⟩

lemma exists_last_append {p : Char → Prop} {t : List Char} (s : List Char)
    (h : ∃ u c, t = u ++ [c] ∧ p c) : ∃ u c, s ++ t = u ++ [c] ∧ p c := by
  obtain ⟨u, c, rfl, hc⟩ := h
  exact ⟨s ++ u, c, (List.append_assoc ..).symm, hc⟩

lemma Spelling.exists_last {p : Char → Prop} {parts : List Part} {found t x : List Char}
    (h : Spelling parts found t x) (hp : Closes p parts) : ∃ u c, t = u ++ [c] ∧ p c := by
  induction h with
  | done => exact hp.elim
  | @word letters w parts found t x hw ht ih =>
    cases parts with
    | nil =>
      cases ht
      rw [List.append_nil]
      exact hw.exists_last hp.2 hp.1
    | cons part parts => exact exists_last_append w (ih hp.of_cons)
  | @blanks s parts found t x _ _ ih =>
    cases parts with
    | nil => exact hp.elim
    | cons part parts => exact exists_last_append s (ih hp)
  | @someBlanks s parts found t x _ _ _ ih =>
    cases parts with
    | nil => exact hp.elim
    | cons part parts => exact exists_last_append s (ih hp)
  | @mark c parts found t x ht ih =>
    cases parts with
    | nil =>
      cases ht
      exact ⟨[], c, rfl, hp⟩
    | cons part parts => exact exists_last_append [c] (ih hp.of_cons)
  | @name n parts found t x _ _ ih =>
    cases parts with
    | nil => exact hp.elim
    | cons part parts => exact exists_last_append n (ih hp)

lemma closes_of_mem_forms {form : Form} (h : form ∈ forms) :
    Closes (fun c => isBlank c = false) form.parts := by
  have hword : ∀ letters : List Char, letters.all Char.isLower = true →
      ∀ l ∈ letters, ∀ c, foldsTo l c = true → isBlank c = false :=
    fun letters hlower l hl c => isBlank_of_foldsTo (isLower_of_all hlower l hl)
  simp only [forms, List.mem_cons, List.not_mem_nil, or_false] at h
  rcases h with rfl | rfl | rfl
  · exact ⟨by decide, hword _ (by decide)⟩
  · exact ⟨by decide, hword _ (by decide)⟩
  · exact (by decide : isBlank ')' = false)

end Ends

section Occurrences

variable {form : Form} {left text right x : List Char}

lemma Form.StandsAt.append_blanks (h : form.StandsAt x text)
    (hright : ∀ c ∈ right, isBlank c = true) : form.StandsAt x (text ++ right) := by
  obtain ⟨t, rest, rfl, ht, hends⟩ := h
  refine ⟨t, rest ++ right, List.append_assoc .., ht, ?_⟩
  rw [endsWord_append_blanks hright]
  exact hends

lemma Form.StandsAt.of_append_blanks (hform : form ∈ forms)
    (hright : ∀ c ∈ right, isBlank c = true) {before here : List Char}
    (he : text ++ right = before ++ here) (h : form.StandsAt x here) :
    ∃ here', text = before ++ here' ∧ form.StandsAt x here' := by
  obtain ⟨t, rest, rfl, ht, hends⟩ := h
  obtain ⟨u, c, rfl, hc⟩ := ht.exists_last (closes_of_mem_forms hform)
  rw [← List.append_assoc, ← List.append_assoc] at he
  rcases List.append_eq_append_iff.mp he with ⟨s, hs, hblank⟩ | ⟨s, rfl, rfl⟩
  · cases s using List.reverseRecOn with
    | nil =>
      rw [List.append_nil] at hs
      rw [List.nil_append] at hblank
      subst hblank
      refine ⟨u ++ [c], by rw [← hs, List.append_assoc], u ++ [c], [], by simp, ht, fun _ => rfl⟩
    | append_singleton s d =>
      -- the last character of the form would be one of the blanks
      rw [← List.append_assoc] at hs
      obtain ⟨-, hcd⟩ := List.append_inj' hs rfl
      obtain rfl : c = d := List.head_eq_of_cons_eq hcd
      have hd := hright c (by rw [hblank]; simp)
      rw [hc] at hd
      cases hd
  · refine ⟨u ++ [c] ++ s, by simp, u ++ [c], s, rfl, ht, ?_⟩
    rwa [endsWord_append_blanks hright] at hends

lemma Form.occursIn_padded (hform : form ∈ forms) (hleft : ∀ c ∈ left, isBlank c = true)
    (hright : ∀ c ∈ right, isBlank c = true) :
    form.OccursIn x (left ++ text ++ right) ↔ form.OccursIn x text := by
  constructor
  · rintro ⟨before, here, he, hstart, hstands⟩
    obtain ⟨letter, letters, parts, p, hapart⟩ := exists_apart hform
    rcases behind_or_inside he hstart with ⟨before', rfl, he', hstart'⟩ | ⟨c, s, hs, hhere⟩
    · obtain ⟨here', rfl, hstands'⟩ := hstands.of_append_blanks hform hright he'
      exact ⟨before', here', rfl, hstart', hstands'⟩
    · -- a form starts with a letter
      obtain ⟨d, u, hd, hfold⟩ := hapart.head_of_standsAt hstands
      obtain ⟨rfl, -⟩ := List.cons.inj (hd.symm.trans hhere)
      have hlower := hapart.lower letter List.mem_cons_self
      have hblank := hleft d (by rw [hs]; simp)
      rw [isBlank_of_foldsTo hlower hfold] at hblank
      cases hblank
  · rintro ⟨before, here, rfl, hstart, hstands⟩
    refine ⟨left ++ before, here ++ right, by simp, ?_, hstands.append_blanks hright⟩
    rwa [mayStartAfter_append, mayStartAfter_blanks hleft]

end Occurrences

section Admission

variable {left right : String}

lemma check_padded (query : String) (hleft : ∀ c ∈ left.toList, isBlank c = true)
    (hright : ∀ c ∈ right.toList, isBlank c = true) : check (left ++ query ++ right) = check query := by
  rw [check, check, String.toList_append, String.toList_append, trim_padded hleft hright]

lemma contains_rowControls_padded (query name : String)
    (hleft : ∀ c ∈ left.toList, isBlank c = true) (hright : ∀ c ∈ right.toList, isBlank c = true) :
    (rowControls (left ++ query ++ right)).contains name = (rowControls query).contains name := by
  rw [Bool.eq_iff_iff, List.contains_iff_mem, List.contains_iff_mem, mem_rowControls_iff,
    mem_rowControls_iff, String.toList_append, String.toList_append]
  refine exists_congr fun form => and_congr_right fun hform => exists_congr fun x => ?_
  rw [Form.occursIn_padded hform hleft hright]

lemma bindParameters_congr {controls controls' : List String}
    (h : ∀ name, controls.contains name = controls'.contains name) (parameters : Json.Members) :
    bindParameters parameters controls = bindParameters parameters controls' := by
  have hbinding : bindingOf controls = bindingOf controls' := by
    funext p
    rw [bindingOf, bindingOf, h]
  by_cases hb : Bindable parameters
  · rw [bindParameters_of_bindable hb, bindParameters_of_bindable hb, hbinding]
  · rw [bindParameters_of_not_bindable hb, bindParameters_of_not_bindable hb]

lemma trimmed_append (query : String) (hleft : ∀ c ∈ left.toList, isBlank c = true)
    (hright : ∀ c ∈ right.toList, isBlank c = true) :
    trimmed (left ++ query ++ right) = trimmed query := by
  rw [trimmed, trimmed, String.toList_append, String.toList_append, trim_padded hleft hright]

lemma admission_padded (query : Query) (hleft : ∀ c ∈ left.toList, isBlank c = true)
    (hright : ∀ c ∈ right.toList, isBlank c = true) :
    admission { query with text := left ++ query.text ++ right } = admission query := by
  have hcontrols := fun name => contains_rowControls_padded query.text name hleft hright
  rw [admission, admission, check_padded query.text hleft hright, trimmed_append query.text hleft hright,
    bindParameters_congr hcontrols]

lemma admission_trimmed (query : Query) :
    admission { query with text := trimmed query.text } = admission query := by
  obtain ⟨l, r, htext, hl, hr⟩ := exists_append_trim_append query.text.toList
  have hsplit : query.text = String.ofList l ++ trimmed query.text ++ String.ofList r := by
    rw [trimmed, ← String.ofList_append, ← String.ofList_append, ← htext, String.ofList_toList]
  have hleft : ∀ c ∈ (String.ofList l).toList, isBlank c = true := by simpa using hl
  have hright : ∀ c ∈ (String.ofList r).toList, isBlank c = true := by simpa using hr
  rw [← admission_padded { query with text := trimmed query.text } hleft hright, ← hsplit]

end Admission

/-- A query with blanks around it is admitted, bound and refused as it is without them, so that what is
admitted is admitted again as it stands. -/
theorem admission_of_blanks_around (query : Query) (left right : String)
    (hleft : ∀ c ∈ left.toList, isBlank c = true) (hright : ∀ c ∈ right.toList, isBlank c = true) :
    admission { query with text := left ++ query.text ++ right } = admission query ∧
      ∀ accepted, admission query = .ok accepted →
        admission { query with text := accepted.text } = .ok accepted := by
  refine ⟨admission_padded query hleft hright, ?_⟩
  intro accepted h
  obtain ⟨-, -, htext⟩ := of_admission_eq_ok h
  rw [htext, admission_trimmed, h]

def openQuery : Query where
  text := "SELECT a FROM t WHERE b <> 'TOP ( @N )"
  parameters := [("@n", .text "12 ")]

theorem admission_of_blanks_around_open_literal :
    (∀ c ∈ "\u3000\n".toList, isBlank c = true) ∧ (∀ c ∈ " \u0085\t".toList, isBlank c = true) ∧
      admission { openQuery with text := "\u3000\n" ++ openQuery.text ++ " \u0085\t" } =
        .ok ⟨openQuery.text, [("n", .int 12)]⟩ := by
  have hleft : ∀ c ∈ "\u3000\n".toList, isBlank c = true := List.all_eq_true.mp (by decide)
  have hright : ∀ c ∈ " \u0085\t".toList, isBlank c = true := List.all_eq_true.mp (by decide)
  obtain ⟨hsame, -⟩ := admission_of_blanks_around openQuery _ _ hleft hright
  exact ⟨hleft, hright, hsame.trans (by decide +kernel)⟩

end ErpGateway.Gate
