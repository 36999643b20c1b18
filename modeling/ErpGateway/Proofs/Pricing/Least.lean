import ErpGateway.Pricing.Least
import Mathlib.Order.WithBot
import Mathlib.Tactic.Common

namespace ErpGateway.Pricing

section First

variable {α β : Type} [LinearOrder β] {precedes : α → α → Bool} {key : α → β} {items : List α} {a b : α}

def FirstLeast (key : α → β) (items : List α) (a : α) : Prop :=
  ∃ before after, items = before ++ a :: after ∧
    (∀ b ∈ before, key a < key b) ∧ ∀ b ∈ after, key a ≤ key b

lemma FirstLeast.mem (h : FirstLeast key items a) : a ∈ items := by
  obtain ⟨before, after, rfl, -, -⟩ := h
  exact List.mem_append_right _ List.mem_cons_self

lemma FirstLeast.le (h : FirstLeast key items a) (hb : b ∈ items) : key a ≤ key b := by
  obtain ⟨before, after, rfl, hbefore, hafter⟩ := h
  rw [List.mem_append, List.mem_cons] at hb
  rcases hb with hb | rfl | hb
  · exact (hbefore b hb).le
  · exact le_rfl
  · exact hafter b hb

lemma firstLeast_spec (hkey : ∀ a b, precedes a b = true ↔ key a < key b)
    (h : firstLeast precedes items = some a) : FirstLeast key items a := by
  induction items generalizing a with
  | nil => cases h
  | cons first rest ih =>
    rw [firstLeast] at h
    cases hrest : firstLeast precedes rest with
    | none =>
      rw [hrest] at h
      obtain rfl := Option.some.inj h
      rw [firstLeast_eq_none_iff.mp hrest]
      exact ⟨[], [], rfl, by simp, by simp⟩
    | some b =>
      have hb := ih hrest
      rw [hrest] at h
      dsimp only at h
      split at h
      · rename_i hlt
        obtain rfl := Option.some.inj h
        obtain ⟨before, after, rfl, hbefore, hafter⟩ := hb
        refine ⟨first :: before, after, rfl, ?_, hafter⟩
        rintro c (_ | ⟨_, hc⟩)
        · exact (hkey b first).mp hlt
        · exact hbefore c hc
      · rename_i hnot
        obtain rfl := Option.some.inj h
        have hle : key first ≤ key b := not_lt.mp fun hlt => hnot ((hkey b first).mpr hlt)
        exact ⟨[], rest, rfl, by simp, fun c hc => hle.trans (hb.le hc)⟩

lemma firstLeast_of_spec (hkey : ∀ a b, precedes a b = true ↔ key a < key b)
    (h : FirstLeast key items a) : firstLeast precedes items = some a := by
  obtain ⟨before, after, rfl, hbefore, hafter⟩ := h
  induction before with
  | nil =>
    rw [List.nil_append, firstLeast]
    cases hrest : firstLeast precedes after with
    | none => rfl
    | some b =>
      have hle := hafter b (mem_of_firstLeast hrest)
      exact if_neg fun hlt => ((hkey b a).mp hlt).not_ge hle
  | cons c before ih =>
    rw [List.forall_mem_cons] at hbefore
    rw [List.cons_append, firstLeast, ih hbefore.2]
    exact if_pos ((hkey a c).mpr hbefore.1)

lemma firstLeast_eq_some_iff (hkey : ∀ a b, precedes a b = true ↔ key a < key b) :
    firstLeast precedes items = some a ↔ FirstLeast key items a :=
  ⟨firstLeast_spec hkey, firstLeast_of_spec hkey⟩

lemma exists_firstLeast (precedes : α → α → Bool) (h : items ≠ []) :
    ∃ a, firstLeast precedes items = some a := by
  rw [← Option.ne_none_iff_exists']
  exact fun hnone => h (firstLeast_eq_none_iff.mp hnone)

end First

section Joined

variable {α β : Type} [LinearOrder β] {precedes : α → α → Bool} {key : α → β} {a b : α}

lemma FirstLeast.append_of_lt {xs ys : List α} (ha : FirstLeast key xs a)
    (hb : FirstLeast key ys b) (h : key b < key a) : FirstLeast key (xs ++ ys) b := by
  obtain ⟨before, after, rfl, hbefore, hafter⟩ := hb
  refine ⟨xs ++ before, after, (List.append_assoc ..).symm, ?_, hafter⟩
  intro c hc
  rcases List.mem_append.mp hc with hc | hc
  · exact h.trans_le (ha.le hc)
  · exact hbefore c hc

lemma FirstLeast.append_of_le {xs ys : List α} (ha : FirstLeast key xs a)
    (h : ∀ b ∈ ys, key a ≤ key b) : FirstLeast key (xs ++ ys) a := by
  obtain ⟨before, after, rfl, hbefore, hafter⟩ := ha
  refine ⟨before, after ++ ys, by simp, hbefore, ?_⟩
  intro c hc
  rcases List.mem_append.mp hc with hc | hc
  · exact hafter c hc
  · exact h c hc

lemma firstLeast_append (hkey : ∀ a b, precedes a b = true ↔ key a < key b) (xs ys : List α) :
    firstLeast precedes (xs ++ ys) =
      firstLeast precedes ((firstLeast precedes xs).toList ++ (firstLeast precedes ys).toList) := by
  cases hxs : firstLeast precedes xs with
  | none =>
    rw [firstLeast_eq_none_iff.mp hxs]
    cases hys : firstLeast precedes ys with
    | none => exact hys
    | some b => exact hys
  | some a =>
    have ha := firstLeast_spec hkey hxs
    cases hys : firstLeast precedes ys with
    | none =>
      rw [firstLeast_eq_none_iff.mp hys, List.append_nil]
      exact hxs
    | some b =>
      have hb := firstLeast_spec hkey hys
      by_cases hlt : key b < key a
      · rw [firstLeast_of_spec hkey (ha.append_of_lt hb hlt)]
        exact (if_pos ((hkey b a).mpr hlt)).symm
      · rw [firstLeast_of_spec hkey
          (ha.append_of_le fun c hc => (not_lt.mp hlt).trans (hb.le hc))]
        exact (if_neg fun h => hlt ((hkey b a).mp h)).symm

end Joined

section Reordered

variable {α β : Type} [LinearOrder β] {precedes : α → α → Bool} {key : α → β}
  {items items' : List α} {a b : α}

def Foremost (key : α → β) (items : List α) (a : α) : Prop :=
  a ∈ items ∧ ∀ b ∈ items, key a ≤ key b

lemma FirstLeast.foremost (h : FirstLeast key items a) : Foremost key items a :=
  ⟨h.mem, fun _ hb => h.le hb⟩

lemma Foremost.of_perm (h : Foremost key items a) (hperm : items.Perm items') :
    Foremost key items' a :=
  ⟨hperm.mem_iff.mp h.1, fun b hb => h.2 b (hperm.mem_iff.mpr hb)⟩

lemma Foremost.key_eq (ha : Foremost key items a) (hb : Foremost key items b) : key a = key b :=
  le_antisymm (ha.2 b hb.1) (hb.2 a ha.1)

lemma Foremost.exists_perm (hkey : ∀ a b, precedes a b = true ↔ key a < key b)
    (h : Foremost key items a) : ∃ items', items'.Perm items ∧ firstLeast precedes items' = some a := by
  obtain ⟨before, after, rfl⟩ := List.mem_iff_append.mp h.1
  refine ⟨a :: (before ++ after), List.perm_middle.symm, ?_⟩
  refine firstLeast_of_spec hkey ⟨[], before ++ after, rfl, nofun, ?_⟩
  intro b hb
  exact h.2 b (List.perm_middle.mem_iff.mpr (List.mem_cons_of_mem a hb))

lemma firstLeast_of_perm (hkey : ∀ a b, precedes a b = true ↔ key a < key b)
    (h : items'.Perm items) :
    (firstLeast precedes items' = none ∧ firstLeast precedes items = none) ∨
      ∃ a b, firstLeast precedes items' = some a ∧ firstLeast precedes items = some b ∧
        Foremost key items a ∧ Foremost key items b := by
  rcases eq_or_ne items [] with rfl | hne
  · rw [h.eq_nil]
    exact Or.inl ⟨rfl, rfl⟩
  · have hne' : items' ≠ [] := by
      rintro rfl
      exact hne h.symm.eq_nil
    obtain ⟨a, ha⟩ := exists_firstLeast precedes hne'
    obtain ⟨b, hb⟩ := exists_firstLeast precedes hne
    exact Or.inr ⟨a, b, ha, hb, (firstLeast_spec hkey ha).foremost.of_perm h,
      (firstLeast_spec hkey hb).foremost⟩

end Reordered

section Keys

open Decimal

lemma smallerFirst_iff (a b : Signed) : smallerFirst a b = true ↔ a.orderKey < b.orderKey :=
  decide_eq_true_iff

lemma greaterFirst_iff (a b : Signed) : greaterFirst a b = true ↔ -a.orderKey < -b.orderKey := by
  rw [greaterFirst, smallerFirst_iff]
  omega

lemma noneLast_iff {α β : Type} [LinearOrder β] {precedes : α → α → Bool} {key : α → β}
    (hkey : ∀ a b, precedes a b = true ↔ key a < key b) (a b : Option α) :
    noneLast precedes a b = true ↔
      (a.elim ⊤ fun x => (key x : WithTop β)) < b.elim ⊤ fun x => (key x : WithTop β) := by
  cases a with
  | none => cases b <;> simp [noneLast]
  | some a =>
    cases b with
    | none => simp [noneLast, WithTop.coe_lt_top]
    | some b => simpa [noneLast] using hkey a b

end Keys

end ErpGateway.Pricing
