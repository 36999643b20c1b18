import ErpGateway.Config.Path
import ErpGateway.Proofs.Keyed
import ErpGateway.Text.Ascii
import Mathlib.Tactic.Common

namespace ErpGateway.Text

lemma toLower_of_toNat {c : Char} (h : c.toNat < 0x41 ∨ 0x5A < c.toNat) : c.toLower = c := by
  have hcapital : ¬(c.val ≥ 'A'.val ∧ c.val ≤ 'Z'.val) := by
    rw [ge_iff_le, UInt32.le_iff_toNat_le, UInt32.le_iff_toNat_le]
    change ¬(0x41 ≤ c.toNat ∧ c.toNat ≤ 0x5A)
    omega
  exact dif_neg hcapital

lemma toLower_of_isAscii {c : Char} (h : isAscii c = true) :
    c.toLower.toLower = c.toLower ∧ isAscii c.toLower = true := by
  have hall : ∀ n < 128, (Char.ofNat n).toLower.toLower = (Char.ofNat n).toLower ∧
      isAscii (Char.ofNat n).toLower = true := by decide
  have hc := hall c.toNat (by simpa [isAscii] using h)
  rwa [Char.ofNat_toNat] at hc

lemma toNat_ofNat_of_isValidChar {n : Nat} (h : n.isValidChar) : (Char.ofNat n).toNat = n := by
  rw [Char.ofNat, dif_pos h]
  rfl

lemma small_of_mem_capitals {r : Capitals} (h : r ∈ capitals) : 0x5A < r.small := by
  revert r
  decide +kernel

lemma toLower_ofNat_of_small {r : Capitals} {n m : Nat} (h : r ∈ capitals)
    (hm : r.small? n = some m) : (Char.ofNat m).toLower = Char.ofNat m := by
  have hsmall := small_of_mem_capitals h
  have hle : r.small ≤ m := by
    rw [Capitals.small?] at hm
    split at hm
    · injection hm with hm
      omega
    · cases hm
  by_cases hvalid : m.isValidChar
  · apply toLower_of_toNat
    rw [toNat_ofNat_of_isValidChar hvalid]
    omega
  · rw [Char.ofNat, dif_neg hvalid]
    rfl

lemma toLower_smallLetter (c : Char) : (smallLetter c).toLower = smallLetter c := by
  rw [smallLetter]
  split
  · rename_i hascii
    exact (toLower_of_isAscii hascii).1
  · rename_i hascii
    cases hfound : capitals.findSome? fun r => r.small? c.toNat with
    | none =>
      apply toLower_of_toNat
      have hbeyond : ¬c.toNat < 128 := by simpa [isAscii] using hascii
      change c.toNat < 0x41 ∨ 0x5A < c.toNat
      omega
    | some m =>
      obtain ⟨r, hr, hm⟩ := List.exists_of_findSome?_eq_some hfound
      exact toLower_ofNat_of_small hr hm

lemma lower_lowerCaseAfter (before cs : List Char) :
    lower (lowerCaseAfter before cs) = lowerCaseAfter before cs := by
  induction cs generalizing before with
  | nil => rfl
  | cons c rest ih =>
    have hrest := ih (c :: before)
    rw [lower] at hrest
    rw [lowerCaseAfter, lower, List.map_append, hrest]
    congr 1
    split
    · decide
    · split
      · decide
      · rw [List.map_singleton, toLower_smallLetter]

lemma lowerCase_lowered {s : String} (h : s.toList.all isAscii = true) :
    lowerCase (lowered s) = lowered s := by
  rw [List.all_eq_true] at h
  have hascii : ∀ c ∈ lower s.toList, isAscii c = true := by
    intro c hc
    obtain ⟨d, hd, rfl⟩ := List.mem_map.1 hc
    exact (toLower_of_isAscii (h d hd)).2
  have hlower : (lower s.toList).map Char.toLower = lower s.toList := by
    rw [lower, List.map_map]
    exact List.map_congr_left fun c hc => (toLower_of_isAscii (h c hc)).1
  rw [lowered, lowerCase, String.toList_ofList, lowerCaseAfter_of_isAscii hascii, hlower]

lemma lowered_lowerCase (s : String) : lowered (lowerCase s) = lowerCase s := by
  rw [lowered, lowerCase, String.toList_ofList, lower_lowerCaseAfter]

end ErpGateway.Text

namespace ErpGateway.Config.Value

def Small (key : String) : Prop :=
  Text.lowered key = key

lemma small_foldKey (key : String) : Small (foldKey key) :=
  Text.lowered_lowerCase key

inductive Folded : Value → Prop where
  | plain (origin : Option Origin) (p : Plain) : Folded (plain origin p)
  | array (origin : Option Origin) (items : List Value) : Folded (array origin items)
  | table {origin : Option Origin} {members : Table} (small : ∀ e ∈ members, Small e.1)
      (folded : ∀ e ∈ members, Folded e.2) : Folded (table origin members)

section Table

variable {origin : Option Origin} {members : Table}

lemma folded_nil : Folded (table origin []) :=
  .table (fun _ h => absurd h List.not_mem_nil) fun _ h => absurd h List.not_mem_nil

lemma Folded.get? {key : String} {v : Value} (h : Folded (Value.table origin members))
    (hv : members.get? key = some v) : Folded v := by
  obtain ⟨⟩ | ⟨⟩ | ⟨-, hfolded⟩ := h
  exact hfolded _ (Keyed.mem_of_get? hv)

lemma Folded.put {key : String} {v : Value} (h : Folded (Value.table origin members))
    (hkey : Small key) (hv : Folded v) : Folded (Value.table origin (members.put key v)) := by
  obtain ⟨⟩ | ⟨⟩ | ⟨hsmall, hfolded⟩ := h
  refine .table (fun e he => ?_) fun e he => ?_
  · obtain rfl | he := Keyed.mem_of_mem_put he
    · exact hkey
    · exact hsmall e he
  · obtain rfl | he := Keyed.mem_of_mem_put he
    · exact hv
    · exact hfolded e he

lemma Folded.asTable {v : Value} (h : Folded v) (origin : Option Origin) :
    Folded (Value.table origin v.asTable.2) := by
  cases h with
  | plain | array => exact folded_nil
  | table hsmall hfolded => exact .table hsmall hfolded

end Table

mutual

lemma folded_putMember {origin : Option Origin} {into : Table} {key : String} (v : Value)
    (hkey : Small key) (h : Folded (table origin into)) :
    Folded (table origin (putMember key v into)) := by
  match v with
  | .plain _ _ => exact h.put hkey (.plain _ _)
  | .array _ _ => exact h.put hkey (.array _ _)
  | .table _ incoming =>
    rw [putMember]
    refine h.put hkey (folded_merge incoming ?_)
    cases hthere : into.get? key with
    | none => exact folded_nil
    | some there => exact h.get? hthere

lemma folded_merge (incoming : List (String × Value)) {there : Value} (h : Folded there) :
    Folded (merge incoming there) := by
  match incoming with
  | [] => exact h
  | (key, v) :: rest =>
    rw [merge]
    exact folded_merge rest (folded_putMember v (small_foldKey key) (h.asTable _))

end

lemma folded_putAt {v there : Value} {name : String} {rest : List Step} (h : Folded there) :
    Folded (putAt v (.key name :: rest) there) := by
  induction rest generalizing name there with
  | nil => exact folded_putMember v (small_foldKey name) (h.asTable _)
  | cons step rest ih =>
    rw [putAt, changed]
    · refine (h.asTable _).put (small_foldKey name) ?_
      cases step with
      | position n => exact .array _ _
      | key inner =>
        apply ih
        cases hthere : there.asTable.2.get? (foldKey name) with
        | none => exact .plain _ _
        | some inside => exact (h.asTable none).get? hthere
    · exact List.cons_ne_nil step rest

end ErpGateway.Config.Value
