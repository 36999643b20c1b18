import ErpGateway.Proofs.Text.Trim
import ErpGateway.Secret

namespace ErpGateway.Secret

open Text

structure IsPlain (name : String) : Prop where
  ne_empty : name ≠ ""
  ne_here : name ≠ "."
  ne_up : name ≠ ".."
  no_separator : ∀ c ∈ name.toList, c ≠ '/' ∧ c ≠ '\\'

section Characters

variable {c : Char}

lemma ne_separator_of_isSafe (h : isSafe c = true) : c ≠ '/' ∧ c ≠ '\\' := by
  constructor <;> rintro rfl <;> exact absurd h (by decide)

lemma isBlank_of_isSafe (h : isSafe c = true) : isBlank c = false := by
  simp only [isSafe, Bool.or_eq_true, beq_iff_eq] at h
  rcases h with ((h | rfl) | rfl) | rfl
  · exact isBlank_of_isAlphanum h
  all_goals decide

end Characters

section Stem

def kept (key : String) : List Char :=
  (trim key.toList).map fun c => if isSafe c then c else '_'

lemma stem_eq (key : String) :
    stem key = if kept key = [] then "empty" else String.ofList (kept key) := by
  rw [stem, kept]
  split
  · rename_i h
    rw [if_pos h]
  · rename_i h
    rw [if_neg h]

lemma isSafe_of_mem_stem {key : String} {c : Char} (h : c ∈ (stem key).toList) :
    isSafe c = true := by
  rw [stem_eq] at h
  split at h
  · have hsafe : "empty".toList.all isSafe = true := by decide
    exact List.all_eq_true.mp hsafe c h
  · rw [String.toList_ofList, kept, List.mem_map] at h
    obtain ⟨d, -, rfl⟩ := h
    split
    · assumption
    · decide

lemma stem_of_safe {key : String} (hne : key ≠ "") (hsafe : ∀ c ∈ key.toList, isSafe c = true) :
    stem key = key := by
  have htrim : trim key.toList = key.toList :=
    trim_of_no_blank fun c hc => isBlank_of_isSafe (hsafe c hc)
  have hkept : kept key = key.toList := by
    rw [kept, htrim]
    refine (List.map_congr_left ?_).trans (List.map_id _)
    intro c hc
    rw [if_pos (hsafe c hc), id]
  rw [stem_eq, hkept, if_neg, String.ofList_toList]
  rwa [String.toList_eq_nil_iff]

end Stem

section Names

lemma toList_fileName (key : String) :
    (fileName key).toList = (stem key).toList ++ ".bin".toList :=
  String.toList_append

lemma isSafe_of_mem_fileName {key : String} {c : Char} (h : c ∈ (fileName key).toList) :
    isSafe c = true := by
  rw [toList_fileName, List.mem_append] at h
  rcases h with h | h
  · exact isSafe_of_mem_stem h
  · have hsafe : ".bin".toList.all isSafe = true := by decide
    exact List.all_eq_true.mp hsafe c h

lemma fileName_eq_iff {key other : String} : fileName key = fileName other ↔ stem key = stem other := by
  refine ⟨fun h => ?_, fun h => by rw [fileName, h, fileName]⟩
  rw [← String.toList_inj, toList_fileName, toList_fileName, List.append_cancel_right_eq] at h
  exact String.toList_inj.mp h

lemma isPlain_of_safe {name : String} (hlength : 2 < name.length)
    (hsafe : ∀ c ∈ name.toList, isSafe c = true) : IsPlain name := by
  have hne : ∀ other : String, other.length ≤ 2 → name ≠ other := by
    rintro other hother rfl
    omega
  exact ⟨hne _ (by decide), hne _ (by decide), hne _ (by decide),
    fun c hc => ne_separator_of_isSafe (hsafe c hc)⟩

lemma isPlain_fileName (key : String) : IsPlain (fileName key) := by
  refine isPlain_of_safe ?_ fun c => isSafe_of_mem_fileName
  rw [← String.length_toList, toList_fileName, List.length_append]
  exact Nat.lt_of_lt_of_le (by decide : 2 < 4) (Nat.le_add_left _ _)

end Names

end ErpGateway.Secret
