import ErpGateway.Proofs.Text.Order

namespace ErpGateway.Text

variable {s t : String}

theorem ofUtf8?_utf8 (s : String) : ofUtf8? (utf8 s) = some s := by
  have hoctets : (⟨(utf8 s).toArray⟩ : ByteArray) = s.toByteArray := rfl
  rw [ofUtf8?, hoctets, String.fromUTF8?, dif_pos s.isValidUTF8]
  rfl

lemma utf8_append (s t : String) : utf8 (s ++ t) = utf8 s ++ utf8 t := by
  rw [utf8_eq_flatMap, utf8_eq_flatMap, utf8_eq_flatMap, String.toList_append, List.flatMap_append]

lemma eq_lineFeed_of_mem {c : Char} (h : 0x0A ∈ String.utf8EncodeChar c) : c = '\n' := by
  have hvalid := c.valid
  simp only [UInt32.isValidChar, Nat.isValidChar] at hvalid
  suffices hval : c.val.toNat = 10 from Char.toNat_inj.mp hval
  have hfeed : (0x0A : UInt8).toNat = 10 := rfl
  rw [String.utf8EncodeChar] at h
  generalize c.val.toNat = n at h hvalid ⊢
  split_ifs at h <;>
    simp only [List.mem_cons, List.not_mem_nil, or_false, ← UInt8.toNat_inj, hfeed,
      UInt8.toNat_ofNat'] at h <;>
    omega

lemma lineFeed_notMem_utf8 (h : '\n' ∉ s.toList) : 0x0A ∉ utf8 s := by
  rw [utf8_eq_flatMap, List.mem_flatMap]
  rintro ⟨c, hc, hmem⟩
  exact h (eq_lineFeed_of_mem hmem ▸ hc)

lemma takeWhile_utf8_append (h : '\n' ∉ s.toList) (rest : Octets) :
    (utf8 s ++ rest).takeWhile (· != 0x0A) = utf8 s ++ rest.takeWhile (· != 0x0A) := by
  refine List.takeWhile_append_of_pos fun b hb => ?_
  rw [bne_iff_ne]
  rintro rfl
  exact lineFeed_notMem_utf8 h hb

end ErpGateway.Text
