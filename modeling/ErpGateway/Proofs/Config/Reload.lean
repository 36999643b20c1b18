import ErpGateway.Proofs.Config.Unread
import ErpGateway.Proofs.Files.Way

/-! Loading again from files that have grown: a file that lies deeper than the configuration and its
neighbours is not seen. -/

namespace ErpGateway.Config

open Files (GrowsAt)

variable {files files' : Files} {path : String} {formats : List Format} {place added : Place}

structure IsDeeper (added place : Place) : Prop where
  place : place.length < added.length
  env : 1 < added.length

lemma exists_place_of_load {environment : DotEnv.Environment} {c : Configuration}
    (h : load files environment path formats = .ok c) :
    ∃ place, files.place? path = some place := by
  obtain ⟨s, hs, -⟩ := load_eq_ok_iff.1 h
  obtain ⟨place, hplace, -⟩ := Option.bind_eq_some_iff.1 hs
  exact ⟨place, (Option.filter_eq_some_iff.1 hplace).1⟩

section Grows

variable (hgrows : GrowsAt files files' added)
include hgrows

lemma read?_of_length {q : Place} (hq : "" ∉ q) (hlength : q.length < added.length) :
    files'.read? q = files.read? q := by
  refine hgrows.read? q hq ?_
  rintro rfl
  exact Nat.lt_irrefl _ hlength

lemma extended?_of_grows {above : Place} {name : String} (habove : "" ∉ above)
    (hlength : above.length + 1 < added.length) :
    extended? files' formats above name = extended? files formats above name := by
  rw [extended?, extended?]
  refine congrArg (List.findSome? · _) (funext fun e => ?_)
  rw [read?_of_length hgrows]
  · rw [List.mem_append, List.mem_singleton, not_or]
    refine ⟨habove, fun hempty => ?_⟩
    have hpoint := (String.append_eq_empty_iff.mp hempty.symm).1
    exact absurd (String.append_eq_empty_iff.mp hpoint).2 (by decide)
  · rw [List.length_append, List.length_singleton]
    exact hlength

lemma source_of_grows (hplace : "" ∉ place) (hlength : place.length < added.length) :
    source files' path place formats = source files path place formats := by
  rw [source, source, read?_of_length hgrows hplace hlength]
  cases hlast : place.getLast? with
  | none => rfl
  | some last =>
    have hne : place ≠ [] := by
      rintro rfl
      cases hlast
    have hcounted : place.dropLast.length + 1 < added.length := by
      rw [List.length_dropLast, Nat.sub_add_cancel (List.length_pos_of_ne_nil hne)]
      exact hlength
    have habove : "" ∉ place.dropLast := fun h => hplace (List.dropLast_subset place h)
    simp only [extended?_of_grows hgrows habove hcounted]

lemma environmentOf_of_grows (hlength : 1 < added.length) (environment : DotEnv.Environment) :
    environmentOf files' environment = environmentOf files environment := by
  have henv : files'.read? [".env"] = files.read? [".env"] :=
    read?_of_length hgrows (by decide) hlength
  rw [environmentOf, environmentOf, henv]

lemma isThere_of_grows (hplace : "" ∉ place) (hlength : place.length < added.length)
    (h : files.isThere place = true) : files'.isThere place = true := by
  rw [Files.isThere, Bool.or_eq_true] at h ⊢
  rcases h with h | h
  · refine .inl ?_
    rw [Files.isFile, read?_of_length hgrows hplace hlength]
    exact h
  · exact .inr (hgrows.isDirectory place h)

lemma source?_of_grows {s : Source} (hplace : files.place? path = some place)
    (hlength : place.length < added.length) (h : source? files path formats = some s) :
    source? files' path formats = some s := by
  have hnamed := Files.named_of_place? hplace
  have hplace' : files'.place? path = some place :=
    hgrows.place? hplace fun hunder => Nat.not_le.mpr hlength hunder.length_le
  rw [source?, hplace, Option.filter_some] at h
  rw [source?, hplace', Option.filter_some]
  split at h
  · rename_i hthere
    rw [if_pos (isThere_of_grows hgrows hnamed hlength hthere), ← h]
    exact congrArg Except.toOption (source_of_grows hgrows hnamed hlength)
  · cases h

theorem load_of_grows {environment : DotEnv.Environment} {c : Configuration}
    (hplace : files.place? path = some place) (hdeeper : IsDeeper added place)
    (h : load files environment path formats = .ok c) :
    load files' environment path formats = .ok c := by
  obtain ⟨s, hs, hc, hvalid⟩ := load_eq_ok_iff.1 h
  refine load_eq_ok_iff.2 ⟨s, source?_of_grows hgrows hplace hdeeper.place hs, ?_, hvalid⟩
  rw [environmentOf_of_grows hgrows hdeeper.env]
  exact hc

end Grows

end ErpGateway.Config
