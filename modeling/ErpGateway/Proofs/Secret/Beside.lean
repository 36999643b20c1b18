import ErpGateway.Proofs.Files.Way
import ErpGateway.Proofs.Secret.Store

/-! The directory of the secrets of a configuration. It is found on the way to the configuration, one part
before its end, and nothing that is stored in it changes a way that led past it. -/

namespace ErpGateway.Secret

open Files (IsSilent)
open Text (Octets)

variable {files : Files} {path : String} {parts : List String} {place base : Place}

section Silent

lemma silent_iff {part : String} : (part == "" || part == ".") = true ↔ IsSilent part := by
  rw [Bool.or_eq_true, beq_iff_eq, beq_iff_eq, IsSilent]

lemma exists_silent (parts : List String) :
    ∃ silent, parts = withoutSilentEnd parts ++ silent ∧ ∀ part ∈ silent, IsSilent part := by
  cases parts with
  | nil => exact ⟨[], rfl, List.forall_mem_nil _⟩
  | cons first rest =>
    refine ⟨(rest.reverse.takeWhile fun part => part == "" || part == ".").reverse, ?_, ?_⟩
    · rw [withoutSilentEnd, List.cons_append, ← List.reverse_append, List.takeWhile_append_dropWhile,
        List.reverse_reverse]
    · intro part hpart
      rw [List.mem_reverse] at hpart
      have hsilent := List.mem_takeWhile_imp hpart
      exact silent_iff.mp hsilent

lemma withoutSilentEnd_eq_nil_iff : withoutSilentEnd parts = [] ↔ parts = [] := by
  cases parts with
  | nil => exact Iff.rfl
  | cons first rest => exact ⟨fun h => (nomatch h), fun h => (nomatch h)⟩

lemma withoutSilentEnd_eq_of_getLast? (h : (withoutSilentEnd parts).getLast? = some "") :
    withoutSilentEnd parts = [""] := by
  cases parts with
  | nil => cases h
  | cons first rest =>
    rw [withoutSilentEnd] at h ⊢
    have hlast := List.head?_dropWhile_not (fun part => part == "" || part == ".") rest.reverse
    cases hkept : rest.reverse.dropWhile fun part => part == "" || part == "." with
    | nil =>
      rw [hkept] at h
      exact congrArg (fun part => [part]) (Option.some.inj h)
    | cons last before =>
      rw [hkept] at h hlast
      rw [List.reverse_cons, ← List.cons_append, List.getLast?_concat, Option.some.injEq] at h
      rw [h] at hlast
      cases hlast

end Silent

def above (path : String) : List String :=
  withoutSilentEnd (withoutSilentEnd (Files.partsOf path)).dropLast

section Parts

lemma partsOf_ne_nil (path : String) : Files.partsOf path ≠ [] := by
  rw [Files.partsOf_eq_splitOn, Ne, List.map_eq_nil_iff]
  exact List.splitOn_ne_nil _ _

lemma partsOf_eq (path : String) :
    ∃ before last after, Files.partsOf path = above path ++ before ++ last :: after ∧
      (∀ part ∈ before, IsSilent part) ∧ (∀ part ∈ after, IsSilent part) ∧
      (above path = [] → before = []) := by
  obtain ⟨after, hpath, hafter⟩ := exists_silent (Files.partsOf path)
  have hne : withoutSilentEnd (Files.partsOf path) ≠ [] :=
    withoutSilentEnd_eq_nil_iff.not.mpr (partsOf_ne_nil path)
  obtain ⟨before, hfirst, hbefore⟩ := exists_silent (withoutSilentEnd (Files.partsOf path)).dropLast
  refine ⟨before, (withoutSilentEnd (Files.partsOf path)).getLast hne, after, ?_, hbefore, hafter, ?_⟩
  · calc Files.partsOf path
        = withoutSilentEnd (Files.partsOf path) ++ after := hpath
      _ = (withoutSilentEnd (Files.partsOf path)).dropLast ++
            [(withoutSilentEnd (Files.partsOf path)).getLast hne] ++ after := by
          rw [List.dropLast_append_getLast hne]
      _ = (above path ++ before) ++
            (withoutSilentEnd (Files.partsOf path)).getLast hne :: after := by
          rw [List.append_assoc, List.singleton_append]
          exact congrArg (· ++ _) hfirst
  · intro habove
    rw [above, withoutSilentEnd_eq_nil_iff] at habove
    rw [habove] at hfirst
    exact hfirst.symm

lemma separator_notMem_above {part : String} (h : part ∈ above path) : '/' ∉ part.toList := by
  obtain ⟨before, last, after, hparts, -⟩ := partsOf_eq path
  have hmem : part ∈ Files.partsOf path := by
    rw [hparts, List.append_assoc]
    exact List.mem_append_left _ h
  exact Files.separator_notMem_of_mem_partsOf hmem

lemma getLast?_intercalate_above (hne : above path ≠ []) (hroot : above path ≠ [""]) :
    ("/".intercalate (above path)).toList.getLast? ≠ some '/' := by
  intro h
  obtain ⟨before, hbefore⟩ := List.getLast?_eq_some_iff.mp h
  have hjoined : "/".intercalate (above path) = String.ofList before ++ "/" ++ "" := by
    rw [← String.toList_inj, hbefore]
    simp
  have hparts := Files.partsOf_intercalate hne fun part => separator_notMem_above
  rw [hjoined, Files.partsOf_append] at hparts
  refine hroot (withoutSilentEnd_eq_of_getLast? ?_)
  rw [← above, ← hparts]
  exact List.getLast?_concat

lemma parent?_eq (path : String) :
    (parent? path).getD "" =
      if above path = [] then "" else if above path = [""] then "/"
      else "/".intercalate (above path) := by
  rw [parent?, above]
  split
  · rename_i h
    rw [h]
    rfl
  · rename_i h
    rw [h]
    rfl
  · split
    · rename_i h
      rw [if_pos h]
      rfl
    · rename_i h
      rw [if_neg (by rw [h]; exact List.cons_ne_nil _ _), if_pos h]
      rfl
    · rename_i hne hroot
      rw [if_neg hne, if_neg hroot]
      rfl

lemma directoryBeside_eq (path : String) :
    directoryBeside path =
      (if above path = [] then "." else "/".intercalate (above path)) ++ "/" ++ "secrets" := by
  rw [directoryBeside, parent?_eq]
  by_cases hne : above path = []
  · rw [if_pos hne, if_pos hne]
    rfl
  · rw [if_neg hne, if_neg hne]
    by_cases hroot : above path = [""]
    · rw [if_pos hroot, hroot]
      rfl
    · have hbase : ("/".intercalate (above path)).isEmpty ≠ true := by
        rw [Ne, String.isEmpty_iff]
        intro h
        have hparts := Files.partsOf_intercalate hne fun part => separator_notMem_above
        rw [h] at hparts
        exact hroot hparts.symm
      rw [if_neg hroot]
      rw [if_neg hbase, joined, if_neg (getLast?_intercalate_above hne hroot)]

lemma partsOf_directoryBeside (path : String) :
    Files.partsOf (directoryBeside path) =
      (if above path = [] then ["."] else above path) ++ ["secrets"] := by
  have hname : Files.partsOf "secrets" = ["secrets"] := by decide +kernel
  have hhere : Files.partsOf "." = ["."] := by decide +kernel
  rw [directoryBeside_eq, Files.partsOf_append, hname]
  split
  · rw [hhere]
  · rename_i hne
    rw [Files.partsOf_intercalate hne fun part => separator_notMem_above]

end Parts

section Place

def startAbove (path : String) : Place :=
  if above path = [] then [] else Files.start path

lemma named_startAbove (path : String) : "" ∉ startAbove path := by
  rw [startAbove]
  split
  · exact List.not_mem_nil
  · exact Files.named_start path

lemma directoryBeside_ne_empty (path : String) : directoryBeside path ≠ "" := by
  intro h
  have hparts := partsOf_directoryBeside path
  have hnone : Files.partsOf "" = [""] := by decide +kernel
  rw [h, hnone] at hparts
  have hlast := congrArg List.getLast? hparts
  rw [List.getLast?_concat] at hlast
  exact absurd hlast (by decide)

lemma head?_partsOf_of_above (hne : above path ≠ []) (more : List String) :
    (above path ++ more).head? = (Files.partsOf path).head? := by
  obtain ⟨before, last, after, hparts, -⟩ := partsOf_eq path
  obtain ⟨first, rest, habove⟩ := List.exists_cons_of_ne_nil hne
  rw [hparts, habove]
  rfl

lemma start_directoryBeside (hpath : path ≠ "") :
    Files.start (directoryBeside path) = startAbove path := by
  have hiff := Files.head?_partsOf (directoryBeside_ne_empty path)
  rw [partsOf_directoryBeside] at hiff
  rw [startAbove]
  by_cases habove : above path = []
  · rw [if_pos habove] at hiff ⊢
    rw [Files.start, if_neg (hiff.not.mp (by decide))]
  · rw [if_neg habove, head?_partsOf_of_above habove, Files.head?_partsOf hpath] at hiff
    rw [if_neg habove, Files.start, Files.start]
    exact if_congr hiff.symm rfl rfl

lemma exists_base (h : files.place? path = some place) :
    ∃ base, files.follow? (startAbove path) (above path) = some base ∧
      place.length ≤ base.length + 1 := by
  have hpath := Files.ne_empty_of_place? h
  rw [Files.place?_eq hpath] at h
  obtain ⟨before, last, after, hparts, hbefore, hafter, hnil⟩ := partsOf_eq path
  rw [hparts] at h
  -- what is left of the way after its directory
  have htail : ∀ {from_ : Place}, files.follow? from_ (last :: after) = some place →
      Files.Step files from_ last place := by
    intro from_ hlast
    obtain ⟨next, hstep, hnext⟩ := Files.step_of_follow? hlast
    rwa [Files.eq_of_follow?_silent hafter hnext]
  by_cases habove : above path = []
  · refine ⟨[], by rw [startAbove, if_pos habove, habove]; rfl, ?_⟩
    rw [habove, hnil habove] at h hparts
    exact (htail h).length_le_one hpath hparts
  · obtain ⟨between, hbetween, hlast⟩ := Files.follow?_append h
    obtain ⟨base, hbase, hsilent⟩ := Files.follow?_append hbetween
    have hstay := Files.eq_of_follow?_silent hbefore hsilent
    subst hstay
    exact ⟨between, by rw [startAbove, if_neg habove, hbase], (htail hlast).length_le⟩

lemma getD_place? (hpath : path ≠ "")
    (h : files.follow? (startAbove path) (above path) = some base) :
    (files.place? (directoryBeside path)).getD ["secrets"] = base ++ ["secrets"] := by
  rw [Files.place?_eq (directoryBeside_ne_empty path), start_directoryBeside hpath,
    partsOf_directoryBeside]
  have hname : Files.Step files base "secrets" (base ++ ["secrets"]) :=
    .enter (Files.isSilent_iff.not.mp (by decide)) (by decide)
  have henter : files.follow? base ["secrets"] = some (base ++ ["secrets"]) := hname.follow?_cons []
  by_cases habove : above path = []
  · rw [startAbove, if_pos habove, habove] at h
    obtain rfl := Option.some.inj h
    rw [startAbove, if_pos habove, if_pos habove]
    -- the directory is there, unless the files are such that nothing is
    by_cases hfile : files.isFile [] = true
    · rw [List.singleton_append, Files.follow?, if_pos (by decide), if_pos hfile]
      rfl
    · rw [List.singleton_append, (Files.Step.stay (.inr rfl) hfile).follow?_cons, henter]
      rfl
  · rw [if_neg habove, Files.follow?_append_of_eq_some h, henter, Option.getD_some]

end Place

lemma growsAt_stored {directory : Place} {key : String} (h : Accepts files directory key)
    (value : Octets) :
    files.GrowsAt (stored files directory key value) (placeOf directory key) where
  not_directory := h.not_directory
  isDirectory q hq := by
    rw [stored, Files.isDirectory_write]
    exact .inl (Files.isDirectory_makeDirectory_of_isDirectory hq)
  read? q hq hne := by
    rw [read?_stored, if_neg hne]
    rintro rfl
    exact hq (List.mem_append_right directory (List.mem_singleton_self ""))

end ErpGateway.Secret
