import ErpGateway.Files
import ErpGateway.Proofs.Keyed

namespace ErpGateway.Files

open Text (Octets)

section Write

variable (files : Files) (place : Place) (content : Octets)

lemma read?_write (q : Place) :
    (files.write place content).read? q = if q = place then some content else files.read? q :=
  Keyed.get?_put place q content files

lemma any_write (f : Place → Bool) :
    ((files.write place content).any fun e => f e.1) = ((files.any fun e => f e.1) || f place) := by
  have hkeys : ∀ entries : Files, (entries.any fun e => f e.1) = (entries.map Prod.fst).any f := by
    intro entries
    rw [List.any_map]
    rfl
  rw [hkeys, hkeys, write, Keyed.keys_put]
  split
  · rename_i hthere
    cases hplace : f place with
    | false => exact (Bool.or_false _).symm
    | true =>
      rw [Bool.or_true]
      exact List.any_eq_true.mpr ⟨place, hthere, hplace⟩
  · simp

lemma isDirectory_write (q : Place) :
    (files.write place content).isDirectory q = true ↔
      files.isDirectory q = true ∨ q <+: place ∧ q.length < place.length := by
  rw [isDirectory, isDirectory,
    any_write files place content fun p => q.isPrefixOf p && decide (q.length < p.length)]
  simp [or_assoc]

lemma isBlocked_write (q : Place) :
    (files.write place content).isBlocked q = true ↔
      files.isBlocked q = true ∨ place <+: q ∧ place.length < q.length := by
  rw [isBlocked, isBlocked,
    any_write files place content fun p => p.isPrefixOf q && decide (p.length < q.length)]
  simp

end Write

section Child

variable {files : Files} {directory : Place} {name : String}

lemma isFile_iff {place : Place} : files.isFile place = true ↔ place ∈ files.map Prod.fst := by
  rw [isFile, Option.isSome_iff_exists, Keyed.mem_keys_iff]
  rfl

lemma prefix_of_prefix_snoc {p : Place} (h : p <+: directory ++ [name])
    (hlt : p.length < (directory ++ [name]).length) : p <+: directory := by
  rw [List.length_append, List.length_singleton] at hlt
  exact List.prefix_of_prefix_length_le h (List.prefix_append directory [name]) (by omega)

lemma isBlocked_snoc :
    files.isBlocked (directory ++ [name]) = true ↔
      files.isBlocked directory = true ∨ files.isFile directory = true := by
  rw [isFile_iff]
  simp only [isBlocked, List.any_eq_true, Bool.and_eq_true, List.isPrefixOf_iff_prefix,
    decide_eq_true_eq]
  constructor
  · rintro ⟨e, he, hunder, hlt⟩
    have hdirectory := prefix_of_prefix_snoc hunder hlt
    rcases Nat.lt_or_ge e.1.length directory.length with hshort | hlong
    · exact .inl ⟨e, he, hdirectory, hshort⟩
    · refine .inr ?_
      rw [← hdirectory.eq_of_length_le hlong]
      exact List.mem_map_of_mem he
  · rintro (⟨e, he, hunder, hlt⟩ | hfile)
    · refine ⟨e, he, hunder.trans (List.prefix_append directory [name]), ?_⟩
      rw [List.length_append]
      exact Nat.lt_add_right _ hlt
    · obtain ⟨e, he, heq⟩ := List.mem_map.mp hfile
      refine ⟨e, he, ?_, ?_⟩ <;> rw [heq]
      · exact List.prefix_append directory [name]
      · rw [List.length_append]
        exact Nat.lt_succ_self _

lemma isDirectory_of_isFile_snoc (h : files.isFile (directory ++ [name]) = true) :
    files.isDirectory directory = true := by
  obtain ⟨e, he, heq⟩ := List.mem_map.mp (isFile_iff.mp h)
  rw [isDirectory, Bool.or_eq_true]
  refine .inr (List.any_eq_true.mpr ⟨e, he, ?_⟩)
  rw [heq, Bool.and_eq_true, List.isPrefixOf_iff_prefix, decide_eq_true_eq, List.length_append]
  exact ⟨List.prefix_append directory [name], Nat.lt_succ_self _⟩

end Child

section MakeDirectory

variable (files : Files) (directory q : Place)

lemma read?_makeDirectory (hq : q ≠ directory ++ [""]) :
    (files.makeDirectory directory).read? q = files.read? q := by
  rw [makeDirectory]
  split
  · rfl
  · exact (read?_write files (directory ++ [""]) [] q).trans (if_neg hq)

variable {files directory q}

lemma isDirectory_makeDirectory (hq : ¬ q <+: directory) :
    (files.makeDirectory directory).isDirectory q = true ↔ files.isDirectory q = true := by
  rw [makeDirectory]
  split
  · rfl
  · refine (isDirectory_write files (directory ++ [""]) [] q).trans (or_iff_left ?_)
    exact fun h => hq (prefix_of_prefix_snoc h.1 h.2)

lemma isDirectory_makeDirectory_of_isDirectory (h : files.isDirectory q = true) :
    (files.makeDirectory directory).isDirectory q = true := by
  rw [makeDirectory]
  split
  · exact h
  · exact (isDirectory_write files (directory ++ [""]) [] q).mpr (.inl h)

lemma isBlocked_makeDirectory (hq : q.length ≤ directory.length + 1) :
    (files.makeDirectory directory).isBlocked q = true ↔ files.isBlocked q = true := by
  rw [makeDirectory]
  split
  · rfl
  · refine (isBlocked_write files (directory ++ [""]) [] q).trans (or_iff_left ?_)
    rintro ⟨-, hlt⟩
    rw [List.length_append, List.length_singleton] at hlt
    omega

end MakeDirectory

end ErpGateway.Files
