import ErpGateway.Proofs.Files
import ErpGateway.Proofs.Secret.FileName

/-! The secrets of a directory as a map from the stems of keys to octets. Storing one changes its own file
and no other, so that what is found for a key is what was stored last for its stem. -/

namespace ErpGateway.Secret

open Text (Octets)

variable {files : Files} {directory : Place} {key other : String} {value : Octets}

def placeOf (directory : Place) (key : String) : Place :=
  directory ++ [fileName key]

/-- The directory is there or can be made, and nothing keeps the file of the key from being written and
read. -/
structure Accepts (files : Files) (directory : Place) (key : String) : Prop where
  not_file : ¬ files.isFile directory = true
  not_blocked : ¬ files.isBlocked directory = true
  not_directory : ¬ files.isDirectory (placeOf directory key) = true
  not_tooLong : ¬ isTooLong key = true

instance : Decidable (Accepts files directory key) :=
  decidable_of_iff
    (¬ files.isFile directory = true ∧ ¬ files.isBlocked directory = true ∧
      ¬ files.isDirectory (placeOf directory key) = true ∧ ¬ isTooLong key = true)
    ⟨fun h => ⟨h.1, h.2.1, h.2.2.1, h.2.2.2⟩,
      fun h => ⟨h.not_file, h.not_blocked, h.not_directory, h.not_tooLong⟩⟩

section Place

lemma length_placeOf : (placeOf directory key).length = directory.length + 1 := by
  rw [placeOf, List.length_append, List.length_singleton]

lemma placeOf_inj : placeOf directory key = placeOf directory other ↔ stem key = stem other := by
  rw [placeOf, placeOf, List.append_cancel_left_eq, List.singleton_inj, fileName_eq_iff]

lemma placeOf_ne_marker : placeOf directory key ≠ directory ++ [""] := by
  rw [placeOf, Ne, List.append_cancel_left_eq, List.singleton_inj]
  exact (isPlain_fileName key).ne_empty

lemma not_placeOf_under : ¬ placeOf directory key <+: directory := by
  intro h
  have hlength := h.length_le
  rw [length_placeOf] at hlength
  omega

end Place

section Set

def stored (files : Files) (directory : Place) (key : String) (value : Octets) : Files :=
  (files.makeDirectory directory).write (placeOf directory key) value

lemma set_eq (hfile : ¬ files.isFile directory = true) (hblocked : ¬ files.isBlocked directory = true) :
    set files directory key value = put (files.makeDirectory directory) directory key value := by
  rw [set, if_neg hfile, if_neg hblocked]

lemma problem_set_eq_none_iff :
    (set files directory key value).problem = none ↔ Accepts files directory key := by
  have hdirectory : (files.makeDirectory directory).isDirectory (placeOf directory key) = true ↔
      files.isDirectory (placeOf directory key) = true :=
    Files.isDirectory_makeDirectory not_placeOf_under
  constructor
  · intro h
    by_cases hfile : files.isFile directory = true
    · rw [set, if_pos hfile] at h
      cases h
    · by_cases hblocked : files.isBlocked directory = true
      · rw [set, if_neg hfile, if_pos hblocked] at h
        cases h
      · rw [set_eq hfile hblocked, put] at h
        split at h
        · cases h
        · split at h
          · cases h
          · rename_i hlong hthere
            exact ⟨hfile, hblocked, hdirectory.not.mp hthere, hlong⟩
  · rintro ⟨hfile, hblocked, hthere, hlong⟩
    rw [set_eq hfile hblocked, put, if_neg hlong]
    exact congrArg Stored.problem (if_neg (hdirectory.not.mpr hthere))

lemma files_set (h : Accepts files directory key) (value : Octets) :
    (set files directory key value).files = stored files directory key value := by
  have hthere := (Files.isDirectory_makeDirectory not_placeOf_under).not.mpr h.not_directory
  rw [set_eq h.not_file h.not_blocked, put, if_neg h.not_tooLong]
  exact congrArg Stored.files (if_neg hthere)

lemma read?_stored {q : Place} (hq : q ≠ directory ++ [""]) :
    (stored files directory key value).read? q =
      if q = placeOf directory key then some value else files.read? q := by
  rw [stored, Files.read?_write, Files.read?_makeDirectory files directory q hq]

lemma isFile_stored {q : Place} (hq : q ≠ directory ++ [""]) (hne : q ≠ placeOf directory key) :
    (stored files directory key value).isFile q = files.isFile q := by
  rw [Files.isFile, read?_stored hq, if_neg hne]
  rfl

lemma Accepts.stored (h : Accepts files directory other) :
    Accepts (stored files directory key value) directory other where
  not_file := by
    have hlength : ∀ name, directory ≠ directory ++ [name] := by
      intro name heq
      have hlength := congrArg List.length heq
      rw [List.length_append, List.length_singleton] at hlength
      omega
    rw [isFile_stored (hlength _) (hlength _)]
    exact h.not_file
  not_blocked := by
    rw [Secret.stored, Files.isBlocked_write, Files.isBlocked_makeDirectory (Nat.le_succ _), not_or]
    refine ⟨h.not_blocked, fun hunder => ?_⟩
    exact not_placeOf_under hunder.1
  not_directory := by
    rw [Secret.stored, Files.isDirectory_write,
      Files.isDirectory_makeDirectory not_placeOf_under, not_or]
    refine ⟨h.not_directory, fun hunder => ?_⟩
    rw [length_placeOf, length_placeOf] at hunder
    exact Nat.lt_irrefl _ hunder.2
  not_tooLong := h.not_tooLong

end Set

section Get

lemma get_eq (h : Accepts files directory key) :
    get files directory key =
      (files.read? (placeOf directory key)).elim (.error (.missing key)) .ok := by
  have hblocked : ¬ files.isBlocked (placeOf directory key) = true := by
    rw [placeOf, Files.isBlocked_snoc, not_or]
    exact ⟨h.not_blocked, h.not_file⟩
  rw [get, ← placeOf, if_neg hblocked]
  cases hread : files.read? (placeOf directory key) with
  | none =>
    split
    · rfl
    · rw [if_neg h.not_tooLong]
      exact if_neg h.not_directory
  | some content =>
    have hfile : files.isFile (directory ++ [fileName key]) = true := by
      change (files.read? (placeOf directory key)).isSome = true
      rw [hread]
      rfl
    rw [Files.isDirectory_of_isFile_snoc hfile, Bool.not_true, if_neg Bool.false_ne_true, if_neg h.not_tooLong]
    rfl

end Get

structure Call where
  key : String
  value : Octets
  letters : String

def after (files : Files) (directory : Place) (calls : List Call) : Files :=
  calls.foldl (fun files call => (set files directory call.key call.value).files) files

def latest? (calls : List Call) (key : String) : Option Octets :=
  (calls.reverse.find? fun call => stem call.key == stem key).map Call.value

section Run

variable {calls : List Call}

lemma after_nil : after files directory [] = files :=
  rfl

lemma after_cons (call : Call) (calls : List Call) :
    after files directory (call :: calls) =
      after (set files directory call.key call.value).files directory calls :=
  rfl

lemma after_append (calls more : List Call) :
    after files directory (calls ++ more) = after (after files directory calls) directory more :=
  List.foldl_append

lemma latest?_append_singleton (calls : List Call) (call : Call) (key : String) :
    latest? (calls ++ [call]) key =
      if stem call.key = stem key then some call.value else latest? calls key := by
  rw [latest?, List.reverse_append, List.reverse_singleton, List.singleton_append, List.find?_cons]
  by_cases hstem : stem call.key = stem key
  · rw [if_pos hstem, beq_iff_eq.mpr hstem]
    rfl
  · rw [if_neg hstem, beq_eq_false_iff_ne.mpr hstem]
    rfl

lemma Accepts.after (h : Accepts files directory key)
    (hcalls : ∀ call ∈ calls, Accepts files directory call.key) :
    Accepts (after files directory calls) directory key := by
  induction calls generalizing files with
  | nil => exact h
  | cons call calls ih =>
    obtain ⟨hcall, hrest⟩ := List.forall_mem_cons.mp hcalls
    rw [after_cons, files_set hcall]
    exact ih h.stored fun other hother => (hrest other hother).stored

lemma read?_after (hcalls : ∀ call ∈ calls, Accepts files directory call.key) :
    (after files directory calls).read? (placeOf directory key) =
      (latest? calls key).or (files.read? (placeOf directory key)) := by
  induction calls using List.reverseRecOn with
  | nil => rfl
  | append_singleton calls call ih =>
    obtain ⟨hbefore, hcall⟩ := List.forall_mem_append.mp hcalls
    have haccepts := (hcall call (List.mem_singleton_self call)).after hbefore
    rw [after_append, after_cons, after_nil, files_set haccepts, read?_stored placeOf_ne_marker,
      latest?_append_singleton, ih hbefore]
    by_cases hstem : stem call.key = stem key
    · rw [if_pos (placeOf_inj.mpr hstem.symm), if_pos hstem, Option.some_or]
    · rw [if_neg fun h => hstem (placeOf_inj.mp h).symm, if_neg hstem]

lemma get_after (h : Accepts files directory key)
    (hcalls : ∀ call ∈ calls, Accepts files directory call.key) :
    get (after files directory calls) directory key =
      ((latest? calls key).or (files.read? (placeOf directory key))).elim
        (.error (.missing key)) .ok := by
  rw [get_eq (h.after hcalls), read?_after hcalls]

end Run

end ErpGateway.Secret
