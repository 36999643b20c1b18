import ErpGateway.Proofs.Secret.Store

namespace ErpGateway.Secret

open Text (Octets)

inductive Access where
  | make (directory : Place)
  | write (place : Place) (content : Octets)
  | rename (place target : Place)
  | read (place : Place)

namespace Access

def places : Access → List Place
  | make _ => []
  | write place _ | read place => [place]
  | rename place target => [place, target]

def effect (files : Files) : Access → Files
  | make directory => files.makeDirectory directory
  | write place content => files.write place content
  | rename place target =>
    match files.read? place with
    | none => files
    | some content => Files.write (files.filter fun e => e.1 ≠ place) target content
  | read _ => files

end Access

def draftName (letters : String) : String :=
  "secret-" ++ letters ++ ".tmp"

namespace Call

def draft (directory : Place) (call : Call) : Place :=
  directory ++ [draftName call.letters]

def accesses (directory : Place) (call : Call) : List Access :=
  [.make directory, .write (call.draft directory) call.value,
    .rename (call.draft directory) (placeOf directory call.key)]

end Call

/-- Calls whose keys are all accepted, each with a draft of its own that is not there. -/
structure IsRun (files : Files) (directory : Place) (calls : List Call) : Prop where
  accepted : ∀ call ∈ calls, Accepts files directory call.key
  drawn : ∀ call ∈ calls, ∀ c ∈ call.letters.toList, c.isAlphanum = true
  fresh : ∀ call ∈ calls, files.read? (call.draft directory) = none

variable {files : Files} {directory : Place} {call : Call} {calls : List Call} {key : String}

section Draft

lemma toList_draftName (letters : String) :
    (draftName letters).toList = "secret-".toList ++ letters.toList ++ ".tmp".toList := by
  rw [draftName, String.toList_append, String.toList_append]

lemma isPlain_draftName {letters : String} (h : ∀ c ∈ letters.toList, c.isAlphanum = true) :
    IsPlain (draftName letters) := by
  refine isPlain_of_safe ?_ fun c hc => ?_
  · rw [← String.length_toList, toList_draftName, List.length_append]
    exact Nat.lt_of_lt_of_le (by decide : 2 < 4) (Nat.le_add_left _ _)
  · rw [toList_draftName, List.mem_append, List.mem_append] at hc
    have hstart : "secret-".toList.all isSafe = true := by decide
    have hend : ".tmp".toList.all isSafe = true := by decide
    rcases hc with (hc | hc) | hc
    · exact List.all_eq_true.mp hstart c hc
    · rw [isSafe, h c hc]
      rfl
    · exact List.all_eq_true.mp hend c hc

lemma draftName_ne_fileName (letters key : String) : draftName letters ≠ fileName key := by
  intro h
  have hlists := congrArg String.toList h
  rw [toList_draftName, toList_fileName] at hlists
  have hlengths : ".tmp".toList.length = ".bin".toList.length := by decide
  -- the names end in four characters each, and not in the same ones
  have hends := (List.append_inj' hlists hlengths).2
  exact absurd hends (by decide)

lemma draft_ne_marker : call.draft directory ≠ directory ++ [""] := by
  rw [Call.draft, Ne, List.append_cancel_left_eq, List.singleton_inj, ← String.toList_inj,
    toList_draftName]
  exact fun h => nomatch h

lemma draft_ne_placeOf : call.draft directory ≠ placeOf directory key := by
  rw [Call.draft, placeOf, Ne, List.append_cancel_left_eq, List.singleton_inj]
  exact draftName_ne_fileName call.letters key

end Draft

section Effect

lemma filter_write {place : Place} {content : Octets} (h : files.read? place = none) :
    (files.write place content).filter (fun e => e.1 ≠ place) = files := by
  induction files with
  | nil => simp [Files.write, Keyed.put]
  | cons e rest ih =>
    obtain ⟨p, octets⟩ := e
    rw [Files.read?, Keyed.get?] at h
    split at h
    · cases h
    · rename_i hp
      have hrest : List.filter (fun e => e.1 ≠ place) (Keyed.put place content rest) = rest := ih h
      rw [Files.write, Keyed.put, if_neg hp, List.filter_cons_of_pos (by simpa using hp), hrest]

lemma foldl_accesses (hfresh : files.read? (call.draft directory) = none) :
    (call.accesses directory).foldl Access.effect files =
      stored files directory call.key call.value := by
  have hmade : (files.makeDirectory directory).read? (call.draft directory) = none :=
    (Files.read?_makeDirectory files directory _ draft_ne_marker).trans hfresh
  have hwritten : ((files.makeDirectory directory).write (call.draft directory) call.value).read?
      (call.draft directory) = some call.value :=
    (Files.read?_write _ _ _ _).trans (if_pos rfl)
  simp only [Call.accesses, List.foldl_cons, List.foldl_nil, Access.effect, hwritten]
  rw [filter_write hmade, stored]

lemma IsRun.tail (h : IsRun files directory (call :: calls)) :
    IsRun (stored files directory call.key call.value) directory calls where
  accepted other hother := (h.accepted other (List.mem_cons_of_mem call hother)).stored
  drawn other hother := h.drawn other (List.mem_cons_of_mem call hother)
  fresh other hother := by
    rw [read?_stored draft_ne_marker, if_neg draft_ne_placeOf]
    exact h.fresh other (List.mem_cons_of_mem call hother)

lemma IsRun.foldl_accesses (h : IsRun files directory calls) :
    (calls.flatMap (Call.accesses directory)).foldl Access.effect files =
      after files directory calls := by
  induction calls generalizing files with
  | nil => rfl
  | cons call calls ih =>
    have hcall := h.accepted call List.mem_cons_self
    have hfresh := h.fresh call List.mem_cons_self
    rw [List.flatMap_cons, List.foldl_append, Secret.foldl_accesses hfresh, ih h.tail, after_cons,
      files_set hcall]

lemma IsRun.problem_eq_none (h : IsRun files directory calls) {before rest : List Call}
    (hcalls : calls = before ++ call :: rest) :
    (set (after files directory before) directory call.key call.value).problem = none := by
  rw [hcalls] at h
  obtain ⟨hbefore, hrest⟩ := List.forall_mem_append.mp h.accepted
  exact problem_set_eq_none_iff.mpr ((hrest call List.mem_cons_self).after hbefore)

end Effect

section Place

lemma IsRun.places (h : IsRun files directory calls) (key : String) {access : Access}
    (haccess : access ∈ calls.flatMap (Call.accesses directory) ++ [.read (placeOf directory key)])
    {place : Place} (hplace : place ∈ access.places) :
    ∃ name, place = directory ++ [name] ∧ IsPlain name := by
  have hfile : ∀ key, ∃ name, placeOf directory key = directory ++ [name] ∧ IsPlain name :=
    fun key => ⟨fileName key, rfl, isPlain_fileName key⟩
  rw [List.mem_append, List.mem_singleton, List.mem_flatMap] at haccess
  rcases haccess with ⟨call, hcall, haccess⟩ | rfl
  · have hdraft : ∃ name, call.draft directory = directory ++ [name] ∧ IsPlain name :=
      ⟨draftName call.letters, rfl, isPlain_draftName (h.drawn call hcall)⟩
    simp only [Call.accesses, List.mem_cons, List.not_mem_nil, or_false] at haccess
    rcases haccess with rfl | rfl | rfl
    · cases hplace
    · rw [List.mem_singleton.mp hplace]
      exact hdraft
    · simp only [Access.places, List.mem_cons, List.not_mem_nil, or_false] at hplace
      rcases hplace with rfl | rfl
      · exact hdraft
      · exact hfile call.key
  · rw [List.mem_singleton.mp hplace]
    exact hfile key

lemma toList_joined (directory name : String) :
    ∃ before, (joined directory name).toList = before ++ name.toList := by
  rw [joined]
  split
  · exact ⟨_, String.toList_append⟩
  · exact ⟨_, String.toList_append⟩

lemma pathBeside_eq (path key : String) :
    pathBeside path key = directoryBeside path ++ "/" ++ fileName key := by
  obtain ⟨before, hbefore⟩ : ∃ before, (directoryBeside path).toList = before ++ "secrets".toList :=
    toList_joined _ _
  rw [pathBeside, joined, if_neg]
  rw [hbefore, List.getLast?_append]
  exact (by decide : ¬ some 's' = some '/')

end Place

/-- A run of calls makes the secrets a map from stems that stays in its directory: every call succeeds,
the single accesses come to what the calls leave, what is found for a key is what was stored last for its
stem, every file is a plain name in the directory, and keys of safe characters keep apart. -/
theorem secrets_after_run (hrun : IsRun files directory calls) (hkey : Accepts files directory key) :
    (∀ before call rest, calls = before ++ call :: rest →
      (set (after files directory before) directory call.key call.value).problem = none) ∧
    (calls.flatMap (Call.accesses directory)).foldl Access.effect files =
      after files directory calls ∧
    get (after files directory calls) directory key =
      ((latest? calls key).or (files.read? (placeOf directory key))).elim
        (.error (.missing key)) .ok ∧
    (∀ access ∈ calls.flatMap (Call.accesses directory) ++ [.read (placeOf directory key)],
      ∀ place ∈ access.places, ∃ name, place = directory ++ [name] ∧ IsPlain name) ∧
    (∀ path other, IsPlain (fileName other) ∧
      pathBeside path other = directoryBeside path ++ "/" ++ fileName other) ∧
    (∀ one other, one ≠ "" → other ≠ "" → (∀ c ∈ one.toList, isSafe c = true) →
      (∀ c ∈ other.toList, isSafe c = true) →
      (placeOf directory one = placeOf directory other ↔ one = other)) := by
  refine ⟨fun _ _ _ => hrun.problem_eq_none, hrun.foldl_accesses, get_after hkey hrun.accepted,
    fun _ haccess _ => hrun.places key haccess, ?_, ?_⟩
  · intro path other
    exact ⟨isPlain_fileName other, pathBeside_eq path other⟩
  · intro one other hone hother hsafe hsafe'
    rw [placeOf_inj, stem_of_safe hone hsafe, stem_of_safe hother hsafe']

def threeCalls : List Call :=
  [⟨"a b", [0x31], "k3Jx0Q"⟩, ⟨"../a b", [0x32], "Zb81rT"⟩, ⟨"a_b", [0x33], "00aYwp"⟩]

theorem secrets_after_run_three :
    IsRun [] ["base", "secrets"] threeCalls ∧ Accepts [] ["base", "secrets"] "a b" ∧
      get (after [] ["base", "secrets"] threeCalls) ["base", "secrets"] "a b" = .ok [0x33] := by
  have hletters : (threeCalls.all fun call => call.letters.toList.all Char.isAlphanum) = true := by
    decide +kernel
  have hdrawn : ∀ call ∈ threeCalls, ∀ c ∈ call.letters.toList, c.isAlphanum = true :=
    fun call hcall => List.all_eq_true.mp (List.all_eq_true.mp hletters call hcall)
  have hrun : IsRun [] ["base", "secrets"] threeCalls :=
    ⟨by decide +kernel, hdrawn, by decide +kernel⟩
  have hkey : Accepts [] ["base", "secrets"] "a b" := by decide +kernel
  have hlatest : latest? threeCalls "a b" = some [0x33] := by decide +kernel
  have hget := (secrets_after_run hrun hkey).2.2.1
  rw [hlatest] at hget
  exact ⟨hrun, hkey, hget⟩

end ErpGateway.Secret
