import ErpGateway.Proofs.Files
import ErpGateway.Proofs.Text.Search

namespace ErpGateway.Files

section Parts

variable {path : String}

lemma partsOf_eq_splitOn (path : String) :
    partsOf path = (path.toList.splitOn '/').map String.ofList := by
  rw [partsOf, Text.splitAround_singleton]

lemma partsOf_append (path more : String) :
    partsOf (path ++ "/" ++ more) = partsOf path ++ partsOf more := by
  have hlist : (path ++ "/" ++ more).toList = path.toList ++ '/' :: more.toList := by
    rw [String.toList_append, String.toList_append, List.append_assoc]
    rfl
  rw [partsOf_eq_splitOn, hlist, List.splitOn_append_cons_self, List.map_append,
    ← partsOf_eq_splitOn, ← partsOf_eq_splitOn]

lemma notMem_of_mem_splitOn {α : Type} [DecidableEq α] {a : α} {as piece : List α}
    (h : piece ∈ as.splitOn a) : a ∉ piece := by
  induction as generalizing piece with
  | nil =>
    rw [List.splitOn_nil, List.mem_singleton] at h
    rw [h]
    exact List.not_mem_nil
  | cons b rest ih =>
    rw [List.splitOn_cons_eq_if_modifyHead] at h
    split at h
    · rcases List.mem_cons.mp h with rfl | h
      · exact List.not_mem_nil
      · exact ih h
    · rename_i hb
      obtain ⟨first, pieces, hpieces⟩ := List.exists_cons_of_ne_nil (List.splitOn_ne_nil a rest)
      rw [hpieces] at h ih
      rcases List.mem_cons.mp h with rfl | h
      · rw [List.mem_cons, not_or]
        refine ⟨fun ha => hb (beq_iff_eq.mpr ha.symm), ih List.mem_cons_self⟩
      · exact ih (List.mem_cons_of_mem first h)

lemma separator_notMem_of_mem_partsOf {part : String} (h : part ∈ partsOf path) :
    '/' ∉ part.toList := by
  rw [partsOf_eq_splitOn, List.mem_map] at h
  obtain ⟨piece, hpiece, rfl⟩ := h
  rw [String.toList_ofList]
  exact notMem_of_mem_splitOn hpiece

lemma partsOf_intercalate {parts : List String} (hne : parts ≠ [])
    (h : ∀ part ∈ parts, '/' ∉ part.toList) : partsOf ("/".intercalate parts) = parts := by
  rw [partsOf_eq_splitOn, String.toList_intercalate]
  have hsplit : (['/'].intercalate (parts.map String.toList)).splitOn '/' =
      parts.map String.toList := by
    refine List.splitOn_intercalate '/' ?_ (by simpa using hne)
    intro l hl
    obtain ⟨part, hpart, rfl⟩ := List.mem_map.mp hl
    exact h part hpart
  change ((['/'].intercalate (parts.map String.toList)).splitOn '/').map String.ofList = parts
  rw [hsplit, List.map_map]
  refine (List.map_congr_left fun part _ => ?_).trans (List.map_id parts)
  exact String.ofList_toList

lemma head?_partsOf (hne : path ≠ "") :
    (partsOf path).head? = some "" ↔ path.toList.head? = some '/' := by
  rw [partsOf_eq_splitOn]
  cases hlist : path.toList with
  | nil => exact absurd (String.toList_eq_nil_iff.mp hlist) hne
  | cons c rest =>
    rw [List.splitOn_cons_eq_if_modifyHead]
    by_cases hc : c = '/'
    · simp [hc]
    · rw [if_neg (by simpa using hc)]
      obtain ⟨piece, pieces, hpieces⟩ := List.exists_cons_of_ne_nil (List.splitOn_ne_nil '/' rest)
      simp [hpieces, hc]

def start (path : String) : Place :=
  if path.toList.head? = some '/' then root else []

lemma ne_empty_of_place? {files : Files} {place : Place} (h : files.place? path = some place) :
    path ≠ "" := by
  rintro rfl
  cases h

lemma place?_eq {files : Files} (hne : path ≠ "") :
    files.place? path = files.follow? (start path) (partsOf path) := by
  rw [place?, if_neg (String.isEmpty_iff.not.mpr hne), start]

lemma named_start (path : String) : "" ∉ start path := by
  rw [start]
  split <;> decide

end Parts

def IsSilent (part : String) : Prop :=
  part = "" ∨ part = "."

inductive Step (files : Files) : Place → String → Place → Prop
  | stay {place part} : IsSilent part → ¬ files.isFile place = true → Step files place part place
  | top : Step files root ".." root
  | climb {place} : place ≠ root → place.all isUp = true → Step files place ".." (place ++ [".."])
  | leave {place} : place ≠ root → ¬ place.all isUp = true → files.isDirectory place = true →
    Step files place ".." place.dropLast
  | enter {place part} : ¬ IsSilent part → part ≠ ".." → Step files place part (place ++ [part])

variable {files files' : Files} {place next target : Place} {part : String}
  {parts more : List String}

section Follow

lemma isSilent_iff : (decide (part = "") || decide (part = ".")) = true ↔ IsSilent part := by
  rw [Bool.or_eq_true, decide_eq_true_eq, decide_eq_true_eq, IsSilent]

lemma step_of_follow? (h : files.follow? place (part :: parts) = some target) :
    ∃ next, Step files place part next ∧ files.follow? next parts = some target := by
  rw [follow?] at h
  split at h
  · rename_i hsilent
    split at h
    · cases h
    · rename_i hfile
      exact ⟨place, .stay (isSilent_iff.mp hsilent) hfile, h⟩
  · rename_i hsilent
    rw [isSilent_iff] at hsilent
    split at h
    · rename_i hup
      subst hup
      split at h
      · rename_i hroot
        subst hroot
        exact ⟨root, .top, h⟩
      · rename_i hroot
        split at h
        · rename_i hall
          exact ⟨place ++ [".."], .climb hroot hall, h⟩
        · rename_i hall
          split at h
          · cases h
          · rename_i hdirectory
            rw [Bool.not_eq_true', Bool.not_eq_false] at hdirectory
            exact ⟨place.dropLast, .leave hroot hall hdirectory, h⟩
    · rename_i hup
      exact ⟨place ++ [part], .enter hsilent hup, h⟩

lemma Step.follow?_cons (h : Step files place part next) (parts : List String) :
    files.follow? place (part :: parts) = files.follow? next parts := by
  have hdots : ¬ (decide (".." = "") || decide (".." = ".")) = true := by decide
  rw [follow?]
  cases h with
  | stay hsilent hfile => rw [if_pos (isSilent_iff.mpr hsilent), if_neg hfile]
  | top => rw [if_neg hdots, if_pos rfl, if_pos rfl]
  | climb hroot hall => rw [if_neg hdots, if_pos rfl, if_neg hroot, if_pos hall]
  | leave hroot hall hdirectory =>
    rw [if_neg hdots, if_pos rfl, if_neg hroot, if_neg hall, if_neg (by rw [hdirectory]; decide)]
  | enter hsilent hup => rw [if_neg (isSilent_iff.not.mpr hsilent), if_neg hup]

lemma follow?_append (h : files.follow? place (parts ++ more) = some target) :
    ∃ next, files.follow? place parts = some next ∧ files.follow? next more = some target := by
  induction parts generalizing place with
  | nil => exact ⟨place, rfl, h⟩
  | cons part parts ih =>
    obtain ⟨next, hstep, hnext⟩ := step_of_follow? h
    rw [hstep.follow?_cons]
    exact ih hnext

lemma follow?_append_of_eq_some (h : files.follow? place parts = some next) (more : List String) :
    files.follow? place (parts ++ more) = files.follow? next more := by
  induction parts generalizing place with
  | nil => rw [List.nil_append, Option.some.inj h]
  | cons part parts ih =>
    obtain ⟨between, hstep, hbetween⟩ := step_of_follow? h
    rw [List.cons_append, hstep.follow?_cons]
    exact ih hbetween

lemma eq_of_follow?_silent (hsilent : ∀ part ∈ parts, IsSilent part)
    (h : files.follow? place parts = some target) : target = place := by
  induction parts with
  | nil => exact (Option.some.inj h).symm
  | cons part parts ih =>
    obtain ⟨hpart, hparts⟩ := List.forall_mem_cons.mp hsilent
    obtain ⟨next, hstep, hnext⟩ := step_of_follow? h
    cases hstep with
    | stay => exact ih hparts hnext
    | enter hloud => exact absurd hpart hloud
    | _ => exact absurd (isSilent_iff.mpr hpart) (by decide)

end Follow

section Place

lemma Step.length_le (h : Step files place part next) : next.length ≤ place.length + 1 := by
  cases h with
  | stay | top => exact Nat.le_succ _
  | climb | enter => exact Nat.le_of_eq List.length_append
  | leave =>
    rw [List.length_dropLast]
    omega

lemma Step.length_le_one {path : String} (hpath : path ≠ "") (hparts : partsOf path = part :: parts)
    (h : Step files (start path) part next) : next.length ≤ 1 := by
  have hhead := head?_partsOf hpath
  rw [hparts, List.head?_cons, Option.some_inj] at hhead
  rw [start] at h
  split at h
  · rename_i hslash
    have hempty := hhead.mpr hslash
    cases h with
    | stay => exact Nat.le_refl _
    | enter hloud => exact absurd (.inl hempty) hloud
    | _ => exact absurd hempty (by decide)
  · exact h.length_le

lemma Step.named (h : Step files place part next) (hplace : "" ∉ place) : "" ∉ next := by
  cases h with
  | stay | top => exact hplace
  | climb =>
    rw [List.mem_append, not_or]
    exact ⟨hplace, by decide⟩
  | leave => exact fun hmem => hplace ((List.dropLast_sublist place).subset hmem)
  | enter hloud =>
    rw [List.mem_append, List.mem_singleton, not_or]
    exact ⟨hplace, fun hpart => hloud (.inl hpart.symm)⟩

lemma named_of_follow? (h : files.follow? place parts = some target) (hplace : "" ∉ place) :
    "" ∉ target := by
  induction parts generalizing place with
  | nil => exact Option.some.inj h ▸ hplace
  | cons part parts ih =>
    obtain ⟨next, hstep, hnext⟩ := step_of_follow? h
    exact ih hnext (hstep.named hplace)

lemma named_of_place? {path : String} (h : files.place? path = some place) : "" ∉ place := by
  rw [place?_eq (ne_empty_of_place? h)] at h
  exact named_of_follow? h (named_start path)

lemma Step.prefix_next {q : Place} (h : Step files place part next) (hq : ¬ files.isDirectory q = true)
    (hunder : q <+: place) : q <+: next := by
  cases h with
  | stay | top => exact hunder
  | climb | enter => exact hunder.trans (List.prefix_append _ _)
  | leave _ _ hdirectory =>
    have hlt : q.length < place.length := by
      refine Nat.lt_of_le_of_ne hunder.length_le fun hlength => hq ?_
      rw [hunder.eq_of_length hlength]
      exact hdirectory
    refine List.prefix_of_prefix_length_le hunder (List.dropLast_prefix place) ?_
    rw [List.length_dropLast]
    omega

lemma prefix_of_follow? {q : Place} (h : files.follow? place parts = some target)
    (hq : ¬ files.isDirectory q = true) (hunder : q <+: place) : q <+: target := by
  induction parts generalizing place with
  | nil => exact Option.some.inj h ▸ hunder
  | cons part parts ih =>
    obtain ⟨next, hstep, hnext⟩ := step_of_follow? h
    exact ih hnext (hstep.prefix_next hq hunder)

end Place

section Growth

/-- The files `files'` are `files` with a file at a place that is no directory, and with directories
made. -/
structure GrowsAt (files files' : Files) (added : Place) : Prop where
  not_directory : ¬ files.isDirectory added = true
  isDirectory : ∀ q, files.isDirectory q = true → files'.isDirectory q = true
  read? : ∀ q, "" ∉ q → q ≠ added → files'.read? q = files.read? q

variable {added : Place} (hgrows : GrowsAt files files' added)
include hgrows

lemma GrowsAt.isFile (hplace : "" ∉ place) (hne : place ≠ added) :
    files'.isFile place = files.isFile place := by
  rw [Files.isFile, Files.isFile, hgrows.read? place hplace hne]

lemma GrowsAt.step (h : Step files place part next) (hplace : "" ∉ place) (hne : place ≠ added) :
    Step files' place part next := by
  cases h with
  | stay hsilent hfile =>
    refine .stay hsilent ?_
    rw [hgrows.isFile hplace hne]
    exact hfile
  | top => exact .top
  | climb hroot hall => exact .climb hroot hall
  | leave hroot hall hdirectory => exact .leave hroot hall (hgrows.isDirectory _ hdirectory)
  | enter hloud hup => exact .enter hloud hup

lemma GrowsAt.follow? (h : files.follow? place parts = some target) (hplace : "" ∉ place)
    (htarget : ¬ added <+: target) : files'.follow? place parts = some target := by
  induction parts generalizing place with
  | nil => exact h
  | cons part parts ih =>
    have hne : place ≠ added := by
      -- a way that came to the new file, which is no directory, would end in it
      rintro rfl
      exact htarget (prefix_of_follow? h hgrows.not_directory (List.prefix_refl _))
    obtain ⟨next, hstep, hnext⟩ := step_of_follow? h
    rw [(hgrows.step hstep hplace hne).follow?_cons]
    exact ih hnext (hstep.named hplace)

lemma GrowsAt.place? {path : String} (h : files.place? path = some place)
    (hplace : ¬ added <+: place) : files'.place? path = some place := by
  have hpath := ne_empty_of_place? h
  rw [place?_eq hpath] at h ⊢
  exact hgrows.follow? h (named_start path) hplace

end Growth

end ErpGateway.Files
