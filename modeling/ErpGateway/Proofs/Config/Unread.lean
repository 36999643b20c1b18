import ErpGateway.Proofs.Config.Environment

namespace ErpGateway.Config

open Value (Table)

def keyOf? (name : String) : Option String :=
  (settingName? name).map fun place => Value.foldKey (Path.ofText place).head

/-- The name leads to no section and to no setting that is in none. -/
structure IsUnread (name : String) : Prop where
  not_section : ∀ S : Section, keyOf? name ≠ some (Text.lowered S.name)
  not_setting : ∀ x : Setting, x.section? = none → keyOf? name ≠ some (Text.lowered x.name)

structure AlikeBut (name : String) (v v' : Value) : Prop where
  left : v.IsLayered
  right : v'.IsLayered
  get? : ∀ key, keyOf? name ≠ some key → v.asTable.2.get? key = v'.asTable.2.get? key

variable {name : String} {v v' : Value} {environment environment' : DotEnv.Environment}

def without (name : String) (environment : DotEnv.Environment) : DotEnv.Environment :=
  environment.filter fun e => e.1 ≠ name

namespace AlikeBut

lemma trans {w : Value} (h : AlikeBut name v w) (h' : AlikeBut name v' w) : AlikeBut name v v' where
  left := h.left
  right := h'.left
  get? key hkey := (h.get? key hkey).trans (h'.get? key hkey).symm

variable (h : AlikeBut name v v')
include h

lemma put {place : String} {origin : Option Origin} {p : Plain} :
    AlikeBut name (Value.putPath (Path.ofText place) (.plain origin p) v)
      (Value.putPath (Path.ofText place) (.plain origin p) v') where
  left := h.left.putPath _ _
  right := h.right.putPath _ _
  get? key hkey := by
    rw [Value.putPath, Value.putPath, Value.putAt_key, Value.putAt_key, Keyed.get?_put, Keyed.get?_put]
    split
    · rename_i hhead
      rw [← hhead, h.get? key hkey]
    · exact h.get? key hkey

lemma put_left {place : String} (hplace : settingName? name = some place) {origin : Option Origin}
    {p : Plain} : AlikeBut name (Value.putPath (Path.ofText place) (.plain origin p) v) v' where
  left := h.left.putPath _ _
  right := h.right
  get? key hkey := by
    rw [Value.putPath, Value.putAt_key, Keyed.get?_put, if_neg]
    · exact h.get? key hkey
    · rintro rfl
      exact hkey (by rw [keyOf?, hplace, Option.map_some])

lemma section?_eq (hname : IsUnread name) (S : Section) : v.section? S = v'.section? S := by
  rw [h.left.section?_eq, h.right.section?_eq, Value.lookup?_singleton, Value.lookup?_singleton]
  exact h.get? _ (hname.not_section S)

lemma at?_eq (hname : IsUnread name) (x : Setting) : v.at? x = v'.at? x := by
  rw [Value.at?, Value.at?]
  cases hx : x.section? with
  | some S => exact congrArg (Option.bind · _) (h.section?_eq hname S)
  | none =>
    have hnamed := Setting.ownName?_of_section? hx
    change v.member? Reading.configurationShape x.name = v'.member? Reading.configurationShape x.name
    rw [Value.member?_eq named_configurationShape hnamed h.left.folded h.left.not_isList,
      Value.member?_eq named_configurationShape hnamed h.right.folded h.right.not_isList]
    exact h.get? _ (hname.not_setting x hx)

end AlikeBut

lemma overlay_append_of_some {e : String × String} {place : String}
    (h : settingName? e.1 = some place) :
    Value.overlay (settingsOf (environment ++ [e])) v =
      Value.putPath (Path.ofText place) (.plain (some .environment) (Value.ofText e.2))
        (Value.overlay (settingsOf environment) v) := by
  simp [settingsOf, h, Value.overlay]

lemma alikeBut_without (name : String) (hv : v.IsLayered) (environment : DotEnv.Environment) :
    AlikeBut name (Value.overlay (settingsOf environment) v)
      (Value.overlay (settingsOf (without name environment)) v) := by
  induction environment using List.reverseRecOn with
  | nil => exact ⟨hv, hv, fun _ _ => rfl⟩
  | append_singleton environment e ih =>
    by_cases he : e.1 = name
    · have hsame : without name (environment ++ [e]) = without name environment := by
        simp [without, he]
      rw [hsame]
      cases hplace : settingName? e.1 with
      | none =>
        rw [overlay_append_of_none hplace]
        exact ih
      | some place =>
        rw [overlay_append_of_some hplace]
        exact ih.put_left (he ▸ hplace)
    · have hkept : without name (environment ++ [e]) = without name environment ++ [e] := by
        simp [without, he]
      rw [hkept]
      cases hplace : settingName? e.1 with
      | none =>
        rw [overlay_append_of_none hplace, overlay_append_of_none hplace]
        exact ih
      | some place =>
        rw [overlay_append_of_some hplace, overlay_append_of_some hplace]
        exact ih.put

theorem configuration_of_without {s : Source} {c : Configuration} (hname : IsUnread name)
    (hsame : without name environment = without name environment')
    (h : s.configuration environment = .ok c) : s.configuration environment' = .ok c := by
  rw [Source.configuration_eq_ok_iff] at h ⊢
  obtain ⟨v, hv, h⟩ := h
  have hlayered := isLayered_of_layered hv
  have halike := alikeBut_without name hlayered environment
  have halike' := alikeBut_without name hlayered environment'
  rw [hsame] at halike
  have hboth := halike.trans halike'
  obtain ⟨-, hrecords, hread⟩ := configuration_eq_ok_iff_read.1 h
  refine ⟨v, hv, configuration_eq_ok_iff_read.2 ⟨?_, fun S w hw => ?_, fun x => ?_⟩⟩
  · obtain ⟨_, _, htable⟩ := hboth.right.table
    rw [htable]
    exact trivial
  · exact hrecords S w ((hboth.section?_eq hname S).trans hw)
  · rw [← hboth.at?_eq hname x]
    exact hread x

lemma load_of_without {files : Files} {path : String} {formats : List Format} {c : Configuration}
    (hname : IsUnread name)
    (hsame : without name (environmentOf files environment) =
      without name (environmentOf files environment'))
    (h : load files environment path formats = .ok c) :
    load files environment' path formats = .ok c := by
  obtain ⟨s, hs, hc, hvalid⟩ := load_eq_ok_iff.1 h
  exact load_eq_ok_iff.2 ⟨s, hs, configuration_of_without hname hsame hc, hvalid⟩

end ErpGateway.Config
