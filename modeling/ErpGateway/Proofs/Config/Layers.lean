import ErpGateway.Proofs.Config.Setting
import Mathlib.Data.List.Induction
import Mathlib.Data.Option.Basic

/-!
Layers of settings. The variables of the environment change the settings that they name and no others,
as long as the sections they lead into are not given as lists.
-/
namespace ErpGateway.Config

open Value (Table Folded)

namespace Value

variable {origin : Option Origin} {p : Plain} {keys others : List String} {there : Value}

def lookup? : List String → Value → Option Value
  | [], v => some v
  | key :: rest, v => (v.asTable.2.get? key).bind (lookup? rest)

lemma lookup?_cons_plain (key : String) (rest : List String) :
    lookup? (key :: rest) (plain origin p) = none :=
  rfl

lemma lookup?_singleton (key : String) (v : Value) : lookup? [key] v = v.asTable.2.get? key :=
  Option.bind_fun_some _

lemma putAt_key (key : String) (rest : List Step) :
    (putAt (plain origin p) (.key key :: rest) there).asTable.2 =
      there.asTable.2.put (foldKey key)
        (putAt (plain origin p) rest
          ((there.asTable.2.get? (foldKey key)).getD (plain none .nil))) := by
  cases rest with
  | nil => rfl
  | cons step rest =>
    rw [putAt]
    · rfl
    · exact List.cons_ne_nil step rest

lemma lookup?_putAt_self (hkeys : ∀ key ∈ keys, foldKey key = key) :
    lookup? keys (putAt (plain origin p) (keys.map .key) there) = some (plain origin p) := by
  induction keys generalizing there with
  | nil => rfl
  | cons key rest ih =>
    rw [lookup?, List.map_cons, putAt_key, hkeys key List.mem_cons_self, Keyed.get?_put, if_pos rfl]
    exact ih fun k hk => hkeys k (List.mem_cons_of_mem key hk)

lemma lookup?_putAt_of_apart (hkeys : ∀ key ∈ keys, foldKey key = key) (hapart : apart keys others) :
    lookup? others (putAt (plain origin p) (keys.map .key) there) = lookup? others there := by
  induction keys generalizing others there with
  | nil => cases hapart
  | cons key rest ih =>
    cases others with
    | nil => cases hapart
    | cons other others =>
      rw [lookup?, lookup?, List.map_cons, putAt_key, hkeys key List.mem_cons_self, Keyed.get?_put]
      split
      · rename_i hsame
        have hrest : apart rest others := by simpa [apart, hsame] using hapart
        rw [Option.bind_some, ih (fun k hk => hkeys k (List.mem_cons_of_mem key hk)) hrest, hsame]
        cases there.asTable.2.get? key with
        | none =>
          -- the ways part further on, so neither ends here, and nothing is inside a plain value
          cases others with
          | nil => cases rest <;> cases hrest
          | cons other others => exact lookup?_cons_plain other others
        | some inside => rfl
      · rfl

lemma exists_table_of_putAt {key inner : String} (hkey : foldKey key = key) :
    ∃ o members, lookup? [key] (putAt (plain origin p) ([key, inner].map .key) there) =
      some (table o members) := by
  rw [lookup?_singleton, List.map_cons, putAt_key, hkey, Keyed.get?_put, if_pos rfl]
  exact ⟨_, _, rfl⟩

end Value

def Value.members? (shape : Shape) : Value → Option Value.Table
  | .plain _ _ => none
  | .array _ items => some ((shape.names.map (·.headD "")).zip items)
  | .table _ members =>
    some (members.filterMap fun e => (Json.Record.ownName? shape.names e.1).map fun name => (name, e.2))

def Value.member? (shape : Shape) (name : String) (v : Value) : Option Value :=
  (v.members? shape).bind (·.get? name)

def Value.section? (v : Value) (S : Section) : Option Value :=
  v.member? Reading.configurationShape S.name

def Value.at? (v : Value) (x : Setting) : Option Value :=
  match x.section? with
  | none => v.member? Reading.configurationShape x.name
  | some S => (v.section? S).bind (·.member? S.shape x.name)

/-- A section whose settings are given by position. -/
def Value.IsListed (v : Value) (S : Section) : Prop :=
  ∃ origin items, v.section? S = some (.array origin items)

section Names

variable {shape : Shape} {key name : String}

def Shape.Named (shape : Shape) : Prop :=
  ∃ names : List String, shape.names = names.map Reading.named

lemma named_configurationShape : Reading.configurationShape.Named :=
  ⟨_, rfl⟩

lemma Section.named_shape (S : Section) : S.shape.Named := by
  cases S with
  | logging => exact ⟨["profile"], by decide⟩
  | _ => exact ⟨_, rfl⟩

lemma eq_lowered_of_mem_named (hkey : Value.Small key) (h : key ∈ Reading.named name) :
    key = Text.lowered name := by
  rw [Reading.named] at h
  split at h
  · rename_i hname
    rw [List.mem_singleton.1 h, hname]
  · obtain rfl | h := List.mem_cons.1 h
    · exact hkey.symm
    · exact List.mem_singleton.1 h

lemma head?_named (name : String) : (Reading.named name).head? = some name := by
  rw [Reading.named]
  split <;> rfl

lemma eq_lowered_of_ownName? (hshape : shape.Named) (hkey : Value.Small key)
    (h : Json.Record.ownName? shape.names key = some name) : key = Text.lowered name := by
  obtain ⟨names, hnames⟩ := hshape
  obtain ⟨ns, hfound, hhead⟩ := Option.bind_eq_some_iff.1 h
  have hmem := List.mem_of_find?_eq_some hfound
  rw [hnames, List.mem_map] at hmem
  obtain ⟨n, -, rfl⟩ := hmem
  rw [head?_named, Option.some.injEq] at hhead
  subst hhead
  exact eq_lowered_of_mem_named hkey (by simpa using List.find?_some hfound)

lemma Section.ownName?_lowered (S : Section) :
    Json.Record.ownName? Reading.configurationShape.names (Text.lowered S.name) = some S.name := by
  cases S <;> decide +kernel

lemma Setting.ownName?_of_section? {x : Setting} (h : x.section? = none) :
    Json.Record.ownName? Reading.configurationShape.names (Text.lowered x.name) = some x.name := by
  have hall : ∀ x ∈ all, x.section? = none →
      Json.Record.ownName? Reading.configurationShape.names (Text.lowered x.name) =
        some x.name := by decide +kernel
  exact hall x x.mem_all h

lemma Setting.ownName?_of_section {x : Setting} {S : Section} (h : x.section? = some S) :
    Json.Record.ownName? S.shape.names (Text.lowered x.name) = some x.name := by
  have hall : ∀ x ∈ all, x.section? = some S →
      Json.Record.ownName? S.shape.names (Text.lowered x.name) = some x.name := by
    cases S <;> decide +kernel
  exact hall x x.mem_all h

end Names

namespace Value

variable {origin : Option Origin} {v w : Value}

def IsList (v : Value) : Prop :=
  ∃ origin items, v = array origin items

lemma get?_named {shape : Shape} {name : String} {members : Table} (hshape : shape.Named)
    (hname : Json.Record.ownName? shape.names (Text.lowered name) = some name)
    (hsmall : ∀ e ∈ members, Small e.1) :
    Keyed.get? name (members.filterMap fun e =>
        (Json.Record.ownName? shape.names e.1).map fun n => (n, e.2)) =
      Keyed.get? (Text.lowered name) members := by
  induction members with
  | nil => rfl
  | cons e members ih =>
    have hrest := ih fun e he => hsmall e (List.mem_cons_of_mem _ he)
    rw [List.filterMap_cons, Keyed.get?]
    by_cases hkey : e.1 = Text.lowered name
    · rw [if_pos hkey, hkey, hname]
      exact if_pos rfl
    · rw [if_neg hkey]
      cases hown : Json.Record.ownName? shape.names e.1 with
      | none => exact hrest
      | some other =>
        have hother := eq_lowered_of_ownName? hshape (hsmall e List.mem_cons_self) hown
        rw [Option.map_some, Keyed.get?, if_neg, hrest]
        rintro rfl
        exact hkey hother

lemma member?_eq {shape : Shape} {name : String} (hshape : shape.Named)
    (hname : Json.Record.ownName? shape.names (Text.lowered name) = some name) (h : Folded v)
    (hlist : ¬v.IsList) : v.member? shape name = v.asTable.2.get? (Text.lowered name) := by
  cases h with
  | plain => rfl
  | array origin items => exact absurd ⟨origin, items, rfl⟩ hlist
  | table hsmall => exact get?_named hshape hname hsmall

structure IsLayered (v : Value) : Prop where
  folded : Folded v
  table : ∃ origin members, v = table origin members

lemma isLayered_nil : (table origin []).IsLayered :=
  ⟨folded_nil, _, _, rfl⟩

namespace IsLayered

variable (h : v.IsLayered)
include h

lemma not_isList : ¬v.IsList := by
  obtain ⟨_, _, rfl⟩ := h.table
  rintro ⟨_, _, hlist⟩
  cases hlist

lemma putPath (path : Path) (value : Value) : (putPath path value v).IsLayered := by
  refine ⟨folded_putAt h.folded, ?_⟩
  obtain ⟨head, rest⟩ := path
  rcases rest with _ | ⟨step | step, rest⟩ <;> exact ⟨_, _, rfl⟩

lemma overlay (further : List (String × Value)) : (overlay further v).IsLayered := by
  induction further generalizing v with
  | nil => exact h
  | cons e further ih => exact ih (h.putPath (Path.ofText e.1) e.2)

lemma section?_eq (S : Section) : v.section? S = lookup? [Text.lowered S.name] v := by
  rw [lookup?_singleton]
  exact member?_eq named_configurationShape S.ownName?_lowered h.folded h.not_isList

lemma folded_section {S : Section} (hw : v.section? S = some w) : Folded w := by
  obtain ⟨_, _, rfl⟩ := h.table
  rw [h.section?_eq, lookup?_singleton] at hw
  exact h.folded.get? hw

lemma at?_eq {x : Setting} (hlist : ∀ S, x.section? = some S → ¬v.IsListed S) :
    v.at? x = lookup? x.keys v := by
  rw [at?, Setting.keys, Setting.segments]
  cases hx : x.section? with
  | none =>
    change v.member? Reading.configurationShape x.name = lookup? [Text.lowered x.name] v
    rw [lookup?_singleton]
    exact member?_eq named_configurationShape (x.ownName?_of_section? hx) h.folded h.not_isList
  | some S =>
    change (v.section? S).bind _ = (v.asTable.2.get? (Text.lowered S.name)).bind _
    rw [h.section?_eq, lookup?_singleton]
    cases hw : v.asTable.2.get? (Text.lowered S.name) with
    | none => rfl
    | some w =>
      have hsection : v.section? S = some w := by rw [h.section?_eq, lookup?_singleton, hw]
      change w.member? S.shape x.name = lookup? [Text.lowered x.name] w
      rw [lookup?_singleton]
      refine member?_eq S.named_shape (x.ownName?_of_section hx) (h.folded_section hsection) ?_
      rintro ⟨origin, items, rfl⟩
      exact hlist S hx ⟨origin, items, hsection⟩

end IsLayered

end Value

def NamesOnly (environment : DotEnv.Environment) (texts : Setting → Option String) : Prop :=
  ∀ e ∈ environment, (settingName? e.1).isSome →
    ∃ x : Setting, e.1 = x.variableName ∧ texts x = some e.2

def assigned (texts : Setting → Option String) (x : Setting) : Option Value :=
  (texts x).map fun text => .plain (some .environment) (Value.ofText text)

section Overlay

variable {environment : DotEnv.Environment} {texts : Setting → Option String} {v : Value}

lemma overlay_append_of_none {e : String × String} (h : settingName? e.1 = none) :
    Value.overlay (settingsOf (environment ++ [e])) v = Value.overlay (settingsOf environment) v := by
  simp [settingsOf, h]

lemma overlay_append_variable (x : Setting) (text : String) :
    Value.overlay (settingsOf (environment ++ [(x.variableName, text)])) v =
      Value.putAt (.plain (some .environment) (Value.ofText text)) (x.keys.map .key)
        (Value.overlay (settingsOf environment) v) := by
  have hsteps := x.stepsOf?_variableName
  obtain ⟨place, hplace, hkeys⟩ := Option.map_eq_some_iff.1 hsteps
  simp [settingsOf, hplace, Value.overlay, Value.putPath, ← hkeys]

lemma NamesOnly.of_append {e : String × String} (h : NamesOnly (environment ++ [e]) texts) :
    NamesOnly environment texts :=
  fun e' he' => h e' (List.mem_append_left _ he')

lemma NamesOnly.last {e : String × String} (h : NamesOnly (environment ++ [e]) texts) :
    settingName? e.1 = none ∨
      ∃ (x : Setting) (text : String), e = (x.variableName, text) ∧ texts x = some text := by
  cases hname : settingName? e.1 with
  | none => exact .inl rfl
  | some place =>
    obtain ⟨x, hx, htext⟩ := h e (List.mem_append_right _ List.mem_cons_self) (by simp [hname])
    exact .inr ⟨x, e.2, Prod.ext hx rfl, htext⟩

lemma lookup?_overlay_of_apart {others : List String} (h : NamesOnly environment texts)
    (hapart : ∀ x : Setting, (texts x).isSome → apart x.keys others) :
    Value.lookup? others (Value.overlay (settingsOf environment) v) = Value.lookup? others v := by
  -- the variables are put in one after another, so the last one is taken off
  induction environment using List.reverseRecOn with
  | nil => rfl
  | append_singleton environment e ih =>
    obtain hnone | ⟨x, text, rfl, htext⟩ := h.last
    · rw [overlay_append_of_none hnone]
      exact ih h.of_append
    · rw [overlay_append_variable, Value.lookup?_putAt_of_apart (fun _ => x.foldKey_of_mem_keys)
        (hapart x (by simp [htext]))]
      exact ih h.of_append

lemma lookup?_overlay (h : NamesOnly environment texts) (x : Setting) :
    Value.lookup? x.keys (Value.overlay (settingsOf environment) v) =
      if x.variableName ∈ environment.map Prod.fst then assigned texts x
      else Value.lookup? x.keys v := by
  induction environment using List.reverseRecOn with
  | nil => rfl
  | append_singleton environment e ih =>
    have hmem : x.variableName ∈ (environment ++ [e]).map Prod.fst ↔
        x.variableName ∈ environment.map Prod.fst ∨ x.variableName = e.1 := by simp
    -- the last variable is no setting's, the one of `x`, or another setting's
    obtain hnone | ⟨y, text, rfl, htext⟩ := h.last
    · have hother : x.variableName ≠ e.1 := fun hsame => by
        rw [← hsame] at hnone
        simpa [Setting.stepsOf?, hnone] using x.stepsOf?_variableName
      simp only [overlay_append_of_none hnone, ih h.of_append, hmem, hother, or_false]
    · rw [overlay_append_variable]
      by_cases hxy : y = x
      · subst hxy
        rw [Value.lookup?_putAt_self fun _ => y.foldKey_of_mem_keys, if_pos (hmem.2 (.inr rfl)),
          assigned, htext]
        rfl
      · have hother : x.variableName ≠ y.variableName := fun hsame =>
          hxy (variableName_injective hsame).symm
        rw [Value.lookup?_putAt_of_apart (fun _ => y.foldKey_of_mem_keys) (apart_of_ne hxy)]
        simp only [ih h.of_append, hmem, hother, or_false]

lemma lookup?_overlay_section (h : NamesOnly environment texts) (S : Section) :
    (∃ origin members, Value.lookup? [Text.lowered S.name] (Value.overlay (settingsOf environment) v) =
        some (.table origin members)) ∨
      Value.lookup? [Text.lowered S.name] (Value.overlay (settingsOf environment) v) =
        Value.lookup? [Text.lowered S.name] v := by
  induction environment using List.reverseRecOn with
  | nil => exact .inr rfl
  | append_singleton environment e ih =>
    obtain hnone | ⟨x, text, rfl, htext⟩ := h.last
    · rw [overlay_append_of_none hnone]
      exact ih h.of_append
    · rw [overlay_append_variable]
      by_cases hx : x.section? = some S
      · have hkeys : x.keys = [Text.lowered S.name, Text.lowered x.name] := by
          rw [Setting.keys, Setting.segments, hx]
          rfl
        have hkey := x.foldKey_of_mem_keys (hkeys ▸ List.mem_cons_self)
        -- a setting inside the section makes a table of it, whatever was there
        rw [hkeys]
        exact .inl (Value.exists_table_of_putAt hkey)
      · rw [Value.lookup?_putAt_of_apart (fun _ => x.foldKey_of_mem_keys) (apart_of_section?_ne hx)]
        exact ih h.of_append

end Overlay

/-- The variables of the gateway in an environment are those of the settings with a text, and have this
text. -/
structure Assigns (environment : DotEnv.Environment) (texts : Setting → Option String) : Prop where
  mem_iff : ∀ (x : Setting) (text : String),
    (x.variableName, text) ∈ environment ↔ texts x = some text
  named : ∀ e ∈ environment, (settingName? e.1).isSome → ∃ x : Setting, e.1 = x.variableName

namespace Assigns

variable {environment : DotEnv.Environment} {texts : Setting → Option String} {v : Value}
variable (h : Assigns environment texts)
include h

lemma namesOnly : NamesOnly environment texts := by
  rintro ⟨name, text⟩ he hname
  obtain ⟨x, rfl⟩ := h.named _ he hname
  exact ⟨x, rfl, (h.mem_iff x text).1 he⟩

lemma variableName_mem_iff (x : Setting) :
    x.variableName ∈ environment.map Prod.fst ↔ (texts x).isSome := by
  rw [List.mem_map, Option.isSome_iff_exists]
  constructor
  · rintro ⟨⟨name, text⟩, he, rfl⟩
    exact ⟨text, (h.mem_iff x text).1 he⟩
  · rintro ⟨text, htext⟩
    exact ⟨_, (h.mem_iff x text).2 htext, rfl⟩

lemma lookup?_eq (x : Setting) :
    Value.lookup? x.keys (Value.overlay (settingsOf environment) v) =
      (assigned texts x).or (Value.lookup? x.keys v) := by
  simp only [lookup?_overlay h.namesOnly, h.variableName_mem_iff, assigned]
  cases texts x <;> rfl

variable (hv : v.IsLayered)
include hv

lemma section?_eq_or (S : Section) :
    (∃ origin members, (Value.overlay (settingsOf environment) v).section? S =
        some (.table origin members)) ∨
      (Value.overlay (settingsOf environment) v).section? S = v.section? S := by
  rw [(hv.overlay _).section?_eq, hv.section?_eq]
  exact lookup?_overlay_section h.namesOnly S

lemma at?_overlay (hlist : ∀ x S, (texts x).isSome → x.section? = some S → ¬v.IsListed S)
    (x : Setting) :
    (Value.overlay (settingsOf environment) v).at? x = (assigned texts x).or (v.at? x) := by
  have hlayered := hv.overlay (settingsOf environment)
  by_cases hx : ∀ S, x.section? = some S → ¬v.IsListed S
  · have hopen : ∀ S, x.section? = some S →
        ¬(Value.overlay (settingsOf environment) v).IsListed S := by
      rintro S hS ⟨origin, items, hitems⟩
      obtain ⟨_, _, htable⟩ | hsame := h.section?_eq_or hv S
      · rw [htable] at hitems
        cases hitems
      · exact hx S hS ⟨origin, items, hsame ▸ hitems⟩
    rw [hlayered.at?_eq hopen, hv.at?_eq hx, h.lookup?_eq]
  · -- no variable leads into the list that has the setting
    push Not at hx
    obtain ⟨S, hS, hlisted⟩ := hx
    have hnone : texts x = none := by
      by_contra hsome
      exact hlist x S (Option.isSome_iff_ne_none.2 hsome) hS hlisted
    have hsection : (Value.overlay (settingsOf environment) v).section? S = v.section? S := by
      rw [hlayered.section?_eq, hv.section?_eq]
      refine lookup?_overlay_of_apart h.namesOnly fun y hy => apart_of_section?_ne fun hyS => ?_
      exact hlist y S hy hyS hlisted
    rw [Value.at?, Value.at?, hS, assigned, hnone]
    change _ = (v.section? S).bind _
    rw [← hsection]

end Assigns

end ErpGateway.Config
