import ErpGateway.Proofs.Config.Decoding

/-!
The environment over the file. Loading a file with variables comes to the same as loading the file in
which the settings of the variables are set, except where a variable leads into a section that the file
gives as a list.
-/
namespace ErpGateway.Config

def source? (files : Files) (path : String) (formats : List Format := ownFormats) : Option Source :=
  ((files.place? path).filter files.isThere).bind fun place =>
    (source files path place formats).toOption

namespace Source

def layered (s : Source) : Option Value :=
  s.settings.toOption.map fun settings => Value.overlay settings (.table none [])

def at? (s : Source) (x : Setting) : Option Value :=
  s.layered.bind (·.at? x)

def IsListed (s : Source) (S : Section) : Prop :=
  ∃ v, s.layered = some v ∧ v.IsListed S

/-- The file `s'` is `s` with each setting that has a text set to what the text says. -/
def Sets (s : Source) (texts : Setting → Option String) (s' : Source) : Prop :=
  ∀ x, (s'.at? x).map Value.bare =
    ((texts x).map fun text => Value.plain none (Value.ofText text)).or ((s.at? x).map Value.bare)

end Source

section Load

variable {files : Files} {environment : DotEnv.Environment} {path : String} {s : Source}
variable {formats : List Format} {c : Configuration}

lemma isLayered_of_layered {v : Value} (h : s.layered = some v) : v.IsLayered := by
  obtain ⟨settings, -, rfl⟩ := Option.map_eq_some_iff.1 h
  exact Value.isLayered_nil.overlay settings

lemma Source.configuration_eq_ok_iff :
    s.configuration environment = .ok c ↔
      ∃ v, s.layered = some v ∧
        valueReading.configuration { value := v.overlay (settingsOf environment) } = .ok c := by
  rw [Source.configuration, bind_eq_ok, Source.layered]
  cases s.settings with
  | error cause => exact ⟨fun ⟨_, h, _⟩ => (nomatch h), fun ⟨_, h, _⟩ => (nomatch h)⟩
  | ok settings =>
    constructor
    · rintro ⟨_, hsettings, hc⟩
      cases hsettings
      exact ⟨_, rfl, hc⟩
    · rintro ⟨v, hv, hc⟩
      cases hv
      exact ⟨settings, rfl, hc⟩

lemma checked_eq_ok_iff {c' : Configuration} :
    c.checked = .ok c' ↔ c = c' ∧ c.validate = .ok () := by
  rw [Configuration.checked]
  cases c.validate with
  | error problem => exact ⟨fun h => (nomatch h), fun h => (nomatch h.2)⟩
  | ok => exact ⟨fun h => ⟨Except.ok.inj h, rfl⟩, fun h => congrArg Except.ok h.1⟩

lemma mapError_eq_ok_iff {ε ε' α : Type} {x : Except ε α} {f : ε → ε'} {a : α} :
    x.mapError f = .ok a ↔ x = .ok a := by
  cases x with
  | error e => exact ⟨fun h => (nomatch h), fun h => (nomatch h)⟩
  | ok b => exact ⟨fun h => congrArg _ (Except.ok.inj h), fun h => congrArg _ (Except.ok.inj h)⟩

lemma load_eq_ok_iff :
    load files environment path formats = .ok c ↔
      ∃ s, source? files path formats = some s ∧
        s.configuration (environmentOf files environment) = .ok c ∧ c.validate = .ok () := by
  rw [load, source?]
  cases (files.place? path).filter files.isThere with
  | none => exact ⟨fun h => (nomatch h), fun ⟨_, h, _⟩ => (nomatch h)⟩
  | some place =>
    simp only [Option.bind_some, bind_eq_ok, mapError_eq_ok_iff, toOption_eq_some,
      checked_eq_ok_iff]
    constructor
    · rintro ⟨s, hs, c', hc', rfl, hvalid⟩
      exact ⟨s, hs, hc', hvalid⟩
    · rintro ⟨s, hs, hc, hvalid⟩
      exact ⟨s, hs, c, hc, rfl, hvalid⟩

end Load

lemma settingsOf_eq_nil {environment : DotEnv.Environment}
    (h : Assigns environment fun _ => none) : settingsOf environment = [] := by
  rw [settingsOf, List.filterMap_eq_nil_iff]
  intro e he
  rw [Option.map_eq_none_iff]
  by_contra hname
  obtain ⟨x, -, htext⟩ := h.namesOnly e he (Option.isSome_iff_ne_none.2 hname)
  cases htext

section Sets

variable {environment : DotEnv.Environment} {texts : Setting → Option String} {s s' : Source}
variable {v v' : Value}

lemma Source.Sets.bare_at? (h : s.Sets texts s') (hv : s.layered = some v)
    (hv' : s'.layered = some v') (x : Setting) :
    (v'.at? x).map Value.bare = ((assigned texts x).or (v.at? x)).map Value.bare := by
  have hx := h x
  rw [Source.at?, Source.at?, hv, hv', Option.bind_some, Option.bind_some] at hx
  rw [hx, assigned]
  cases texts x <;> rfl

end Sets

theorem load_of_environment {files files' : Files} {path path' : String}
    {formats formats' : List Format} {s s' : Source} {texts : Setting → Option String}
    {environment unset unset' : DotEnv.Environment} {c₀ c : Configuration}
    (hs : source? files path formats = some s)
    (hs' : source? files' path' formats' = some s') (hsets : s.Sets texts s')
    (hlist : ∀ x S, (texts x).isSome → x.section? = some S → ¬s.IsListed S)
    (henvironment : Assigns (environmentOf files environment) texts)
    (hunset : Assigns (environmentOf files unset) fun _ => none)
    (hunset' : Assigns (environmentOf files' unset') fun _ => none)
    (h₀ : load files unset path formats = .ok c₀)
    (h : load files' unset' path' formats' = .ok c) :
    load files environment path formats = .ok c ∧ ∀ x, texts x = none → x.of c = x.of c₀ := by
  obtain ⟨_, hsource, h₀, -⟩ := load_eq_ok_iff.1 h₀
  cases hs.symm.trans hsource
  obtain ⟨_, hsource, h, hvalid⟩ := load_eq_ok_iff.1 h
  cases hs'.symm.trans hsource
  rw [Source.configuration_eq_ok_iff, settingsOf_eq_nil hunset] at h₀
  rw [Source.configuration_eq_ok_iff, settingsOf_eq_nil hunset'] at h
  obtain ⟨v, hv, h₀⟩ := h₀
  obtain ⟨v', hv', h⟩ := h
  have hlayered := isLayered_of_layered hv
  obtain ⟨-, hrecords, hread₀⟩ := configuration_eq_ok_iff_read.1 h₀
  obtain ⟨-, -, hread⟩ := configuration_eq_ok_iff_read.1 h
  have hopen : ∀ x S, (texts x).isSome → x.section? = some S → ¬v.IsListed S :=
    fun x S hx hS hlisted => hlist x S hx hS ⟨v, hv, hlisted⟩
  refine ⟨load_eq_ok_iff.2 ⟨s, hs, ?_, hvalid⟩, fun x hx => ?_⟩
  · -- setting by setting, the variables over `v` are read as `v'` is
    refine Source.configuration_eq_ok_iff.2 ⟨v, hv, configuration_eq_ok_iff_read.2 ⟨?_, ?_, ?_⟩⟩
    · obtain ⟨_, _, htable⟩ := (hlayered.overlay _).table
      rw [htable]
      exact trivial
    · intro S w hw
      obtain ⟨_, _, htable⟩ | hsame := henvironment.section?_eq_or hlayered S
      · rw [htable, Option.some.injEq] at hw
        exact hw ▸ trivial
      · exact hrecords S w (hsame ▸ hw)
    · intro x
      rw [henvironment.at?_overlay hlayered hopen, ← hread x]
      exact (x.read_congr (hsets.bare_at? hv hv' x)).symm
  · -- a setting without a variable is read of `v'` as of `v`
    have hsame : x.read (v'.at? x) = x.read (v.at? x) := by
      refine x.read_congr ((hsets.bare_at? hv hv' x).trans ?_)
      rw [assigned, hx]
      rfl
    exact Option.some.inj ((hread x).symm.trans (hsame.trans (hread₀ x)))

lemma assigns_of_get? {environment : DotEnv.Environment} {texts : Setting → Option String}
    (hnames : (environment.map Prod.fst).Nodup)
    (htexts : ∀ x ∈ Setting.all, environment.get? x.variableName = texts x)
    (hnamed : ∀ e ∈ environment, (settingName? e.1).isSome →
      e.1 ∈ Setting.all.map Setting.variableName) : Assigns environment texts where
  mem_iff x text := by
    rw [← htexts x x.mem_all]
    exact ⟨Keyed.get?_of_mem hnames, Keyed.mem_of_get?⟩
  named e he hname := by
    obtain ⟨x, -, hx⟩ := List.mem_map.1 (hnamed e he hname)
    exact ⟨x, hx.symm⟩

lemma sets_of_layered {texts : Setting → Option String} {s s' : Source} {v v' : Value}
    (hv : s.layered = some v) (hv' : s'.layered = some v')
    (h : ∀ x, (v'.at? x).map Value.bare =
      ((texts x).map fun text => Value.plain none (Value.ofText text)).or
        ((v.at? x).map Value.bare)) : s.Sets texts s' := by
  intro x
  rw [Source.at?, Source.at?, hv, hv']
  exact h x

section Examples

def fileOf (text : String) : Files :=
  [(["erpgw.json"], Text.utf8 text)]

def sourceOf (text : String) : Source :=
  ⟨"erpgw.json", Text.utf8 text, .json⟩

def fromFile (p : Plain) : Value :=
  .plain (some (.file "erpgw.json")) p

def givenText : String :=
  "\x7b\"erp\":\"sap\",\"bearerToken\":\"t0ken\"," ++
    "\"db\":\x7b\"host\":\"erp-sql\",\"port\":1500\x7d\x7d"

def editedText : String :=
  "\x7b\"erp\":\"sap\",\"bearerToken\":\"s3cret\"," ++
    "\"db\":\x7b\"host\":\"erp-sql\",\"port\":1500,\"maxOpenConns\":25\x7d\x7d"

def tokenAndMostOpen : Setting → Option String
  | .token => some "s3cret"
  | .maxOpen => some "25"
  | _ => none

def tokenAndMostOpenVariables : DotEnv.Environment :=
  [("HOME", "/root"), ("ERPGW_DB__MAXOPENCONNS", "25"), ("ERPGW_BEARERTOKEN", "s3cret")]

def givenConfiguration : Configuration where
  backend := .sap
  token := "t0ken"
  database := { host := "erp-sql", port := 1500 }

def editedConfiguration : Configuration where
  backend := .sap
  token := "s3cret"
  database := { host := "erp-sql", port := 1500, maxOpen := 25 }

lemma layered_given : (sourceOf givenText).layered =
    some (.table none [("erp", fromFile (.text "sap")), ("bearertoken", fromFile (.text "t0ken")),
      ("db", .table none [("host", fromFile (.text "erp-sql")), ("port", fromFile (.int 1500))])]) := by
  rfl

lemma layered_edited : (sourceOf editedText).layered =
    some (.table none [("erp", fromFile (.text "sap")), ("bearertoken", fromFile (.text "s3cret")),
      ("db", .table none [("host", fromFile (.text "erp-sql")), ("port", fromFile (.int 1500)),
        ("maxopenconns", fromFile (.int 25))])]) := by
  rfl

lemma sets_edited : (sourceOf givenText).Sets tokenAndMostOpen (sourceOf editedText) := by
  refine sets_of_layered layered_given layered_edited fun x => ?_
  cases x <;> rfl

lemma assigns_none (text : String) : Assigns (environmentOf (fileOf text) []) fun _ => none := by
  have hnone : environmentOf (fileOf text) [] = [] := rfl
  rw [hnone]
  exact assigns_of_get? (by decide) (by decide) (by decide)

theorem load_of_environment_token :
    load (fileOf givenText) [] "erpgw.json" = .ok givenConfiguration ∧
      load (fileOf editedText) [] "erpgw.json" = .ok editedConfiguration ∧
      load (fileOf givenText) tokenAndMostOpenVariables "erpgw.json" = .ok editedConfiguration ∧
      ∀ x, tokenAndMostOpen x = none → x.of editedConfiguration = x.of givenConfiguration := by
  have hgiven : load (fileOf givenText) [] "erpgw.json" = .ok givenConfiguration := by
    decide +kernel
  have hedited : load (fileOf editedText) [] "erpgw.json" = .ok editedConfiguration := by
    decide +kernel
  have hvariables : Assigns (environmentOf (fileOf givenText) tokenAndMostOpenVariables)
      tokenAndMostOpen := by
    exact assigns_of_get? (by decide +kernel) (by decide +kernel) (by decide +kernel)
  have hlist : ∀ x S, (tokenAndMostOpen x).isSome → x.section? = some S →
      ¬(sourceOf givenText).IsListed S := by
    rintro x S hx hS ⟨v, hv, _, _, hitems⟩
    rw [layered_given, Option.some.injEq] at hv
    subst hv
    cases x <;> cases hS <;> cases hx
    cases hitems
  exact ⟨hgiven, hedited, load_of_environment (by rfl) (by rfl) sets_edited hlist hvariables
    (assigns_none givenText) (assigns_none editedText) hgiven hedited⟩

def listedText : String :=
  "\x7b\"erp\":\"sap\",\"bearerToken\":\"t0ken\",\"db\":[\"erp-sql\",1500,\"reader\"]\x7d"

def listedEditedText : String :=
  "\x7b\"erp\":\"sap\",\"bearerToken\":\"t0ken\",\"db\":[\"other-sql\",1500,\"reader\"]\x7d"

def otherHost : Setting → Option String
  | .host => some "other-sql"
  | _ => none

def otherHostVariable : DotEnv.Environment :=
  [("ERPGW_DB__HOST", "other-sql")]

def listedConfiguration (host : String) : Configuration where
  backend := .sap
  token := "t0ken"
  database := { host := host, port := 1500, user := "reader" }

def replacedConfiguration : Configuration where
  backend := .sap
  token := "t0ken"
  database := { host := "other-sql" }

lemma layered_listed : (sourceOf listedText).layered =
    some (.table none [("erp", fromFile (.text "sap")), ("bearertoken", fromFile (.text "t0ken")),
      ("db", .array (some (.file "erpgw.json"))
        [fromFile (.text "erp-sql"), fromFile (.int 1500), fromFile (.text "reader")])]) := by
  rfl

lemma layered_listedEdited : (sourceOf listedEditedText).layered =
    some (.table none [("erp", fromFile (.text "sap")), ("bearertoken", fromFile (.text "t0ken")),
      ("db", .array (some (.file "erpgw.json"))
        [fromFile (.text "other-sql"), fromFile (.int 1500), fromFile (.text "reader")])]) := by
  rfl

/-- A variable that leads into a list puts a table in its place, and what the list said of the other
settings of the section is gone. -/
theorem environment_replaces_list :
    source? (fileOf listedText) "erpgw.json" = some (sourceOf listedText) ∧
      source? (fileOf listedEditedText) "erpgw.json" = some (sourceOf listedEditedText) ∧
      (sourceOf listedText).Sets otherHost (sourceOf listedEditedText) ∧
      Assigns (environmentOf (fileOf listedText) otherHostVariable) otherHost ∧
      ∃ c₀ c c₁ : Configuration,
        load (fileOf listedText) [] "erpgw.json" = .ok c₀ ∧
        load (fileOf listedEditedText) [] "erpgw.json" = .ok c ∧
        load (fileOf listedText) otherHostVariable "erpgw.json" = .ok c₁ ∧
        c₁ ≠ c ∧ c₀.database.port = 1500 ∧ c₁.database.port = 1433 := by
  have hsets : (sourceOf listedText).Sets otherHost (sourceOf listedEditedText) := by
    refine sets_of_layered layered_listed layered_listedEdited fun x => ?_
    cases x <;> rfl
  have hvariables : Assigns (environmentOf (fileOf listedText) otherHostVariable) otherHost := by
    exact assigns_of_get? (by decide +kernel) (by decide +kernel) (by decide +kernel)
  refine ⟨by rfl, by rfl, hsets, hvariables, ?_⟩
  refine ⟨listedConfiguration "erp-sql", listedConfiguration "other-sql", replacedConfiguration, ?_⟩
  decide +kernel

end Examples

end ErpGateway.Config
