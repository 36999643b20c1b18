import ErpGateway.Cli.Program
import ErpGateway.Proofs.Config.Reload
import ErpGateway.Proofs.Secret.Beside
import ErpGateway.Proofs.Text.Octets

namespace ErpGateway.Cli

open Config (Configuration)
open Secret (Accepts stored placeOf)
open Text (Octets utf8)

variable {s s' : Start} {config : String} {formats : List Config.Format} {c c' : Configuration}
  {p : String} {ending : Octets} {base : Place}

section Line

inductive IsEnding : Octets → Prop
  | nothing : IsEnding []
  | lineFeed (rest : Octets) : IsEnding (0x0A :: rest)
  | returnLineFeed (rest : Octets) : IsEnding (0x0D :: 0x0A :: rest)

def withoutReturns (line : String) : String :=
  String.ofList ((line.toList.reverse.dropWhile (· == '\r')).reverse)

lemma withoutReturns_eq (h : p.toList.getLast? ≠ some '\r') : withoutReturns p = p := by
  have hkept : p.toList.reverse.dropWhile (· == '\r') = p.toList.reverse := by
    cases hreverse : p.toList.reverse with
    | nil => rfl
    | cons c rest =>
      rw [← List.head?_reverse, hreverse, List.head?_cons, Ne, Option.some_inj] at h
      exact List.dropWhile_cons_of_neg (by simpa using h)
  rw [withoutReturns, hkept, List.reverse_reverse, String.ofList_toList]

lemma withoutReturns_append (h : p.toList.getLast? ≠ some '\r') : withoutReturns (p ++ "\r") = p := by
  have hreverse : (p ++ "\r").toList.reverse = '\r' :: p.toList.reverse := by
    rw [String.toList_append, List.reverse_append]
    rfl
  have hreturns : withoutReturns (p ++ "\r") = withoutReturns p := by
    rw [withoutReturns, hreverse, List.dropWhile_cons_of_pos (by decide), withoutReturns]
  exact hreturns.trans (withoutReturns_eq h)

lemma firstLine?_eq_some (hinput : s.input = utf8 p ++ ending) (hending : IsEnding ending)
    (hfeed : '\n' ∉ p.toList) (hreturn : p.toList.getLast? ≠ some '\r') : s.firstLine? = some p := by
  have hline : ∀ line, s.input.takeWhile (· != 0x0A) = utf8 line →
      s.firstLine? = some (withoutReturns line) := by
    intro line h
    rw [Start.firstLine?, h, Text.ofUtf8?_utf8]
    rfl
  have hinput : s.input.takeWhile (· != 0x0A) = utf8 p ++ ending.takeWhile (· != 0x0A) := by
    rw [hinput, Text.takeWhile_utf8_append hfeed]
  cases hending with
  | nothing => rw [hline p (hinput.trans (List.append_nil _)), withoutReturns_eq hreturn]
  | lineFeed => rw [hline p (hinput.trans (List.append_nil _)), withoutReturns_eq hreturn]
  | returnLineFeed =>
    have hboth : utf8 p ++ [0x0D] = utf8 (p ++ "\r") := by
      rw [Text.utf8_append]
      rfl
    rw [hline (p ++ "\r") (hinput.trans hboth), withoutReturns_append hreturn]

end Line

section Stored

def afterStoring (s : Start) (config : String) (c : Configuration) (p : String) : Files :=
  stored s.files (s.secretPlace config) c.passwordKey (utf8 p)

lemma setPassword_eq (hline : s.firstLine? = some p)
    (h : Accepts s.files (s.secretPlace config) c.passwordKey) :
    s.setPassword config c =
      .exit 0 ("Stored " ++ c.passwordKey ++ "\n") "" (afterStoring s config c p) := by
  rw [Start.setPassword, hline]
  dsimp only
  rw [Secret.problem_set_eq_none_iff.mpr h]
  dsimp only
  rw [Secret.files_set h, afterStoring]

lemma exists_base (hload : Config.load s.files s.environment config formats = .ok c) :
    ∃ place base, s.files.place? config = some place ∧
      s.files.follow? (Secret.startAbove config) (Secret.above config) = some base ∧
      s.secretPlace config = base ++ ["secrets"] ∧ place.length ≤ base.length + 1 := by
  obtain ⟨place, hplace⟩ := Config.exists_place_of_load hload
  obtain ⟨base, hbase, hlength⟩ := Secret.exists_base hplace
  exact ⟨place, base, hplace, hbase, Secret.getD_place? (Files.ne_empty_of_place? hplace) hbase, hlength⟩

lemma length_placeOf_secrets {key : String} :
    (placeOf (base ++ ["secrets"]) key).length = base.length + 2 := by
  rw [Secret.length_placeOf, List.length_append, List.length_singleton]

lemma exists_deeper (hload : Config.load s.files s.environment config formats = .ok c) (key : String) :
    ∃ place, s.files.place? config = some place ∧
      Config.IsDeeper (placeOf (s.secretPlace config) key) place := by
  obtain ⟨place, base, hplace, -, hsecrets, hlength⟩ := exists_base hload
  refine ⟨place, hplace, ?_⟩
  rw [hsecrets]
  constructor <;> rw [length_placeOf_secrets] <;> omega

lemma load_afterStoring (hload : Config.load s.files s.environment config formats = .ok c)
    (h : Accepts s.files (s.secretPlace config) c.passwordKey) :
    Config.load (afterStoring s config c p) s.environment config formats = .ok c := by
  obtain ⟨place, hplace, hdeeper⟩ := exists_deeper hload c.passwordKey
  exact Config.load_of_grows (Secret.growsAt_stored h (utf8 p)) hplace hdeeper hload

lemma secretPlace_afterStoring (hload : Config.load s.files s.environment config formats = .ok c)
    (h : Accepts s.files (s.secretPlace config) c.passwordKey)
    (hfiles : s'.files = afterStoring s config c p) :
    s'.secretPlace config = s.secretPlace config := by
  obtain ⟨place, base, hplace, hbase, hsecrets, -⟩ := exists_base hload
  have hgrown : s'.files.follow? (Secret.startAbove config) (Secret.above config) = some base := by
    rw [hfiles]
    refine (Secret.growsAt_stored h (utf8 p)).follow? hbase (Secret.named_startAbove config) ?_
    intro hunder
    have hle := hunder.length_le
    rw [hsecrets, length_placeOf_secrets] at hle
    omega
  rw [hsecrets]
  exact Secret.getD_place? (Files.ne_empty_of_place? hplace) hgrown

def Start.variables (s : Start) : Config.DotEnv.Environment :=
  Config.environmentOf s.files s.environment

def Start.given (s : Start) : Option String :=
  s.variables.get? passwordVariable

lemma password_of_get {files : Files} {directory : Place} {key : String}
    (h : Secret.get files directory key = .ok (utf8 p)) :
    Secret.password files directory key none = .ok p := by
  rw [Secret.password, h]
  simp only [Text.ofUtf8?_utf8]

lemma serve_afterStoring (hload : Config.load s.files s.environment config formats = .ok c)
    (h : Accepts s.files (s.secretPlace config) c.passwordKey)
    (hfiles : s'.files = afterStoring s config c p)
    (hkey : s'.given = none → c'.passwordKey = c.passwordKey) :
    s'.serve config c' = .serve c' (s'.given.getD p) := by
  have hpassword : Secret.password s'.files (s.secretPlace config) c'.passwordKey s'.given =
      .ok (s'.given.getD p) := by
    cases hgiven : s'.given with
    | some e => rfl
    | none =>
      refine password_of_get ?_
      rw [hkey hgiven, hfiles, afterStoring, Secret.get_eq h.stored,
        Secret.read?_stored Secret.placeOf_ne_marker, if_pos rfl]
      rfl
  rw [Start.serve, secretPlace_afterStoring hload h hfiles, ← Start.variables, ← Start.given, hpassword]

lemma isUnread_passwordVariable : Config.IsUnread passwordVariable where
  not_section S := by cases S <;> decide +kernel
  not_setting x hx := by
    have hall : ∀ x ∈ Config.Setting.all, x.section? = none →
        Config.keyOf? passwordVariable ≠ some (Text.lowered x.name) := by decide +kernel
    exact hall x x.mem_all hx

lemma load_of_variables (hload : Config.load s.files s.environment config formats = .ok c)
    (h : Accepts s.files (s.secretPlace config) c.passwordKey)
    (hfiles : s'.files = afterStoring s config c p)
    (hvariables : Config.without passwordVariable s'.variables =
      Config.without passwordVariable s.variables) :
    Config.load s'.files s'.environment config formats = .ok c := by
  obtain ⟨place, -, hdeeper⟩ := exists_deeper hload c.passwordKey
  have hreloaded : Config.load s'.files s.environment config formats = .ok c := by
    rw [hfiles]
    exact load_afterStoring hload h
  have henvironment : Config.environmentOf s'.files s.environment = s.variables := by
    rw [hfiles]
    exact Config.environmentOf_of_grows (Secret.growsAt_stored h (utf8 p)) hdeeper.env s.environment
  refine Config.load_of_without isUnread_passwordVariable ?_ hreloaded
  rw [henvironment]
  exact hvariables.symm

end Stored

section Run

lemma finish_setPassword (harguments : parse s.arguments = .run ⟨config, .setPassword⟩)
    (hload : Config.load s.files s.environment config formats = .ok c) :
    s.finish formats = s.setPassword config c := by
  rw [Start.finish, harguments]
  dsimp only
  rw [Start.run, hload]

lemma finish_serve (harguments : parse s.arguments = .run ⟨config, .serve⟩)
    (hload : Config.load s.files s.environment config formats = .ok c) :
    s.finish formats = s.serve config c := by
  rw [Start.finish, harguments]
  dsimp only
  rw [Start.run, hload]

def blockLine (line : List Char) (below : Json.Members × Json.Members) :
    Json.Members × Json.Members :=
  match line.span (· != ':') with
  | (key, ':' :: value) =>
    let name := Text.trimmed (String.ofList key)
    let word := Text.trimmed (String.ofList value)
    if key.head? = some ' ' then ((name, .text word) :: below.1, below.2)
    else if word.isEmpty then ([], (name, .object below.1) :: below.2)
    else (below.1, (name, .text word) :: below.2)
  | _ => below

def blockMappings : Config.Format where
  extensions := ["yaml", "yml"]
  read name content :=
    match Text.ofUtf8? content with
    | none => .error .notText
    | some text =>
      let lines := Text.splitAround ['\n'] text.toList
      .ok (Config.Value.ofMembers (some (.file name)) (lines.foldr blockLine ([], [])).2)

def gatewayFormats : List Config.Format :=
  [.json, blockMappings]

def gatewayFiles : Files :=
  [(["conf", "erpgw.yaml"], utf8 "erp: sap\nbearerToken: t0ken\ndb:\n  host: h\n"),
    (["conf", "secrets", "db_password_sap.bin"], utf8 "older")]

def gatewayConfiguration : Configuration where
  backend := .sap
  token := "t0ken"
  database := { host := "h" }

def storing : Start where
  arguments := ["-c", "conf/erpgw.yaml", "set-db-password"]
  input := utf8 " pä ss " ++ [0x0D, 0x0A, 0x78]
  files := gatewayFiles

def serving (environment : Config.DotEnv.Environment) : Start where
  arguments := ["-c", "conf/erpgw.yaml"]
  environment := environment
  files := afterStoring storing "conf/erpgw.yaml" gatewayConfiguration " pä ss "

end Run

end ErpGateway.Cli
