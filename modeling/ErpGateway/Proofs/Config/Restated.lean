import ErpGateway.Proofs.Config.Environment
import ErpGateway.Proofs.Decimal.Integers

/-! Text settings that the environment gives. A variable's text is read as a flag or a number first, and
where a text is wanted this is written out again; so another spelling of a flag or a number is not kept. -/

namespace ErpGateway.Config

open Decimal

def restated (text : String) : String :=
  if Text.lowered text = "true" ∨ Text.lowered text = "false" then Text.lowered text
  else
    match int64? text.toList, float? text.toList with
    | some n, _ => toString n
    | none, some x => Layout.plain.write x
    | none, none => text

inductive Verbatim : String → Prop
  | flag (b : Bool) : Verbatim (toString b)
  | int {n : Int} : int64Min ≤ n → n ≤ int64Max → Verbatim (toString n)
  | float {text : String} {x : Float} : Text.lowered text ≠ "true" → Text.lowered text ≠ "false" →
      int64? text.toList = none → float? text.toList = some x → Layout.plain.write x = text →
      Verbatim text
  | text {text : String} : Text.lowered text ≠ "true" → Text.lowered text ≠ "false" →
      int64? text.toList = none → float? text.toList = none → Verbatim text

section Spelling

variable {text : String} {key : String} {origin : Option Origin}

lemma text_ofText (key : String) (origin : Option Origin) (text : String) :
    Located.text ⟨key, .plain origin (Value.ofText text)⟩ = .ok (restated text) := by
  rw [restated, Value.ofText]
  split
  · rename_i h
    rw [if_pos (Or.inl h), h]
    rfl
  · rename_i h
    rw [if_pos (Or.inr h), h]
    rfl
  · rename_i htrue hfalse
    rw [if_neg (not_or.mpr ⟨htrue, hfalse⟩)]
    cases int64? text.toList with
    | some n => rfl
    | none =>
      cases float? text.toList <;> rfl

lemma toList_toString_int (n : Int) :
    (toString n).toList = (if n < 0 then ['-'] else []) ++ digits n.natAbs := by
  cases n with
  | ofNat n =>
    rw [if_neg (by simp)]
    exact String.toList_ofList
  | negSucc n =>
    rw [if_pos (Int.negSucc_lt_zero n)]
    change ("-" ++ toString (n + 1)).toList = _
    rw [String.toList_append]
    exact congrArg _ String.toList_ofList

lemma int64?_toString {n : Int} (hmin : int64Min ≤ n) (hmax : n ≤ int64Max) :
    int64? (toString n).toList = some n := by
  have hfits : fitsInt64 n = true := by simp [fitsInt64, hmin, hmax]
  have hsigned : signed? (toString n).toList = some n := by
    refine signed?_eq_some_iff.mpr ⟨_, _, toList_toString_int n, ?_, digits_ne_nil _,
      fun _ => isDigit_of_mem_digits, ?_⟩
    · split <;> simp
    · rw [← ofDigits_eq, ofDigits_digits]
      by_cases hn : n < 0
      · rw [if_pos hn, if_pos rfl]
        omega
      · rw [if_neg hn, if_neg (by decide)]
        omega
  rw [int64?, hsigned, Option.filter_some, if_pos hfits]

lemma lowered_ne_of_int64? {n : Int} (h : int64? text.toList = some n) (word : String)
    (hword : word.toList.all (fun c => !c.isDigit) = true) : Text.lowered text ≠ word := by
  obtain ⟨⟨sign, digits, htext, -, hne, hdigits, -⟩, -⟩ := int64?_eq_some_iff.mp h
  obtain ⟨c, hc⟩ := List.exists_mem_of_ne_nil digits hne
  rintro rfl
  have hmem : c ∈ (Text.lowered text).toList := by
    rw [Text.lowered, String.toList_ofList, Text.lower, List.mem_map]
    exact ⟨c, by simp [htext, hc], toLower_of_isDigit (hdigits c hc)⟩
  have hnot := List.all_eq_true.mp hword c hmem
  rw [hdigits c hc] at hnot
  cases hnot

theorem restated_eq_self_iff (text : String) : restated text = text ↔ Verbatim text := by
  constructor
  · intro h
    rw [restated] at h
    split at h
    · rename_i hflag
      rw [h] at hflag
      rcases hflag with rfl | rfl
      · exact .flag true
      · exact .flag false
    · rename_i hflag
      obtain ⟨htrue, hfalse⟩ := not_or.mp hflag
      split at h
      · rename_i n _ hint
        obtain ⟨-, hmin, hmax⟩ := int64?_eq_some_iff.mp hint
        exact h ▸ .int hmin hmax
      · rename_i x hint hfloat
        exact .float htrue hfalse hint hfloat h
      · rename_i hint hfloat
        exact .text htrue hfalse hint hfloat
  · intro h
    cases h with
    | flag b => cases b <;> decide
    | @int n hmin hmax =>
      have hint := int64?_toString hmin hmax
      have htrue := lowered_ne_of_int64? hint "true" (by decide)
      have hfalse := lowered_ne_of_int64? hint "false" (by decide)
      rw [restated, if_neg (not_or.mpr ⟨htrue, hfalse⟩), hint]
    | float htrue hfalse hint hfloat hwrite =>
      rw [restated, if_neg (not_or.mpr ⟨htrue, hfalse⟩), hint, hfloat]
      exact hwrite
    | text htrue hfalse hint hfloat =>
      rw [restated, if_neg (not_or.mpr ⟨htrue, hfalse⟩), hint, hfloat]

def IsNumeral (cs : List Char) : Prop :=
  ∀ c ∈ cs, c.isDigit = true ∨ c = '-' ∨ c = '.'

lemma IsNumeral.append {cs cs' : List Char} (h : IsNumeral cs) (h' : IsNumeral cs') :
    IsNumeral (cs ++ cs') :=
  fun c hc => (List.mem_append.mp hc).elim (h c) (h' c)

lemma isNumeral_of_isDigit {cs : List Char} (h : ∀ c ∈ cs, c.isDigit = true) : IsNumeral cs :=
  fun c hc => Or.inl (h c hc)

lemma isNumeral_zeros (n : Nat) : IsNumeral (zeros n) := by
  refine isNumeral_of_isDigit fun c hc => ?_
  rw [(List.mem_replicate.mp hc).2]
  decide

lemma isNumeral_point : IsNumeral ['.'] :=
  fun _ hc => Or.inr (Or.inr (List.mem_singleton.mp hc))

lemma isNumeral_positionalText {cs : List Char} (h : ∀ c ∈ cs, c.isDigit = true) (exponent : Int) :
    IsNumeral (positionalText "" cs exponent) := by
  have hall := isNumeral_of_isDigit h
  have hzero : IsNumeral ['0'] := isNumeral_zeros 1
  have htake (n : Nat) : IsNumeral (cs.take n) := fun c hc => hall c (List.mem_of_mem_take hc)
  have hdrop (n : Nat) : IsNumeral (cs.drop n) := fun c hc => hall c (List.mem_of_mem_drop hc)
  rw [positionalText]
  split
  · exact (hall.append (isNumeral_zeros _)).append fun _ hc => nomatch hc
  · dsimp only
    split
    · exact (htake _).append (isNumeral_point.append (hdrop _))
    · exact hzero.append (isNumeral_point.append ((isNumeral_zeros _).append hall))

lemma isNumeral_finite (x : Float) : IsNumeral (Layout.plain.finite x) := by
  have hsign : IsNumeral (if isNegative x then ['-'] else []) := by
    intro c hc
    split at hc
    · exact Or.inr (Or.inl (List.mem_singleton.mp hc))
    · cases hc
  rw [Layout.finite]
  split
  · exact hsign.append (isNumeral_zeros 1)
  · exact hsign.append (isNumeral_positionalText (fun _ => isDigit_of_mem_digits) _)

lemma isNumeral_toString (n : Int) : IsNumeral (toString n).toList := by
  rw [toList_toString_int]
  refine IsNumeral.append (fun c hc => ?_) (isNumeral_of_isDigit fun _ => isDigit_of_mem_digits)
  split at hc
  · exact Or.inr (Or.inl (List.mem_singleton.mp hc))
  · cases hc

theorem restated_ne_of_mark {c : Char}
    (hnumber : (int64? text.toList).isSome ∨ (float? text.toList).isSome) (hc : c ∈ text.toList)
    (hmark : c ∈ ['+', 'e', 'E']) : restated text ≠ text := by
  obtain ⟨hnumeral, hnan, hinf, hminus⟩ : ¬ (c.isDigit = true ∨ c = '-' ∨ c = '.') ∧
      c ∉ "NaN".toList ∧ c ∉ "inf".toList ∧ c ∉ "-inf".toList := by
    simp only [List.mem_cons, List.not_mem_nil, or_false] at hmark
    rcases hmark with rfl | rfl | rfl <;> decide
  rw [Ne, restated_eq_self_iff]
  intro h
  cases h with
  | flag b => cases b <;> exact absurd hnumber (by decide)
  | @int n _ _ => exact hnumeral (isNumeral_toString n c hc)
  | @float _ x _ _ _ _ hwrite =>
    rw [← hwrite, Layout.write] at hc
    split_ifs at hc
    · exact hnan hc
    · exact hminus hc
    · exact hinf hc
    · rw [String.toList_ofList] at hc
      exact hnumeral (isNumeral_finite x c hc)
  | text _ _ hint hfloat => simp [hint, hfloat] at hnumber

end Spelling

/-- Steps that part from the keys at some key, so that they lead neither to their end nor into it or
to what holds it. -/
def leadsApart : List Step → List String → Bool
  | .key name :: steps, key :: keys => Value.foldKey name != key || leadsApart steps keys
  | _, _ => false

structure Gives (environment : DotEnv.Environment) (x : Setting) (text : String) : Prop where
  mem : (x.variableName, text) ∈ environment
  apart : ∀ e ∈ environment, e ≠ (x.variableName, text) →
    ∀ steps, Setting.stepsOf? e.1 = some steps → leadsApart steps x.keys = true

section Overlay

variable {environment : DotEnv.Environment} {x : Setting} {text : String} {v : Value}

lemma leadsApart_nil (steps : List Step) : leadsApart steps [] = false := by
  rcases steps with _ | ⟨_ | _, _⟩ <;> rfl

lemma lookup?_putAt_of_leadsApart {origin : Option Origin} {p : Plain} {steps : List Step}
    {keys : List String} {there : Value} (h : leadsApart steps keys = true) :
    Value.lookup? keys (Value.putAt (.plain origin p) steps there) = Value.lookup? keys there := by
  induction keys generalizing steps there with
  | nil =>
    rw [leadsApart_nil] at h
    cases h
  | cons key keys ih =>
    rcases steps with _ | ⟨name | n, steps⟩
    · cases h
    · rw [Value.lookup?, Value.lookup?, Value.putAt_key, Keyed.get?_put]
      split
      · rename_i hsame
        have hrest : leadsApart steps keys = true := by simpa [leadsApart, hsame] using h
        rw [Option.bind_some, ih hrest, hsame]
        cases there.asTable.2.get? (Value.foldKey name) with
        | none =>
          -- the ways part further on, and nothing is inside a plain value
          cases keys with
          | nil =>
            rw [leadsApart_nil] at hrest
            cases hrest
          | cons key keys => exact Value.lookup?_cons_plain key keys
        | some inside => rfl
      · rfl
    · cases h

lemma overlay_append (e : String × String) :
    Value.overlay (settingsOf (environment ++ [e])) v =
      match Setting.stepsOf? e.1 with
      | none => Value.overlay (settingsOf environment) v
      | some steps => Value.putAt (.plain (some .environment) (Value.ofText e.2)) steps
          (Value.overlay (settingsOf environment) v) := by
  rw [Setting.stepsOf?]
  cases hname : settingName? e.1 with
  | none => exact overlay_append_of_none hname
  | some place => simp [settingsOf, hname, Value.overlay, Value.putPath]

lemma lookup?_overlay_of_leadsApart
    (h : ∀ e ∈ environment, e ≠ (x.variableName, text) →
      ∀ steps, Setting.stepsOf? e.1 = some steps → leadsApart steps x.keys = true) :
    Value.lookup? x.keys (Value.overlay (settingsOf environment) v) =
      if (x.variableName, text) ∈ environment then
        some (.plain (some .environment) (Value.ofText text))
      else Value.lookup? x.keys v := by
  -- from the end, as the variables are put on top of each other in their order
  induction environment using List.reverseRecOn with
  | nil => rfl
  | append_singleton environment e ih =>
    have hbefore := ih fun e' he' => h e' (List.mem_append_left _ he')
    rw [overlay_append]
    by_cases he : e = (x.variableName, text)
    · subst he
      rw [x.stepsOf?_variableName, if_pos (List.mem_append_right _ List.mem_cons_self)]
      exact Value.lookup?_putAt_self fun _ => x.foldKey_of_mem_keys
    · have hmem : (x.variableName, text) ∈ environment ++ [e] ↔
          (x.variableName, text) ∈ environment := by
        rw [List.mem_append, List.mem_singleton, or_iff_left (Ne.symm he)]
      simp only [hmem]
      cases hsteps : Setting.stepsOf? e.1 with
      | none => exact hbefore
      | some steps =>
        have hapart := h e (List.mem_append_right _ List.mem_cons_self) he steps hsteps
        exact (lookup?_putAt_of_leadsApart hapart).trans hbefore

lemma at?_of_lookup? {w : Value} (hv : v.IsLayered) (h : Value.lookup? x.keys v = some w) :
    v.at? x = some w := by
  rw [hv.at?_eq, h]
  rintro S hS ⟨origin, items, hlist⟩
  rw [hv.section?_eq, Value.lookup?_singleton] at hlist
  have hkeys : x.keys = [Text.lowered S.name, Text.lowered x.name] := by
    rw [Setting.keys, Setting.segments, hS]
    rfl
  rw [hkeys, Value.lookup?, hlist] at h
  cases h

lemma Gives.at?_overlay (h : Gives environment x text) (hv : v.IsLayered) :
    (Value.overlay (settingsOf environment) v).at? x =
      some (.plain (some .environment) (Value.ofText text)) := by
  refine at?_of_lookup? (hv.overlay _) ?_
  rw [lookup?_overlay_of_leadsApart h.apart, if_pos h.mem]

end Overlay

namespace Setting

def text? (c : Configuration) : Setting → Option String
  | listen => some c.listen
  | token => some c.token
  | host => some c.database.host
  | user => some c.database.user
  | database => some c.database.database
  | instanceName => c.database.instanceName
  | excludedOrderPrefix => some c.pricing.excludedOrderPrefix
  | profile => some c.profile
  | _ => none

def texts : List Setting :=
  [listen, token, host, user, database, instanceName, excludedOrderPrefix, profile]

lemma nullableText_ofText (text : String) :
    Located.nullableText { value := .plain (some .environment) (Value.ofText text) } =
      .ok (some (restated text)) := by
  have htext := text_ofText "" (some .environment) text
  cases h : Value.ofText text with
  | nil =>
    rw [h] at htext
    cases htext
  | _ =>
    rw [h] at htext
    rw [Located.nullableText, htext]
    rfl

lemma text?_of_read {x : Setting} {c : Configuration} {text : String} (hx : x ∈ texts)
    (h : x.read (some (.plain (some .environment) (Value.ofText text))) = some (x.of c)) :
    x.text? c = some (restated text) := by
  cases x
  case instanceName =>
    rw [read, reading, nullableText_ofText] at h
    exact (Option.some.inj h).symm
  case listen | token | host | user | database | excludedOrderPrefix | profile =>
    rw [read, reading, text_ofText] at h
    exact h.symm
  all_goals simp [texts] at hx

end Setting

/-- A text setting holds what its variable says, written out again; so it holds the variable's text just
when this is neither a flag nor a number, or the one spelling of it that is written. -/
theorem text_of_environment {files : Files} {environment : DotEnv.Environment} {path : String}
    {formats : List Format} {x : Setting} {text : String} {c : Configuration}
    (hx : x ∈ Setting.texts) (hgives : Gives (environmentOf files environment) x text)
    (h : load files environment path formats = .ok c) :
    x.text? c = some (restated text) ∧ (x.text? c = some text ↔ Verbatim text) := by
  obtain ⟨s, -, hs, -⟩ := load_eq_ok_iff.mp h
  obtain ⟨v, hv, hc⟩ := Source.configuration_eq_ok_iff.mp hs
  obtain ⟨-, -, hread⟩ := configuration_eq_ok_iff_read.mp hc
  have hat := hgives.at?_overlay (isLayered_of_layered hv)
  have htext : x.text? c = some (restated text) := Setting.text?_of_read hx (hat ▸ hread x)
  refine ⟨htext, ?_⟩
  rw [htext, Option.some.injEq]
  exact restated_eq_self_iff text

section Examples

lemma gives_of_all {environment : DotEnv.Environment} {x : Setting} {text : String}
    (hmem : (x.variableName, text) ∈ environment)
    (h : ∀ e ∈ environment, e = (x.variableName, text) ∨
      (Setting.stepsOf? e.1).all (fun steps => leadsApart steps x.keys) = true) :
    Gives environment x text where
  mem := hmem
  apart e he hne steps hsteps := by
    have hall := (h e he).resolve_left hne
    rwa [hsteps] at hall

def untoldText : String :=
  "\x7b\"erp\":\"sap\",\"db\":\x7b\"host\":\"erp-sql\"\x7d\x7d"

def tokenVariable (text : String) : DotEnv.Environment :=
  [("HOME", "/root"), ("ERPGW_BEARERTOKEN", text), ("ERPGW_DB_PASSWORD", "s3cret")]

def configurationWith (token : String) : Configuration where
  backend := .sap
  token := token
  database := { host := "erp-sql" }

theorem text_of_environment_hexadecimal :
    load (fileOf untoldText) (tokenVariable "0x7") "erpgw.json" = .ok (configurationWith "0x7") ∧
      Setting.token.text? (configurationWith "0x7") = some "0x7" := by
  have hload : load (fileOf untoldText) (tokenVariable "0x7") "erpgw.json" =
      .ok (configurationWith "0x7") := by
    decide +kernel
  have hgives : Gives (environmentOf (fileOf untoldText) (tokenVariable "0x7")) .token "0x7" :=
    gives_of_all (by decide +kernel) (by decide +kernel)
  have hverbatim : Verbatim "0x7" := .text (by decide) (by decide) (by decide) (by decide)
  exact ⟨hload, (text_of_environment (by decide) hgives hload).2.mpr hverbatim⟩

theorem token_of_digits_restated :
    (sourceOf untoldText).at? .token = none ∧
      Gives (environmentOf (fileOf untoldText) (tokenVariable "007")) .token "007" ∧
      load (fileOf untoldText) (tokenVariable "007") "erpgw.json" = .ok (configurationWith "7") ∧
      Setting.token.text? (configurationWith "7") ≠ some "007" := by
  refine ⟨by rfl, gives_of_all (by decide +kernel) (by decide +kernel), ?_, by decide⟩
  decide +kernel

end Examples

end ErpGateway.Config
