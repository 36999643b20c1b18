import ErpGateway.Config.Settings
import ErpGateway.Proofs.Text.Trim
import Mathlib.Tactic.Common

/-! Which headers grant access under a valid configuration. The guard reads a header as fields between
blanks, and a token with a blank inside is no field: the configuration takes such a token, and the header
that holds it does not match. -/

namespace ErpGateway.Text

def IsField (cs : List Char) : Prop :=
  cs ≠ [] ∧ ∀ c ∈ cs, isBlank c = false

variable {cs : List Char} {c : Char}

lemma fields_cons_of_isBlank (hc : isBlank c = true) (cs : List Char) :
    fields (c :: cs) = fields cs := by
  simp [fields, fieldsFrom, hc]

lemma fieldsFrom_of_ne_nil {word : List Char} (hword : word ≠ []) (cs : List Char) :
    fieldsFrom word cs = (word.reverse ++ cs.takeWhile fun c => !isBlank c) ::
      fields (cs.dropWhile fun c => !isBlank c) := by
  induction cs generalizing word with
  | nil => simp [fieldsFrom, fields, hword]
  | cons c cs ih =>
    cases hc : isBlank c with
    | true => simp [fieldsFrom, hc, hword, fields]
    | false => simp [fieldsFrom, hc, ih (List.cons_ne_nil c word)]

lemma fields_cons_of_not_isBlank (hc : isBlank c = false) (cs : List Char) :
    fields (c :: cs) = (c :: cs.takeWhile fun c => !isBlank c) ::
      fields (cs.dropWhile fun c => !isBlank c) := by
  rw [fields, fieldsFrom, if_neg (by simp [hc]), fieldsFrom_of_ne_nil (List.cons_ne_nil c [])]
  rfl

lemma fields_eq_nil_iff : fields cs = [] ↔ ∀ c ∈ cs, isBlank c = true := by
  induction cs with
  | nil => simp [fields, fieldsFrom]
  | cons c cs ih =>
    cases hc : isBlank c with
    | true => simp [fields_cons_of_isBlank hc, ih, hc]
    | false => simp [fields_cons_of_not_isBlank hc, hc]

lemma fields_blanks_append {left : List Char} (hleft : ∀ c ∈ left, isBlank c = true)
    (cs : List Char) : fields (left ++ cs) = fields cs := by
  induction left with
  | nil => rfl
  | cons c left ih =>
    rw [List.forall_mem_cons] at hleft
    rw [List.cons_append, fields_cons_of_isBlank hleft.1, ih hleft.2]

lemma fields_field_append {field rest : List Char} (hfield : IsField field)
    (hrest : ∀ c ∈ rest.head?, isBlank c = true) :
    fields (field ++ rest) = field :: fields rest := by
  obtain ⟨c, field, rfl⟩ := List.exists_cons_of_ne_nil hfield.1
  have hall : ∀ d ∈ field, (!isBlank d) = true := by
    intro d hd
    simp [hfield.2 d (List.mem_cons_of_mem c hd)]
  rw [List.cons_append, fields_cons_of_not_isBlank (hfield.2 c List.mem_cons_self),
    List.takeWhile_append_of_pos hall, List.dropWhile_append_of_pos hall]
  cases rest with
  | nil => simp
  | cons d rest => simp [hrest d rfl]

lemma exists_of_fields_eq_cons {field : List Char} {more : List (List Char)}
    (h : fields cs = field :: more) :
    ∃ left rest, cs = left ++ field ++ rest ∧ (∀ c ∈ left, isBlank c = true) ∧ IsField field ∧
      (∀ c ∈ rest.head?, isBlank c = true) ∧ fields rest = more := by
  induction cs with
  | nil => simp [fields, fieldsFrom] at h
  | cons c cs ih =>
    cases hc : isBlank c with
    | true =>
      rw [fields_cons_of_isBlank hc] at h
      obtain ⟨left, rest, rfl, hleft, hmore⟩ := ih h
      exact ⟨c :: left, rest, rfl, List.forall_mem_cons.mpr ⟨hc, hleft⟩, hmore⟩
    | false =>
      rw [fields_cons_of_not_isBlank hc] at h
      obtain ⟨rfl, rfl⟩ := List.cons.inj h
      refine ⟨[], cs.dropWhile fun c => !isBlank c, by simp, by simp, ⟨by simp, ?_⟩, ?_, rfl⟩
      · rw [List.forall_mem_cons]
        refine ⟨hc, fun d hd => ?_⟩
        simpa using List.mem_takeWhile_imp hd
      · intro d hd
        have hhead := List.head?_dropWhile_not (fun c => !isBlank c) cs
        rw [Option.mem_def.mp hd] at hhead
        simpa using hhead

end ErpGateway.Text

namespace ErpGateway.Http

open Text

lemma not_isBlank_of_all {cs : List Char} (h : cs.all (fun c => !isBlank c) = true) :
    ∀ c ∈ cs, isBlank c = false := by
  intro c hc
  simpa using List.all_eq_true.mp h c hc

lemma toLower_of_isBlank {c : Char} (h : isBlank c = true) : c.toLower = c := by
  have hn : ¬ (65 ≤ c.toNat ∧ c.toNat ≤ 90) := by
    simp only [isBlank, Bool.or_eq_true, Bool.and_eq_true, decide_eq_true_eq, beq_iff_eq] at h
    omega
  exact dif_neg hn

lemma isField_scheme {scheme : String} (h : sameLetters scheme "bearer" = true) :
    IsField scheme.toList := by
  have hletters : lower scheme.toList = "bearer".toList := by
    rw [sameLetters, beq_iff_eq] at h
    rw [h]
    decide
  constructor
  · intro hnil
    rw [hnil] at hletters
    cases hletters
  · intro c hc
    rw [← Bool.not_eq_true]
    intro hblank
    have hmem : c ∈ "bearer".toList := by
      rw [← hletters, lower, List.mem_map]
      exact ⟨c, hc, toLower_of_isBlank hblank⟩
    have hall : "bearer".toList.all (fun d => !isBlank d) = true := by decide
    rw [not_isBlank_of_all hall c hmem] at hblank
    cases hblank

lemma bearerMatches_iff {header expected : String} {digest : Octets → Octets} :
    bearerMatches (some header) expected digest = true ↔ ∃ scheme token : String,
      sameLetters scheme "bearer" = true ∧ expected ≠ "" ∧
        digest (utf8 token) = digest (utf8 expected) ∧
        fields header.toList = [scheme.toList, token.toList] := by
  constructor
  · intro h
    rw [bearerMatches] at h
    split at h
    · rename_i scheme token hfields
      simp only [Bool.and_eq_true, Bool.not_eq_true', beq_iff_eq] at h
      obtain ⟨⟨hne, hscheme⟩, hdigest⟩ := h
      refine ⟨String.ofList scheme, String.ofList token, hscheme, ?_, hdigest, ?_⟩
      · rintro rfl
        cases hne
      · rw [String.toList_ofList, String.toList_ofList]
        exact hfields
    · cases h
  · rintro ⟨scheme, token, hscheme, hne, hdigest, hfields⟩
    have hempty : expected.isEmpty = false := by
      rw [← Bool.not_eq_true, String.isEmpty_iff]
      exact hne
    simp [bearerMatches, hfields, hscheme, hempty, hdigest]

section Spread

variable {left scheme between token right : String} {digest : Octets → Octets}

lemma fields_spread (hscheme : sameLetters scheme "bearer" = true) (hbetween : between ≠ "")
    (hblank : ∀ c ∈ left.toList ++ between.toList ++ right.toList, isBlank c = true) :
    fields (left ++ scheme ++ between ++ token ++ right).toList =
      scheme.toList :: fields (token.toList ++ right.toList) := by
  simp only [List.forall_mem_append] at hblank
  obtain ⟨⟨hleft, hspace⟩, -⟩ := hblank
  have hne : between.toList ≠ [] := by simpa using hbetween
  obtain ⟨d, rest, hcons⟩ := List.exists_cons_of_ne_nil hne
  have happend : (left ++ scheme ++ between ++ token ++ right).toList =
      left.toList ++ (scheme.toList ++ (between.toList ++ (token.toList ++ right.toList))) := by
    simp
  rw [happend, fields_blanks_append hleft, fields_field_append (isField_scheme hscheme),
    fields_blanks_append hspace]
  rw [hcons]
  rintro c ⟨⟩
  exact hspace d (hcons ▸ List.mem_cons_self)

lemma eq_of_fields_append {cs field right : List Char} (htrim : trim cs = cs)
    (hright : ∀ c ∈ right, isBlank c = true) (h : fields (cs ++ right) = [field]) : field = cs := by
  obtain ⟨left, rest, happend, hleft, hfield, -, hnone⟩ := exists_of_fields_eq_cons h
  calc field = trim field := (trim_of_no_blank hfield.2).symm
    _ = trim (left ++ field ++ rest) := (trim_padded hleft (fields_eq_nil_iff.mp hnone)).symm
    _ = trim ([] ++ cs ++ right) := by rw [← happend, List.nil_append]
    _ = cs := (trim_padded (List.forall_mem_nil _) hright).trans htrim

lemma bearerMatches_spread_iff (hne : token ≠ "") (htrim : trim token.toList = token.toList)
    (hscheme : sameLetters scheme "bearer" = true) (hbetween : between ≠ "")
    (hblank : ∀ c ∈ left.toList ++ between.toList ++ right.toList, isBlank c = true) :
    bearerMatches (some (left ++ scheme ++ between ++ token ++ right)) token digest = true ↔
      ∀ c ∈ token.toList, isBlank c = false := by
  have hright : ∀ c ∈ right.toList, isBlank c = true :=
    fun c hc => hblank c (List.mem_append_right _ hc)
  rw [bearerMatches_iff]
  constructor
  · rintro ⟨_, word, -, -, -, hfields⟩
    rw [fields_spread hscheme hbetween hblank] at hfields
    have hword := (List.cons.inj hfields).2
    obtain ⟨_, _, -, -, hfield, -, -⟩ := exists_of_fields_eq_cons hword
    rw [← eq_of_fields_append htrim hright hword]
    exact hfield.2
  · intro htoken
    have hfield : IsField token.toList := ⟨by simpa using hne, htoken⟩
    refine ⟨scheme, token, hscheme, hne, rfl, ?_⟩
    rw [fields_spread hscheme hbetween hblank,
      fields_field_append hfield fun c hc => hright c (List.mem_of_mem_head? hc),
      fields_eq_nil_iff.mpr hright]

end Spread

end ErpGateway.Http

namespace ErpGateway.Config

open Text

lemma allBlank_token_of_validate {c : Configuration} (h : c.validate = .ok ()) :
    allBlank c.token = false := by
  rw [← Bool.not_eq_true]
  intro hblank
  rw [Configuration.validate] at h
  cases hlisten : Listen.ofText c.listen with
  | error problem => simp [hlisten, bind, Except.bind] at h
  | ok address => simp [hlisten, hblank, bind, Except.bind, throw, throwThe, MonadExceptOf.throw] at h

lemma trimmed_ne_empty_of_allBlank {s : String} (h : allBlank s = false) : trimmed s ≠ "" := by
  rw [allBlank, List.all_eq_false] at h
  obtain ⟨c, hc, hblank⟩ := h
  intro hempty
  have hnil : trim s.toList = [] := by
    rw [trimmed] at hempty
    simpa using hempty
  exact trim_ne_nil_of_mem hc (by simpa using hblank) hnil

/-- Under a valid configuration the trimmed token grants access behind the scheme in any case, with blanks
between and around the two, unless a blank stands inside the token. -/
theorem bearerMatches_of_valid (c : Configuration) (h : c.validate = .ok ())
    (digest : Octets → Octets) {left scheme between right : String}
    (hscheme : sameLetters scheme "bearer" = true) (hbetween : between ≠ "")
    (hblank : ∀ d ∈ left.toList ++ between.toList ++ right.toList, isBlank d = true) :
    Http.bearerMatches (some (left ++ scheme ++ between ++ trimmed c.token ++ right)) c.http.token
        digest = true ↔
      ∀ d ∈ (trimmed c.token).toList, isBlank d = false := by
  refine Http.bearerMatches_spread_iff ?_ ?_ hscheme hbetween hblank
  · exact trimmed_ne_empty_of_allBlank (allBlank_token_of_validate h)
  · rw [trimmed, String.toList_ofList, trim_trim]

def configurationOf (host token : String) : Configuration where
  backend := .sap
  token := token
  database := { host := host }

/-- The digest of one token; it is known of no other. -/
def digestOfAbc (content : Octets) : Octets :=
  if content = utf8 "abc" then
    [0xba, 0x78, 0x16, 0xbf, 0x8f, 0x01, 0xcf, 0xea, 0x41, 0x41, 0x40, 0xde, 0x5d, 0xae, 0x22, 0x23,
      0xb0, 0x03, 0x61, 0xa3, 0x96, 0x17, 0x7a, 0x9c, 0xb4, 0x10, 0xff, 0x61, 0xf2, 0x00, 0x15, 0xad]
  else []

theorem bearerMatches_of_valid_padded :
    (configurationOf "erp-sql" " abc ").validate = .ok () ∧
      Http.bearerMatches (some (" " ++ "bEARER" ++ "   " ++ trimmed " abc " ++ "\t"))
        (configurationOf "erp-sql" " abc ").http.token digestOfAbc = true := by
  have h : (configurationOf "erp-sql" " abc ").validate = .ok () := by decide
  have hblanks : (" ".toList ++ "   ".toList ++ "\t".toList).all isBlank = true := by decide
  exact ⟨h, (bearerMatches_of_valid _ h digestOfAbc (by decide) (by decide)
    (List.all_eq_true.mp hblanks)).mpr (Http.not_isBlank_of_all (by decide))⟩

theorem header_of_two_words_refused :
    (configurationOf "erp-sql" "two words").validate = .ok () ∧
      ∀ digest, Http.bearerMatches (some ("Bearer " ++ trimmed "two words"))
        (configurationOf "erp-sql" "two words").http.token digest = false :=
  ⟨by decide, fun _ => by rfl⟩

end ErpGateway.Config
