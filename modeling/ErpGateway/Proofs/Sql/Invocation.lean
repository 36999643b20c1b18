import ErpGateway.Proofs.Decimal.Integers
import ErpGateway.Proofs.Gate.Bindings
import ErpGateway.Proofs.Http.AdHocRoute
import ErpGateway.Sql.Invocation
import Mathlib.Tactic.Common

namespace ErpGateway.Sql

open Text

def PlainNames (params : Bindings) : Prop :=
  ∀ p ∈ params, isIdentifier p.1.toList = true

namespace Invocation

def pieces (cs : List Char) : List (List Char) :=
  (cs.splitOn ',').map (List.dropWhile (· == ' '))

def readDeclaration? : List Char → Option (String × String)
  | '@' :: cs =>
    match cs.dropWhile (· != ' ') with
    | ' ' :: type => some (String.ofList (cs.takeWhile (· != ' ')), String.ofList type)
    | _ => none
  | _ => none

def readAssignment? : List Char → Option (String × Nat)
  | '@' :: cs =>
    match cs.dropWhile (· != ' ') with
    | ' ' :: '=' :: ' ' :: '@' :: 'P' :: number =>
      (Decimal.natural? number).map fun n => (String.ofList (cs.takeWhile (· != ' ')), n)
    | _ => none
  | _ => none

def readDeclarations? (text : String) : Option (List (String × String)) :=
  (pieces text.toList).mapM readDeclaration?

def readAssignments? (text : String) : Option (List (String × Nat)) :=
  (pieces text.toList).mapM readAssignment?

def opening : String := "EXEC sp_executesql @P1, @P2, "

def isCallChar (c : Char) : Bool :=
  c.isAlphanum || c == '_' || c == '@' || c == '=' || c == ',' || c == ' '

structure Carries (call : Invocation) (text : String) (params : Bindings) : Prop where
  assignments : ∃ assignments, call.sql = opening ++ assignments ∧
    readAssignments? assignments = some (params.zipIdx.map fun p => (p.1.1, p.2 + 3))
  callChars : ∀ c ∈ call.sql.toList, isCallChar c = true
  text_eq : call.values[0]? = some (.text text)
  declarations : ∃ declarations, call.values[1]? = some (.text declarations) ∧
    readDeclarations? declarations = some (params.map fun p => (p.1, p.2.declaredType))
  values : ∀ k, call.values[k + 3 - 1]? = params[k]?.map Prod.snd

lemma intercalate_comma_blank (l : List Char) (ls : List (List Char)) :
    [',', ' '].intercalate (l :: ls) = [','].intercalate (l :: ls.map (' ' :: ·)) := by
  induction ls generalizing l with
  | nil => rfl
  | cons m ls ih =>
    rw [List.map_cons, List.intercalate_cons_cons, List.intercalate_cons_cons, ih]
    cases ls with
    | nil => simp
    | cons m' ls => simp [List.intercalate_cons_cons]

def IsPiece (l : List Char) : Prop :=
  ',' ∉ l ∧ l.head? = some '@'

lemma dropWhile_of_isPiece {l : List Char} (h : IsPiece l) : l.dropWhile (· == ' ') = l := by
  cases l with
  | nil => rfl
  | cons c l =>
    obtain rfl : c = '@' := Option.some.inj h.2
    rfl

lemma pieces_intercalate {ls : List (List Char)} (hne : ls ≠ []) (h : ∀ l ∈ ls, IsPiece l) :
    pieces ([',', ' '].intercalate ls) = ls := by
  obtain ⟨l, ls, rfl⟩ := List.exists_cons_of_ne_nil hne
  have hsplit : ([','].intercalate (l :: ls.map (' ' :: ·))).splitOn ',' =
      l :: ls.map (' ' :: ·) := by
    apply List.splitOn_intercalate
    · intro m hm
      rcases List.mem_cons.mp hm with rfl | hm
      · exact (h m (by simp)).1
      · obtain ⟨m', hm', rfl⟩ := List.mem_map.mp hm
        simpa using (h m' (List.mem_cons_of_mem _ hm')).1
    · exact List.cons_ne_nil _ _
  have hrest : ∀ m ∈ ls, (' ' :: m).dropWhile (· == ' ') = m := by
    intro m hm
    rw [List.dropWhile_cons_of_pos (by rfl)]
    exact dropWhile_of_isPiece (h m (List.mem_cons_of_mem _ hm))
  rw [intercalate_comma_blank, pieces, hsplit, List.map_cons, List.map_map,
    dropWhile_of_isPiece (h l (by simp))]
  congr 1
  exact (List.map_congr_left hrest).trans (List.map_id ls)

lemma mapM_map_of_eq {α β γ : Type} {read : β → Option γ} {write : α → β} {value : α → γ}
    (as : List α) (h : ∀ a ∈ as, read (write a) = some (value a)) :
    (as.map write).mapM read = some (as.map value) := by
  induction as with
  | nil => rfl
  | cons a as ih =>
    rw [List.map_cons, List.mapM_cons, h a (by simp),
      ih fun b hb => h b (List.mem_cons_of_mem _ hb)]
    rfl

section Names

variable {name : List Char}

lemma isIdentifierTail_of_mem (h : isIdentifier name = true) :
    ∀ c ∈ name, isIdentifierTail c = true := by
  cases name with
  | nil => simp [isIdentifier] at h
  | cons c name =>
    rw [isIdentifier, Bool.and_eq_true, List.all_eq_true] at h
    intro d hd
    rcases List.mem_cons.mp hd with rfl | hd
    · have hhead := h.1
      simp only [isIdentifierHead, isIdentifierTail, Char.isAlphanum, Bool.or_eq_true] at hhead ⊢
      tauto
    · exact h.2 d hd

lemma ne_of_mem_name (h : isIdentifier name = true) {d : Char} (hd : isIdentifierTail d = false) :
    ∀ c ∈ name, c ≠ d := by
  rintro c hc rfl
  simp [isIdentifierTail_of_mem h c hc] at hd

lemma takeWhile_name (h : isIdentifier name = true) (rest : List Char) :
    (name ++ ' ' :: rest).takeWhile (· != ' ') = name := by
  have hne : ∀ c ∈ name, (c != ' ') = true := by
    intro c hc
    simpa using ne_of_mem_name h (by decide) c hc
  rw [List.takeWhile_append_of_pos hne]
  simp

lemma dropWhile_name (h : isIdentifier name = true) (rest : List Char) :
    (name ++ ' ' :: rest).dropWhile (· != ' ') = ' ' :: rest := by
  have hne : ∀ c ∈ name, (c != ' ') = true := by
    intro c hc
    simpa using ne_of_mem_name h (by decide) c hc
  rw [List.dropWhile_append_of_pos hne]
  simp

end Names

lemma toList_declaration (p : String × Scalar) :
    (declaration p).toList = '@' :: (p.1.toList ++ ' ' :: p.2.declaredType.toList) := by
  simp [declaration]

lemma toList_assignment (p : String × Scalar) (i : Nat) :
    (assignment p i).toList =
      '@' :: (p.1.toList ++ ' ' :: '=' :: ' ' :: '@' :: 'P' :: Decimal.digits (i + 3)) := by
  simp [assignment]

lemma readDeclaration?_declaration {p : String × Scalar} (h : isIdentifier p.1.toList = true) :
    readDeclaration? (declaration p).toList = some (p.1, p.2.declaredType) := by
  rw [toList_declaration, readDeclaration?, dropWhile_name h, takeWhile_name h]
  simp

lemma readAssignment?_assignment {p : String × Scalar} (h : isIdentifier p.1.toList = true)
    (i : Nat) : readAssignment? (assignment p i).toList = some (p.1, i + 3) := by
  rw [toList_assignment, readAssignment?, dropWhile_name h, takeWhile_name h]
  simp [Decimal.natural?_digits]

lemma isPiece_declaration {p : String × Scalar} (h : isIdentifier p.1.toList = true) :
    IsPiece (declaration p).toList := by
  rw [toList_declaration]
  refine ⟨?_, rfl⟩
  have hname : ',' ∉ p.1.toList := fun hc => ne_of_mem_name h (by decide) ',' hc rfl
  have htype : ',' ∉ p.2.declaredType.toList := by
    cases p.2 <;> simp only [Scalar.declaredType] <;> decide
  simp [hname, htype]

lemma isPiece_assignment {p : String × Scalar} (h : isIdentifier p.1.toList = true) (i : Nat) :
    IsPiece (assignment p i).toList := by
  rw [toList_assignment]
  refine ⟨?_, rfl⟩
  have hname : ',' ∉ p.1.toList := fun hc => ne_of_mem_name h (by decide) ',' hc rfl
  have hdigits : ',' ∉ Decimal.digits (i + 3) := by
    intro hc
    have := Decimal.isDigit_of_mem_digits hc
    simp at this
  simp [hname, hdigits]

section Call

variable {params : Bindings}

def declarations (params : Bindings) : String :=
  ", ".intercalate (params.map declaration)

def assignments (params : Bindings) : String :=
  ", ".intercalate (params.zipIdx.map fun p => assignment p.1 p.2)

lemma ofParams_nil (text : String) : ofParams text [] = ⟨text, []⟩ := rfl

lemma ofParams_of_ne_nil (text : String) (hne : params ≠ []) :
    ofParams text params =
      ⟨opening ++ assignments params,
        .text text :: .text (declarations params) :: params.map Prod.snd⟩ := by
  rw [ofParams, if_neg (by simpa using hne)]
  rfl

lemma readDeclarations?_declarations (hne : params ≠ []) (h : PlainNames params) :
    readDeclarations? (declarations params) =
      some (params.map fun p => (p.1, p.2.declaredType)) := by
  have hpieces : pieces (declarations params).toList =
      params.map fun p => (declaration p).toList := by
    rw [declarations, String.toList_intercalate, List.map_map]
    apply pieces_intercalate
    · simpa using hne
    · intro l hl
      obtain ⟨p, hp, rfl⟩ := List.mem_map.mp hl
      exact isPiece_declaration (h p hp)
  rw [readDeclarations?, hpieces]
  exact mapM_map_of_eq params fun p hp => readDeclaration?_declaration (h p hp)

lemma readAssignments?_assignments (hne : params ≠ []) (h : PlainNames params) :
    readAssignments? (assignments params) =
      some (params.zipIdx.map fun p => (p.1.1, p.2 + 3)) := by
  have hpieces : pieces (assignments params).toList =
      params.zipIdx.map fun p => (assignment p.1 p.2).toList := by
    rw [assignments, String.toList_intercalate, List.map_map]
    apply pieces_intercalate
    · simpa using hne
    · intro l hl
      obtain ⟨p, hp, rfl⟩ := List.mem_map.mp hl
      exact isPiece_assignment (h p.1 (List.fst_mem_of_mem_zipIdx hp)) p.2
  rw [readAssignments?, hpieces]
  exact mapM_map_of_eq _ fun p hp =>
    readAssignment?_assignment (h p.1 (List.fst_mem_of_mem_zipIdx hp)) p.2

lemma mem_of_mem_intercalate {sep : List Char} {ls : List (List Char)} {c : Char}
    (h : c ∈ sep.intercalate ls) : c ∈ sep ∨ ∃ l ∈ ls, c ∈ l := by
  induction ls with
  | nil => simp at h
  | cons l ls ih =>
    cases ls with
    | nil => exact Or.inr ⟨l, by simp, by simpa using h⟩
    | cons m ls =>
      rw [List.intercalate_cons_cons, List.mem_append, List.mem_append] at h
      rcases h with (h | h) | h
      · exact Or.inr ⟨l, by simp, h⟩
      · exact Or.inl h
      · rcases ih h with h | ⟨l', hl', hc⟩
        · exact Or.inl h
        · exact Or.inr ⟨l', List.mem_cons_of_mem _ hl', hc⟩

lemma isCallChar_of_mem_assignment {p : String × Scalar} (h : isIdentifier p.1.toList = true)
    (i : Nat) : ∀ c ∈ (assignment p i).toList, isCallChar c = true := by
  intro c hc
  rw [toList_assignment, List.mem_cons, List.mem_append] at hc
  rcases hc with rfl | hc | hc
  · decide
  · have hname := isIdentifierTail_of_mem h c hc
    simp only [isIdentifierTail, Bool.or_eq_true] at hname
    rcases hname with hname | hname <;> simp [isCallChar, hname]
  · simp only [List.mem_cons] at hc
    rcases hc with rfl | rfl | rfl | rfl | rfl | hc
    · decide
    · decide
    · decide
    · decide
    · decide
    · simp [isCallChar, Char.isAlphanum, Decimal.isDigit_of_mem_digits hc]

lemma isCallChar_of_mem_sql (h : PlainNames params) :
    ∀ c ∈ (opening ++ assignments params).toList, isCallChar c = true := by
  intro c hc
  rw [String.toList_append, List.mem_append] at hc
  rcases hc with hc | hc
  · exact List.all_eq_true.mp (by decide : opening.toList.all isCallChar = true) c hc
  · rw [assignments, String.toList_intercalate, List.map_map] at hc
    rcases mem_of_mem_intercalate hc with hc | ⟨l, hl, hc⟩
    · exact List.all_eq_true.mp (by decide : ", ".toList.all isCallChar = true) c hc
    · obtain ⟨p, hp, rfl⟩ := List.mem_map.mp hl
      exact isCallChar_of_mem_assignment (h p.1 (List.fst_mem_of_mem_zipIdx hp)) p.2 c hc

lemma carries_ofParams (text : String) (hne : params ≠ []) (h : PlainNames params) :
    Carries (ofParams text params) text params := by
  rw [ofParams_of_ne_nil text hne]
  refine ⟨⟨_, rfl, readAssignments?_assignments hne h⟩, isCallChar_of_mem_sql h, rfl,
    ⟨_, rfl, readDeclarations?_declarations hne h⟩, ?_⟩
  intro k
  simp

end Call

lemma Carries.params_eq {call : Invocation} {text text' : String} {params params' : Bindings}
    (h : Carries call text params) (h' : Carries call text' params') : params = params' := by
  obtain ⟨declarations, hd, hread⟩ := h.declarations
  obtain ⟨declarations', hd', hread'⟩ := h'.declarations
  have hsame : declarations = declarations' := by
    rw [hd] at hd'
    simpa using hd'
  subst hsame
  have hnames : params.map Prod.fst = params'.map Prod.fst := by
    have hmap := congrArg (List.map Prod.fst) (Option.some.inj (hread.symm.trans hread'))
    rw [List.map_map, List.map_map] at hmap
    exact hmap
  have hvalues : params.map Prod.snd = params'.map Prod.snd := by
    apply List.ext_getElem?
    intro k
    rw [List.getElem?_map, List.getElem?_map, ← h.values, ← h'.values]
  rw [← List.zip_unzip params, ← List.zip_unzip params', List.unzip_eq_map, List.unzip_eq_map,
    hnames, hvalues]

lemma Carries.text_eq_text {call : Invocation} {text text' : String} {params params' : Bindings}
    (h : Carries call text params) (h' : Carries call text' params') : text = text' := by
  have := h.text_eq.symm.trans h'.text_eq
  simpa using this

lemma ofParams_injective {text text' : String} {params params' : Bindings} (h : PlainNames params)
    (h' : PlainNames params') (heq : ofParams text params = ofParams text' params') :
    text = text' ∧ params = params' := by
  by_cases hne : params = [] <;> by_cases hne' : params' = []
  · subst hne hne'
    simpa [ofParams_nil] using heq
  · have hc := (carries_ofParams text' hne' h').text_eq
    rw [← heq, hne, ofParams_nil] at hc
    simp at hc
  · have hc := (carries_ofParams text hne h).text_eq
    rw [heq, hne', ofParams_nil] at hc
    simp at hc
  · have hc := carries_ofParams text hne h
    have hc' := carries_ofParams text' hne' h'
    rw [heq] at hc
    exact ⟨hc.text_eq_text hc', hc.params_eq hc'⟩

lemma plainNames_of_mem_calls (db : Database) (limits : Service.QueryLimits) (query : Gate.Query)
    (statement : Statement) (h : statement ∈ (Service.AdHoc.run db limits query).calls) :
    PlainNames statement.params := by
  obtain ⟨admission, hquery, rfl⟩ :=
    (Service.AdHoc.mem_calls_run_iff db limits query statement).mp h
  rw [Service.AdHoc.statementOf_eq limits query admission hquery]
  intro p hp
  exact Gate.isIdentifier_of_mem_bindings hquery hp

end Invocation

end ErpGateway.Sql
