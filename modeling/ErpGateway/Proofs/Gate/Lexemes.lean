import ErpGateway.Proofs.Gate.Delimiters
import ErpGateway.Proofs.Gate.Padding

/-! A query as the tokens the database reads in it, and the mutating words among them. The gate looks
for whole words, and a word ends elsewhere than a token does: a digit ends no word, so a keyword right
behind a number is a token of its own to the database and the rest of a longer word to the gate. -/

namespace ErpGateway.Gate

open Text

/-- Letters and digits of the database. They are given for ASCII; beyond it any choice will do. -/
structure Alphabet where
  letter : Char → Bool
  digit : Char → Bool
  letter_ascii : ∀ c, isAscii c = true → letter c = c.isAlpha
  digit_ascii : ∀ c, isAscii c = true → digit c = c.isDigit

inductive Lexeme where
  | name (letters : List Char)
  | number (digits : List Char)
  | symbol (c : Char)
deriving DecidableEq

def Lexeme.text : Lexeme → List Char
  | name letters => letters
  | number digits => digits
  | symbol c => [c]

def spelled (lexemes : List Lexeme) : List Char :=
  lexemes.flatMap Lexeme.text

namespace Alphabet

variable (alphabet : Alphabet)

def opens (c : Char) : Bool :=
  alphabet.letter c || c == '_' || c == '@' || c == '#'

def continues (c : Char) : Bool :=
  alphabet.letter c || alphabet.digit c || c == '_' || c == '@' || c == '#' || c == '$'

def inNumeral (c : Char) : Bool :=
  alphabet.digit c || c == '.'

def sign : List Char → List Char
  | '+' :: _ => ['+']
  | '-' :: _ => ['-']
  | _ => []

def exponent : List Char → List Char
  | [] => []
  | e :: rest =>
    let digits := (rest.drop (sign rest).length).takeWhile alphabet.digit
    if (e == 'e' || e == 'E') && !digits.isEmpty then e :: sign rest ++ digits else []

def numeral (text : List Char) : List Char :=
  text.takeWhile alphabet.inNumeral ++ alphabet.exponent (text.dropWhile alphabet.inNumeral)

def lexemeAt (c : Char) (rest : List Char) : Lexeme :=
  if alphabet.opens c then .name (c :: rest.takeWhile alphabet.continues)
  else if alphabet.digit c then .number (alphabet.numeral (c :: rest))
  else .symbol c

def lexemesFrom : (skip : Nat) → List Char → List Lexeme
  | _, [] => []
  | skip + 1, _ :: rest => lexemesFrom skip rest
  | 0, c :: rest =>
    alphabet.lexemeAt c rest :: lexemesFrom ((alphabet.lexemeAt c rest).text.length - 1) rest

def lexemes (text : List Char) : List Lexeme :=
  alphabet.lexemesFrom 0 text

def unicode : Alphabet where
  letter c := if isAscii c then c.isAlpha else alphabetic.covers c
  digit c := if isAscii c then c.isDigit else decimal.covers c
  letter_ascii _ h := if_pos h
  digit_ascii _ h := if_pos h

end Alphabet

section Reading

variable {alphabet : Alphabet} {text : List Char}

lemma exists_sign_append (text : List Char) :
    text = Alphabet.sign text ++ text.drop (Alphabet.sign text).length := by
  unfold Alphabet.sign
  split <;> simp

lemma exists_exponent_append (alphabet : Alphabet) (text : List Char) :
    ∃ rest, text = alphabet.exponent text ++ rest := by
  cases text with
  | nil => exact ⟨[], rfl⟩
  | cons e rest =>
    rw [Alphabet.exponent]
    split
    · refine ⟨(rest.drop (Alphabet.sign rest).length).dropWhile alphabet.digit, ?_⟩
      rw [List.append_assoc, List.takeWhile_append_dropWhile, List.cons_append,
        ← exists_sign_append rest]
    · exact ⟨e :: rest, rfl⟩

lemma digit_of_getLast?_exponent {d : Char} (h : (alphabet.exponent text).getLast? = some d) :
    alphabet.digit d = true := by
  cases text with
  | nil => simp [Alphabet.exponent] at h
  | cons e rest =>
    rw [Alphabet.exponent] at h
    split at h
    · rename_i hdigits
      rw [Bool.and_eq_true, Bool.not_eq_true', List.isEmpty_eq_false_iff] at hdigits
      rw [List.getLast?_append_of_ne_nil _ hdigits.2] at h
      exact List.mem_takeWhile_imp (List.mem_of_getLast? h)
    · simp at h

lemma exists_numeral_append (alphabet : Alphabet) (text : List Char) :
    ∃ rest, text = alphabet.numeral text ++ rest := by
  obtain ⟨rest, hrest⟩ := exists_exponent_append alphabet (text.dropWhile alphabet.inNumeral)
  refine ⟨rest, ?_⟩
  rw [Alphabet.numeral, List.append_assoc, ← hrest, List.takeWhile_append_dropWhile]

lemma numeral_ne_nil {c : Char} {rest : List Char} (hc : alphabet.digit c = true) :
    alphabet.numeral (c :: rest) ≠ [] := by
  simp [Alphabet.numeral, Alphabet.inNumeral, hc]

lemma exists_lexemeAt_append (alphabet : Alphabet) (c : Char) (rest : List Char) :
    ∃ behind, c :: rest = (alphabet.lexemeAt c rest).text ++ behind := by
  unfold Alphabet.lexemeAt
  split_ifs with hopens hdigit
  · exact ⟨rest.dropWhile alphabet.continues, by simp [Lexeme.text]⟩
  · exact exists_numeral_append alphabet (c :: rest)
  · exact ⟨rest, rfl⟩

lemma text_lexemeAt_ne_nil (alphabet : Alphabet) (c : Char) (rest : List Char) :
    (alphabet.lexemeAt c rest).text ≠ [] := by
  unfold Alphabet.lexemeAt
  split_ifs with hopens hdigit
  · simp [Lexeme.text]
  · exact numeral_ne_nil hdigit
  · simp [Lexeme.text]

lemma lexemesFrom_eq (skip : Nat) (text : List Char) :
    alphabet.lexemesFrom skip text = alphabet.lexemes (text.drop skip) := by
  induction text generalizing skip with
  | nil => simp [Alphabet.lexemes, Alphabet.lexemesFrom]
  | cons c rest ih =>
    cases skip with
    | zero => rfl
    | succ skip => exact ih skip

lemma lexemes_of_append {c : Char} {rest behind : List Char}
    (h : c :: rest = (alphabet.lexemeAt c rest).text ++ behind) :
    alphabet.lexemes (c :: rest) = alphabet.lexemeAt c rest :: alphabet.lexemes behind := by
  have hdrop : rest.drop ((alphabet.lexemeAt c rest).text.length - 1) = behind := by
    obtain ⟨d, letters, hd⟩ := List.exists_cons_of_ne_nil (text_lexemeAt_ne_nil alphabet c rest)
    rw [hd, List.cons_append] at h
    rw [hd, (List.cons.inj h).2]
    simp
  rw [Alphabet.lexemes, Alphabet.lexemesFrom, lexemesFrom_eq, hdrop]

lemma exists_behind_of_lexemes {before after : List Lexeme}
    (h : alphabet.lexemes text = before ++ after) :
    ∃ behind, text = spelled before ++ behind ∧ after = alphabet.lexemes behind := by
  induction before generalizing text with
  | nil => exact ⟨text, rfl, h.symm⟩
  | cons lexeme before ih =>
    cases text with
    | nil => simp [Alphabet.lexemes, Alphabet.lexemesFrom] at h
    | cons c rest =>
      obtain ⟨behind, hbehind⟩ := exists_lexemeAt_append alphabet c rest
      rw [lexemes_of_append hbehind, List.cons_append] at h
      obtain ⟨hlexeme, h⟩ := List.cons.inj h
      obtain ⟨behind', rfl, hafter⟩ := ih h
      refine ⟨behind', ?_, hafter⟩
      rw [hbehind, hlexeme, spelled, spelled, List.flatMap_cons, List.append_assoc]

theorem spelled_lexemes (alphabet : Alphabet) (text : List Char) : spelled (alphabet.lexemes text) = text := by
  obtain ⟨behind, htext, hnil⟩ := exists_behind_of_lexemes (List.append_nil
    (alphabet.lexemes text)).symm
  cases behind with
  | nil => rw [← List.append_nil (spelled _), ← htext]
  | cons c rest => simp [Alphabet.lexemes, Alphabet.lexemesFrom] at hnil

lemma exists_lexemeAt_of_lexemes {before after : List Lexeme} {lexeme : Lexeme}
    (h : alphabet.lexemes text = before ++ lexeme :: after) :
    ∃ c rest behind, lexeme = alphabet.lexemeAt c rest ∧ c :: rest = lexeme.text ++ behind ∧
      text = spelled before ++ lexeme.text ++ behind ∧ after = alphabet.lexemes behind := by
  obtain ⟨here, rfl, hhere⟩ := exists_behind_of_lexemes h
  cases here with
  | nil => simp [Alphabet.lexemes, Alphabet.lexemesFrom] at hhere
  | cons c rest =>
    obtain ⟨behind, hbehind⟩ := exists_lexemeAt_append alphabet c rest
    rw [lexemes_of_append hbehind] at hhere
    obtain ⟨rfl, hafter⟩ := List.cons.inj hhere
    exact ⟨c, rest, behind, rfl, hbehind, by rw [List.append_assoc, ← hbehind], hafter⟩

lemma continues_of_opens {c : Char} (h : alphabet.opens c = true) : alphabet.continues c = true := by
  simp only [Alphabet.opens, Bool.or_eq_true] at h
  simp only [Alphabet.continues, Bool.or_eq_true]
  tauto

lemma not_opens_and_not_digit {c : Char} (h : alphabet.continues c = false) :
    alphabet.opens c = false ∧ alphabet.digit c = false := by
  simp only [Alphabet.continues, Bool.or_eq_false_iff] at h
  simp only [Alphabet.opens, Bool.or_eq_false_iff]
  tauto

lemma isAscii_of_isWordChar {c : Char} (hopens : alphabet.opens c = false)
    (hdigit : alphabet.digit c = false) (hw : isWordChar c = true) : isAscii c = false := by
  rw [← Bool.not_eq_true]
  intro ha
  rw [isWordChar, if_pos ha, Char.isAlphanum, Bool.or_eq_true, Bool.or_eq_true] at hw
  rw [alphabet.digit_ascii c ha] at hdigit
  rw [Alphabet.opens, alphabet.letter_ascii c ha] at hopens
  simp only [Bool.or_eq_false_iff] at hopens
  simp [hopens, hdigit] at hw

lemma eq_name_of_lexemeAt {c : Char} {rest letters : List Char}
    (h : Lexeme.name letters = alphabet.lexemeAt c rest) :
    alphabet.opens c = true ∧ letters = c :: rest.takeWhile alphabet.continues := by
  unfold Alphabet.lexemeAt at h
  split_ifs at h with hopens
  exact ⟨hopens, Lexeme.name.inj h⟩

lemma eq_numeral_of_lexemeAt {c : Char} {rest digits : List Char}
    (h : Lexeme.number digits = alphabet.lexemeAt c rest) :
    digits = alphabet.numeral (c :: rest) := by
  unfold Alphabet.lexemeAt at h
  split_ifs at h
  exact Lexeme.number.inj h

lemma eq_symbol_of_lexemeAt {c d : Char} {rest : List Char}
    (h : Lexeme.symbol d = alphabet.lexemeAt c rest) :
    alphabet.opens d = false ∧ alphabet.digit d = false ∧ d = c := by
  unfold Alphabet.lexemeAt at h
  split_ifs at h with hopens hdigit
  obtain rfl := Lexeme.symbol.inj h
  exact ⟨by simpa using hopens, by simpa using hdigit, rfl⟩

lemma not_continues_behind_name {c d : Char} {rest letters behind : List Char}
    (h : Lexeme.name letters = alphabet.lexemeAt c rest)
    (happend : c :: rest = letters ++ d :: behind) : alphabet.continues d = false := by
  obtain ⟨-, hletters⟩ := eq_name_of_lexemeAt h
  have hrest : rest = rest.takeWhile alphabet.continues ++ d :: behind := by
    rw [hletters, List.cons_append] at happend
    exact (List.cons.inj happend).2
  have hdrop : rest.dropWhile alphabet.continues = d :: behind := by
    have hsplit : rest.takeWhile alphabet.continues ++ rest.dropWhile alphabet.continues =
        rest.takeWhile alphabet.continues ++ d :: behind := by
      rw [List.takeWhile_append_dropWhile, ← hrest]
    exact List.append_cancel_left hsplit
  have hhead := List.head?_dropWhile_not alphabet.continues rest
  rw [hdrop] at hhead
  simpa using hhead

lemma lexemeAt_of_not_continues {c : Char} (rest : List Char)
    (hc : alphabet.continues c = false) : alphabet.lexemeAt c rest = .symbol c := by
  obtain ⟨hopens, hdigit⟩ := not_opens_and_not_digit hc
  simp [Alphabet.lexemeAt, hopens, hdigit]

lemma digit_of_getLast?_numeral {d : Char} (h : (alphabet.numeral text).getLast? = some d)
    (hw : isWordChar d = true) : alphabet.digit d = true := by
  rw [Alphabet.numeral, List.getLast?_append, Option.or_eq_some_iff] at h
  rcases h with h | ⟨-, h⟩
  · exact digit_of_getLast?_exponent h
  · -- a dot may end the digits, and is no part of a word
    have hin := List.mem_takeWhile_imp (List.mem_of_getLast? h)
    rw [Alphabet.inNumeral, Bool.or_eq_true, beq_iff_eq] at hin
    refine hin.resolve_right ?_
    rintro rfl
    exact absurd hw (by decide)

end Reading

/-- A neighbour that the gate takes for a part of one word with the token: a number before it that ends
in a digit, or a character beyond ASCII that is neither a letter nor a digit of the database. -/
inductive Alphabet.Hides (alphabet : Alphabet) : (before after : List Lexeme) → Prop
  | number {before after : List Lexeme} {digits : List Char} {d : Char} :
      alphabet.digit d = true → isWordChar d = true →
      Hides alphabet (before ++ [.number (digits ++ [d])]) after
  | before {before after : List Lexeme} {c : Char} : isAscii c = false → isWordChar c = true →
      Hides alphabet (before ++ [.symbol c]) after
  | behind {before after : List Lexeme} {c : Char} : isAscii c = false → isWordChar c = true →
      Hides alphabet before (.symbol c :: after)

section Neighbours

variable {alphabet : Alphabet} {text letters : List Char} {before after : List Lexeme}

lemma spelled_append (before after : List Lexeme) :
    spelled (before ++ after) = spelled before ++ spelled after :=
  List.flatMap_append

lemma not_mayStartAfter_append {start : Bool} {before : List Char} {c : Char}
    (h : isWordChar c = true) : mayStartAfter start (before ++ [c]) = false := by
  simp [mayStartAfter, h]

lemma exists_last_of_not_mayStartAfter {start : Bool} {before last : List Char} (hlast : last ≠ [])
    (h : mayStartAfter start (before ++ last) = false) :
    ∃ init c, last = init ++ [c] ∧ isWordChar c = true := by
  obtain ⟨init, c, rfl⟩ := (List.eq_nil_or_concat' last).resolve_left hlast
  rw [← List.append_assoc] at h
  exact ⟨init, c, rfl, by simpa [mayStartAfter] using h⟩

lemma not_mayStartAfter_or_not_endsWord (h : alphabet.Hides before after) :
    mayStartAfter true (spelled before) = false ∨ endsWord (spelled after) = false := by
  cases h with
  | number _ hd =>
    left
    rw [spelled_append]
    simpa [spelled, Lexeme.text, ← List.append_assoc] using not_mayStartAfter_append hd
  | before _ hc =>
    left
    rw [spelled_append]
    simpa [spelled, Lexeme.text] using not_mayStartAfter_append hc
  | behind _ hc =>
    right
    simp [spelled, Lexeme.text, endsWord, hc]

lemma hides_of_not_mayStartAfter (h : alphabet.lexemes text = before ++ .name letters :: after)
    (hstart : mayStartAfter true (spelled before) = false) : alphabet.Hides before after := by
  rcases List.eq_nil_or_concat' before with rfl | ⟨init, last, rfl⟩
  · cases hstart
  · rw [List.append_assoc] at h
    obtain ⟨c, rest, behind, hlast, htext, -, hbehind⟩ := exists_lexemeAt_of_lexemes h
    have hnil : last.text ≠ [] := hlast ▸ text_lexemeAt_ne_nil alphabet c rest
    have hspelled : spelled (init ++ [last]) = spelled init ++ last.text := by simp [spelled]
    rw [hspelled] at hstart
    obtain ⟨digits, d, hd, hw⟩ := exists_last_of_not_mayStartAfter hnil hstart
    cases last with
    | name letters' =>
      -- two names do not stand side by side
      cases behind with
      | nil => simp [Alphabet.lexemes, Alphabet.lexemesFrom] at hbehind
      | cons e behind =>
        have he := not_continues_behind_name hlast htext
        obtain ⟨hopens, -⟩ := eq_name_of_lexemeAt (List.cons.inj hbehind).1
        rw [continues_of_opens hopens] at he
        cases he
    | number digits' =>
      obtain rfl : digits' = digits ++ [d] := hd
      have hnumeral := eq_numeral_of_lexemeAt hlast
      have hdigit := digit_of_getLast?_numeral (hnumeral ▸ List.getLast?_concat) hw
      exact .number hdigit hw
    | symbol e =>
      have hconcat : [] ++ [e] = digits ++ [d] := hd
      obtain ⟨-, he⟩ := List.append_inj' hconcat rfl
      obtain rfl : e = d := List.head_eq_of_cons_eq he
      obtain ⟨hopens, hdigit, -⟩ := eq_symbol_of_lexemeAt hlast
      exact .before (isAscii_of_isWordChar hopens hdigit hw) hw

lemma hides_of_not_endsWord (h : alphabet.lexemes text = before ++ .name letters :: after)
    (hends : endsWord (spelled after) = false) : alphabet.Hides before after := by
  obtain ⟨c, rest, behind, hname, htext, -, rfl⟩ := exists_lexemeAt_of_lexemes h
  rw [spelled_lexemes] at hends
  cases behind with
  | nil => cases hends
  | cons d behind =>
    have hw : isWordChar d = true := by simpa [endsWord] using hends
    have hd := not_continues_behind_name hname htext
    obtain ⟨tail, htail⟩ := exists_lexemeAt_append alphabet d behind
    rw [lexemes_of_append htail, lexemeAt_of_not_continues behind hd]
    obtain ⟨hopens, hdigit⟩ := not_opens_and_not_digit hd
    exact .behind (isAscii_of_isWordChar hopens hdigit hw) hw

lemma hides_iff (h : alphabet.lexemes text = before ++ .name letters :: after) :
    alphabet.Hides before after ↔
      ¬ (mayStartAfter true (spelled before) = true ∧ endsWord (spelled after) = true) := by
  rw [not_and_or, Bool.not_eq_true, Bool.not_eq_true]
  constructor
  · exact not_mayStartAfter_or_not_endsWord
  · rintro (hstart | hends)
    · exact hides_of_not_mayStartAfter h hstart
    · exact hides_of_not_endsWord h hends

end Neighbours

section Runs

def MutatingRun (before run after : List Char) : Prop :=
  (∃ word ∈ mutatingWords, SameWord word run) ∧ mayStartAfter true before = true ∧
    endsWord after = true

def HasMutatingRun (text : List Char) : Prop :=
  ∃ before run after, text = before ++ run ++ after ∧ MutatingRun before run after

variable {text : List Char}

lemma mutatesHere_iff : mutatesHere text = true ↔
    ∃ run after, text = run ++ after ∧ (∃ word ∈ mutatingWords, SameWord word run) ∧
      endsWord after = true := by
  simp only [mutatesHere, List.any_eq_true, Option.any_eq_true, afterWord?_eq_some_iff]
  constructor
  · rintro ⟨word, hword, after, ⟨run, rfl, hrun⟩, hends⟩
    exact ⟨run, after, rfl, ⟨word, hword, hrun⟩, hends⟩
  · rintro ⟨run, after, rfl, ⟨word, hword, hrun⟩, hends⟩
    exact ⟨word, hword, after, ⟨run, rfl, hrun⟩, hends⟩

lemma mutatesFrom_iff_before (start : Bool) (text : List Char) :
    mutatesFrom start text = true ↔ ∃ before here, text = before ++ here ∧ 0 ≤ before.length ∧
      mayStartAfter start before = true ∧ mutatesHere here = true := by
  induction text generalizing start with
  | nil =>
    simp only [mutatesFrom, Bool.false_eq_true, false_iff]
    rintro ⟨before, here, h, -, -, hmutates⟩
    obtain ⟨rfl, rfl⟩ := List.append_eq_nil_iff.mp h.symm
    exact absurd hmutates (by decide)
  | cons c rest ih =>
    rw [exists_before_cons_iff, mutatesFrom, Bool.or_eq_true, Bool.and_eq_true, ih]
    simp

lemma mutates_iff : mutates text = true ↔ HasMutatingRun text := by
  rw [mutates, mutatesFrom_iff_before]
  constructor
  · rintro ⟨before, here, rfl, -, hstart, hhere⟩
    obtain ⟨run, after, rfl, hrun, hends⟩ := mutatesHere_iff.mp hhere
    exact ⟨before, run, after, (List.append_assoc ..).symm, hrun, hstart, hends⟩
  · rintro ⟨before, run, after, rfl, hrun, hstart, hends⟩
    exact ⟨before, run ++ after, List.append_assoc .., Nat.zero_le _, hstart,
      mutatesHere_iff.mpr ⟨run, after, rfl, hrun, hends⟩⟩

lemma code_eq_self (h : '\'' ∉ text) : code text = text := by
  induction text with
  | nil => rfl
  | cons c rest ih =>
    rw [List.mem_cons, not_or] at h
    have hc : (c == '\'') = false := beq_false_of_ne (Ne.symm h.1)
    rw [code, blankLiterals, hc]
    exact congrArg _ (ih h.2)

lemma exists_ends_of_sameWord {word run : List Char} (hword : word ∈ mutatingWords)
    (hrun : SameWord word run) :
    ∃ c mid d, run = c :: mid ++ [d] ∧ isBlank c = false ∧ isBlank d = false := by
  have hwords : ∀ word ∈ mutatingWords, word.tail ≠ [] ∧ word.all Char.isLower = true := by decide
  obtain ⟨hlong, hlower⟩ := hwords word hword
  have hblank (l : Char) (hl : l ∈ word) (c : Char) (hc : foldsTo l c = true) : isBlank c = false :=
    isBlank_of_foldsTo (isLower_of_all hlower l hl) hc
  cases hrun with
  | nil => exact absurd rfl hlong
  | @cons letter c letters rest hc hrest =>
    have htail (l : Char) (hl : l ∈ letters) := hblank l (List.mem_cons_of_mem _ hl)
    obtain ⟨mid, d, rfl, hd⟩ := SameWord.exists_last hrest htail hlong
    exact ⟨c, mid, d, rfl, hblank letter List.mem_cons_self c hc, hd⟩

lemma mayStartAfter_trimLeft {before : List Char} (h : mayStartAfter true before = true) :
    mayStartAfter true (trimLeft before) = true := by
  obtain ⟨left, hleft, -⟩ := exists_append_trimLeft before
  rw [hleft, mayStartAfter_append] at h
  exact mayStartAfter_true h

lemma endsWord_trimRight (after : List Char) : endsWord (trimRight after) = endsWord after := by
  obtain ⟨right, hright, hblank⟩ := exists_trimRight_append after
  conv_rhs => rw [hright]
  exact (endsWord_append_blanks hblank _).symm

lemma hasMutatingRun_trim_iff : HasMutatingRun (trim text) ↔ HasMutatingRun text := by
  constructor
  · rintro ⟨before, run, after, h, hrun, hstart, hends⟩
    obtain ⟨left, right, htext, hleft, hright⟩ := exists_append_trim_append text
    refine ⟨left ++ before, run, after ++ right, ?_, hrun, ?_, ?_⟩
    · rw [htext, h]
      simp only [List.append_assoc]
    · rwa [mayStartAfter_append, mayStartAfter_blanks hleft]
    · rwa [endsWord_append_blanks hright]
  · rintro ⟨before, run, after, rfl, ⟨word, hword, hrun⟩, hstart, hends⟩
    refine ⟨trimLeft before, run, trimRight after, ?_, ⟨word, hword, hrun⟩,
      mayStartAfter_trimLeft hstart, (endsWord_trimRight after).trans hends⟩
    obtain ⟨c, mid, d, rfl, hc, hd⟩ := exists_ends_of_sameWord hword hrun
    have htrim := trim_append_cons_append_cons hc hd before mid after
    simpa only [List.append_assoc, List.cons_append, List.nil_append] using htrim

lemma hasMutatingWord_trim_iff (h : '\'' ∉ text) :
    HasMutatingWord (trim text) ↔ HasMutatingRun text := by
  have htrim : '\'' ∉ trim text := by
    obtain ⟨left, right, htext, -, -⟩ := exists_append_trim_append text
    intro hmem
    refine h ?_
    rw [htext]
    simp [hmem]
  rw [← hasMutatingRun_trim_iff, ← mutates_iff, ← mutates_code_iff, code_eq_self htrim]

end Runs

def Undelimited (text : List Char) : Prop :=
  ∀ c ∈ text, Region.openedBy c = .top

instance (text : List Char) : Decidable (Undelimited text) :=
  List.decidableBAll _ text

lemma Undelimited.not_mem_quote {text : List Char} (h : Undelimited text) : '\'' ∉ text :=
  fun hmem => absurd (h _ hmem) (by decide)

lemma sameWord_of_lower_mem {letters : List Char} (h : lower letters ∈ mutatingWords) :
    ∃ word ∈ mutatingWords, SameWord word letters := by
  refine ⟨lower letters, h, ?_⟩
  rw [SameWord, lower, List.forall₂_map_left_iff, List.forall₂_same]
  intro c _
  simp [foldsTo]

/-- A mutating word among the tokens of a query is refused, unless a neighbour hides it. Beyond that the
gate looks at runs of characters and not at tokens. -/
theorem check_of_mutating_lexeme (alphabet : Alphabet) (query : String)
    (before after : List Lexeme) (letters : List Char) (hplain : Undelimited query.toList)
    (hlexemes : alphabet.lexemes query.toList = before ++ .name letters :: after)
    (hword : lower letters ∈ mutatingWords) :
    (¬ alphabet.Hides before after → ∃ rejection, check query = .error rejection ∧
      ∀ parameters, admission ⟨query, parameters⟩ = .error rejection) ∧
    (alphabet.Hides before after ↔ ¬ MutatingRun (spelled before) letters (spelled after)) ∧
    (check query ≠ .ok () ↔ HasSeparator (trim query.toList) ∨ HasCommentMark (trim query.toList) ∨
      ¬ BeginsReadOnly (trim query.toList) ∨ HasMutatingRun query.toList) := by
  have htext : query.toList = spelled before ++ letters ++ spelled after := by
    rw [← spelled_lexemes alphabet query.toList, hlexemes]
    simp [spelled, Lexeme.text]
  have hsame := sameWord_of_lower_mem hword
  have hhides : alphabet.Hides before after ↔
      ¬ MutatingRun (spelled before) letters (spelled after) := by
    rw [hides_iff hlexemes, MutatingRun, and_iff_right hsame]
  have hne : trim query.toList ≠ [] := by
    obtain ⟨word, hmem, hrun⟩ := hsame
    obtain ⟨c, mid, d, hletters, hc, -⟩ := exists_ends_of_sameWord hmem hrun
    refine trim_ne_nil_of_mem (c := c) ?_ hc
    rw [htext, hletters]
    simp
  have hcheck : check query ≠ .ok () ↔ HasSeparator (trim query.toList) ∨
      HasCommentMark (trim query.toList) ∨ ¬ BeginsReadOnly (trim query.toList) ∨
      HasMutatingRun query.toList := by
    rw [check_of_trim_ne_nil hne, Ne, verdict_eq_ok_iff hne,
      hasMutatingWord_trim_iff hplain.not_mem_quote]
    tauto
  refine ⟨?_, hhides, hcheck⟩
  intro hseen
  have hrun : HasMutatingRun query.toList :=
    ⟨spelled before, letters, spelled after, htext, not_not.mp (mt hhides.mpr hseen)⟩
  cases hc : check query with
  | ok => exact absurd hc (hcheck.mpr (Or.inr (Or.inr (Or.inr hrun))))
  | error rejection => exact ⟨rejection, rfl, fun _ => admission_of_check hc⟩

theorem check_of_mutating_lexeme_behind_dot :
    Alphabet.unicode.lexemes "SELECT 1.drop".toList =
        [.name "SELECT".toList, .symbol ' ', .number "1.".toList, .name "drop".toList] ∧
      ∃ rejection, check "SELECT 1.drop" = .error rejection := by
  have hlexemes : Alphabet.unicode.lexemes "SELECT 1.drop".toList =
      [.name "SELECT".toList, .symbol ' ', .number "1.".toList] ++ .name "drop".toList :: [] := by
    decide
  obtain ⟨hrefused, hhides, -⟩ := check_of_mutating_lexeme Alphabet.unicode "SELECT 1.drop" _ _ _
    (by decide) hlexemes (by decide)
  have hseen : MutatingRun "SELECT 1.".toList "drop".toList [] :=
    ⟨sameWord_of_lower_mem (by decide), by decide, by decide⟩
  obtain ⟨rejection, hc, -⟩ := hrefused (mt hhides.mp (not_not.mpr hseen))
  exact ⟨hlexemes, rejection, hc⟩

theorem drop_hidden_by_digit :
    Undelimited "SELECT 1DROP TABLE Items".toList ∧
      Alphabet.unicode.lexemes "SELECT 1DROP TABLE Items".toList =
        [.name "SELECT".toList, .symbol ' ', .number "1".toList, .name "DROP".toList, .symbol ' ',
          .name "TABLE".toList, .symbol ' ', .name "Items".toList] ∧
      lower "DROP".toList ∈ mutatingWords ∧ check "SELECT 1DROP TABLE Items" = .ok () ∧
      admission ⟨"SELECT 1DROP TABLE Items", []⟩ = .ok ⟨"SELECT 1DROP TABLE Items", []⟩ := by
  have hc : check "SELECT 1DROP TABLE Items" = .ok () := by decide
  exact ⟨by decide, by decide, by decide, hc, admission_without_parameters hc⟩

end ErpGateway.Gate
