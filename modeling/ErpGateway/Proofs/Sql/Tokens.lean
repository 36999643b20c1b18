import ErpGateway.Text.Ascii
import Mathlib.Tactic.Common

namespace ErpGateway.Sql

open Text

inductive Token where
  | word (cs : List Char)
  | named (cs : List Char)
  | mark (c : Char)
deriving DecidableEq

namespace Token

def cons (c : Char) (ts : List Token) : List Token :=
  if isIdentifierTail c then
    match ts with
    | .word cs :: ts => .word (c :: cs) :: ts
    | ts => .word [c] :: ts
  else if c = '@' then
    match ts with
    | .word cs :: ts => .named cs :: ts
    | ts => .mark c :: ts
  else .mark c :: ts

def named? : Token → Option (List Char)
  | .named cs => some cs
  | _ => none

def isDeclare : Token → Bool
  | .word cs => lower cs == "declare".toList
  | _ => false

end Token

def tokens (cs : List Char) : List Token :=
  cs.foldr Token.cons []

def namesOf (ts : List Token) : List (List Char) :=
  ts.filterMap Token.named?

def namesIn (cs : List Char) : List (List Char) :=
  namesOf (tokens cs)

inductive Place where
  | outside
  | before
  | body (depth : Nat)
deriving DecidableEq

namespace Place

def next : Place → Token → Place
  | .outside, t => if t.isDeclare then .before else .outside
  | .before, .named _ => .body 0
  | .before, _ => .before
  | .body depth, .mark '(' => .body (depth + 1)
  | .body depth, .mark ')' => .body (depth - 1)
  | .body 0, .mark ',' => .before
  | .body 0, .mark ';' => .outside
  | .body depth, _ => .body depth

def declares? : Place → Token → Option (List Char)
  | .before, .named cs => some cs
  | _, _ => none

def after (p : Place) (ts : List Token) : Place :=
  ts.foldl next p

def declaredBy (p : Place) : List Token → List (List Char)
  | [] => []
  | t :: ts => (p.declares? t).toList ++ (p.next t).declaredBy ts

end Place

def declared (cs : List Char) : List (List Char) :=
  Place.outside.declaredBy (tokens cs)

def IsBreak (c : Char) : Prop :=
  isIdentifierTail c = false ∧ c ≠ '@'

instance (c : Char) : Decidable (IsBreak c) :=
  inferInstanceAs (Decidable (_ ∧ _))

lemma tokens_cons (c : Char) (cs : List Char) : tokens (c :: cs) = Token.cons c (tokens cs) := rfl

lemma tokens_cons_break {c : Char} (hc : IsBreak c) (cs : List Char) :
    tokens (c :: cs) = .mark c :: tokens cs := by
  simp [tokens_cons, Token.cons, hc.1, hc.2]

lemma cons_append_mark (c d : Char) (ts us : List Token) :
    Token.cons c (ts ++ .mark d :: us) = Token.cons c ts ++ .mark d :: us := by
  cases ts with
  | nil =>
    simp only [Token.cons, List.nil_append]
    split
    · rfl
    · split <;> rfl
  | cons t ts =>
    simp only [Token.cons, List.cons_append]
    split
    · cases t <;> rfl
    · split
      · cases t <;> rfl
      · rfl

lemma tokens_append_break (cs : List Char) {c : Char} (hc : IsBreak c) (ds : List Char) :
    tokens (cs ++ c :: ds) = tokens cs ++ .mark c :: tokens ds := by
  induction cs with
  | nil => exact tokens_cons_break hc ds
  | cons d cs ih => rw [List.cons_append, tokens_cons, ih, cons_append_mark, ← tokens_cons]

lemma tokens_word {cs : List Char} (hne : cs ≠ []) (h : ∀ c ∈ cs, isIdentifierTail c = true) :
    tokens cs = [.word cs] := by
  induction cs with
  | nil => exact absurd rfl hne
  | cons c cs ih =>
    have hc := h c (by simp)
    cases cs with
    | nil => simp [tokens, Token.cons, hc]
    | cons d cs =>
      rw [tokens_cons, ih (List.cons_ne_nil d cs) fun e he => h e (List.mem_cons_of_mem c he)]
      simp [Token.cons, hc]

lemma tokens_named {cs : List Char} (hne : cs ≠ []) (h : ∀ c ∈ cs, isIdentifierTail c = true) :
    tokens ('@' :: cs) = [.named cs] := by
  rw [tokens_cons, tokens_word hne h]
  rfl

namespace Place

lemma declaredBy_append (p : Place) (ts us : List Token) :
    p.declaredBy (ts ++ us) = p.declaredBy ts ++ (p.after ts).declaredBy us := by
  induction ts generalizing p with
  | nil => rfl
  | cons t ts ih => rw [List.cons_append, declaredBy, ih, declaredBy, List.append_assoc]; rfl

lemma declaredBy_outside {ts : List Token} (h : ∀ t ∈ ts, t.isDeclare = false) :
    outside.declaredBy ts = [] := by
  induction ts with
  | nil => rfl
  | cons t ts ih =>
    have hnext : outside.next t = outside := by
      rw [next, if_neg (by simp [h t (by simp)])]
    rw [declaredBy, hnext, ih fun u hu => h u (List.mem_cons_of_mem t hu)]
    simp [declares?]

end Place

lemma declared_append_break {cs : List Char} {c : Char} {ds : List Char} (hc : IsBreak c)
    (hplace : Place.outside.after (tokens cs) = .outside)
    (h : ∀ t ∈ tokens ds, t.isDeclare = false) : declared (cs ++ c :: ds) = declared cs := by
  have hrest : Place.outside.declaredBy (.mark c :: tokens ds) = [] := by
    apply Place.declaredBy_outside
    intro t ht
    rcases List.mem_cons.mp ht with rfl | ht
    · rfl
    · exact h t ht
  rw [declared, tokens_append_break cs hc, Place.declaredBy_append, hplace, hrest,
    List.append_nil]
  rfl

end ErpGateway.Sql
