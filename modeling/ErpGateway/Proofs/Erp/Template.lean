import ErpGateway.Proofs.Decimal.Integers
import ErpGateway.Proofs.Sql.Tokens
import ErpGateway.Proofs.Text.Search
import ErpGateway.Sql.Statement
import Mathlib.Data.List.Nodup

/-! Statements whose text has holes for lists: what it takes of the text that the statement is well
formed however long the lists are. -/

namespace ErpGateway.Erp

open Sql Text

inductive Marker where
  | skus | warehouses | lists
deriving DecidableEq

namespace Marker

def name : Marker → String
  | skus => "skus"
  | warehouses => "warehouses"
  | lists => "lists"

def stem : Marker → String
  | skus => "sku"
  | warehouses => "wh"
  | lists => "pl"

def all : List Marker := [skus, warehouses, lists]

def mark (m : Marker) : List Char :=
  Statement.listMark m.name

end Marker

inductive Template where
  | last (code : List Char)
  | hole (code : List Char) (m : Marker) (rest : Template)

namespace Template

def render (v : Marker → List Char) : Template → List Char
  | last code => code
  | hole code m rest => code ++ '(' :: (v m ++ ')' :: rest.render v)

def code : Template → List Char
  | last code => code
  | hole code _ _ => code

def withCode (code : List Char) : Template → Template
  | last _ => last code
  | hole _ m rest => hole code m rest

def codes : Template → List (List Char)
  | last code => [code]
  | hole code _ rest => code :: rest.codes

def markers : Template → List Marker
  | last _ => []
  | hole _ m rest => m :: rest.markers

def hole? (cs : List Char) : Option (Marker × List Char) :=
  Marker.all.findSome? fun m => (cs.dropPrefix? (m.mark ++ [')'])).map fun code => (m, code)

def cons (c : Char) (t : Template) : Template :=
  match if c = '(' then hole? t.code else none with
  | some (m, code) => hole [] m (t.withCode code)
  | none => t.withCode (c :: t.code)

def ofChars (cs : List Char) : Template :=
  cs.foldr cons (last [])

variable (v : Marker → List Char)

lemma render_withCode_append (t : Template) {cs code : List Char} (h : t.code = cs ++ code) :
    cs ++ (t.withCode code).render v = t.render v := by
  cases t with
  | last c =>
    rw [Template.code] at h
    rw [withCode, render, render, h]
  | hole c m rest =>
    rw [Template.code] at h
    rw [withCode, render, render, h, List.append_assoc]

lemma code_of_hole? {cs code : List Char} {m : Marker} (h : hole? cs = some (m, code)) :
    cs = m.mark ++ ')' :: code := by
  obtain ⟨m', -, hm'⟩ := List.exists_of_findSome?_eq_some h
  obtain ⟨code', hcode', heq⟩ := Option.map_eq_some_iff.mp hm'
  obtain ⟨rfl, rfl⟩ := Prod.mk.inj heq
  obtain ⟨p, rfl, hp⟩ := List.dropPrefix?_eq_some_iff.mp hcode'
  rw [eq_of_beq hp]
  simp

lemma render_cons (c : Char) (t : Template) :
    (cons c t).render Marker.mark = c :: t.render Marker.mark := by
  rw [cons]
  split
  · rename_i m code h
    rw [Option.ite_none_right_eq_some] at h
    obtain ⟨rfl, hhole⟩ := h
    have hcode : t.code = (m.mark ++ [')']) ++ code := by
      rw [code_of_hole? hhole]
      simp
    rw [render, ← render_withCode_append Marker.mark t hcode]
    simp
  · cases t <;> rfl

lemma render_ofChars (cs : List Char) : (ofChars cs).render Marker.mark = cs := by
  induction cs with
  | nil => rfl
  | cons c cs ih => rw [ofChars, List.foldr_cons, render_cons, ← ofChars, ih]

def filled (value : Marker → List Char) (done : List Marker) (m : Marker) : List Char :=
  if m ∈ done then value m else m.mark

lemma mark_prefix_mark_append {m m' : Marker} {rest : List Char}
    (h : m.mark <+: m'.mark ++ rest) : m = m' := by
  cases m <;> cases m' <;> first
    | rfl
    | (exfalso; revert h; simp [Marker.mark, Marker.name, Statement.listMark])

lemma replaceAll_other_mark {m m' : Marker} (h : m ≠ m') (new rest : List Char) :
    replaceAll m.mark new (m'.mark ++ rest) = m'.mark ++ replaceAll m.mark new rest := by
  have hbody : '\x7b' ∉ m'.name.toList ++ ['\x7d'] := by
    cases m' <;> simp [Marker.name]
  have hcons : m'.mark ++ rest = '\x7b' :: (m'.name.toList ++ ['\x7d'] ++ rest) := rfl
  have hprefix : ¬ m.mark <+: '\x7b' :: (m'.name.toList ++ ['\x7d'] ++ rest) := by
    rw [← hcons]
    exact fun hp => h (mark_prefix_mark_append hp)
  rw [hcons, replaceAll_cons hprefix, replaceAll_append m.mark new rfl hbody]
  rfl

lemma replaceAll_render (m : Marker) {value : Marker → List Char}
    (hvalue : ∀ m, '\x7b' ∉ value m) (done : List Marker) (t : Template)
    (hcodes : ∀ code ∈ t.codes, '\x7b' ∉ code) :
    replaceAll m.mark (value m) (t.render (filled value done)) =
      t.render (filled value (m :: done)) := by
  induction t with
  | last code =>
    have hcode : '\x7b' ∉ code := hcodes code (by simp [codes])
    rw [render, render, ← List.append_nil code, replaceAll_append m.mark (value m) rfl hcode]
    rfl
  | hole code m' rest ih =>
    have hopen : '\x7b' ∉ code ++ ['('] := by
      simpa using hcodes code (by simp [codes])
    have hbracket : '\x7b' ∉ [')'] := by simp
    have hclose : ∀ cs, replaceAll m.mark (value m) (')' :: cs) =
        ')' :: replaceAll m.mark (value m) cs := fun cs =>
      replaceAll_append m.mark (value m) rfl hbracket cs
    have hmiddle : ∀ cs, replaceAll m.mark (value m) (filled value done m' ++ cs) =
        filled value (m :: done) m' ++ replaceAll m.mark (value m) cs := by
      intro cs
      by_cases hdone : m' ∈ done
      · rw [filled, filled, if_pos hdone, if_pos (List.mem_cons_of_mem m hdone)]
        exact replaceAll_append m.mark (value m) rfl (hvalue m') cs
      · rw [filled, if_neg hdone]
        by_cases hm : m = m'
        · subst hm
          rw [filled, if_pos (List.mem_cons_self)]
          exact replaceAll_mark_append (List.cons_ne_nil _ _) cs
        · rw [filled, if_neg (by simp [hdone, Ne.symm hm])]
          exact replaceAll_other_mark hm _ cs
    have hrest := ih fun code hc => hcodes code (List.mem_cons_of_mem _ hc)
    have hassoc : ∀ v : Marker → List Char, (hole code m' rest).render v =
        (code ++ ['(']) ++ (v m' ++ ')' :: rest.render v) := by
      intro v
      simp [render]
    rw [hassoc, hassoc, replaceAll_append m.mark (value m) rfl hopen, hmiddle, hclose, hrest]

end Template

end ErpGateway.Erp
