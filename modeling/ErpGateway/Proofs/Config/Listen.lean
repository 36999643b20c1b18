import ErpGateway.Config.Listen
import ErpGateway.Proofs.Decimal.Integers
import ErpGateway.Proofs.Text.Search
import ErpGateway.Proofs.Text.Trim

namespace ErpGateway.Config.Listen

open Decimal

/-- A host whose ends are not taken for brackets or for blanks around the address. -/
structure PlainHost (host : List Char) : Prop where
  ne_nil : host ≠ []
  head : ∀ c ∈ host.head?, c ≠ '[' ∧ Text.isBlank c = false
  last : ∀ c ∈ host.getLast?, c ≠ ']'

inductive Written (host : List Char) : List Char → Prop
  | bare : Written host host
  | bracketed : Written host ('[' :: host ++ [']'])

def Spells (text : String) (p : Int) : Prop :=
  ∃ sign digits, SignedText text.toList p sign digits

section Host

variable {host before : List Char}

lemma dropWhile_opening (h : PlainHost host) (rest : List Char) :
    (host ++ rest).dropWhile (· == '[') = host ++ rest := by
  obtain ⟨c, cs, rfl⟩ := List.exists_cons_of_ne_nil h.ne_nil
  obtain ⟨hc, -⟩ := h.head c rfl
  exact List.dropWhile_cons_of_neg (by simpa using hc)

lemma rdropWhile_closing (h : PlainHost host) : host.rdropWhile (· == ']') = host := by
  rw [List.rdropWhile_eq_self_iff]
  intro hne
  simpa using h.last _ (List.getLast?_eq_some_getLast hne)

lemma Written.withoutBrackets_eq (h : Written host before) (hhost : PlainHost host) :
    withoutBrackets before = host := by
  cases h with
  | bare =>
    have hopen := dropWhile_opening hhost []
    rw [List.append_nil] at hopen
    rw [withoutBrackets, hopen]
    exact rdropWhile_closing hhost
  | bracketed =>
    have hopen : ('[' :: host ++ [']']).dropWhile (· == '[') = host ++ [']'] :=
      dropWhile_opening hhost [']']
    rw [withoutBrackets, hopen]
    exact (List.rdropWhile_concat_pos _ _ _ rfl).trans (rdropWhile_closing hhost)

lemma Written.isBlank_head (h : Written host before) (hhost : PlainHost host) (rest : List Char) :
    ∀ c ∈ (before ++ rest).head?, Text.isBlank c = false := by
  intro c hc
  cases h with
  | bare =>
    rw [List.head?_append_of_ne_nil _ hhost.ne_nil] at hc
    exact (hhost.head c hc).2
  | bracketed =>
    obtain rfl : '[' = c := Option.some.inj hc
    decide

end Host

section Port

variable {port sign digits : List Char} {p : Int}

lemma port?_eq (h : SignedText port p sign digits) :
    port? port = if 1 ≤ p ∧ p ≤ 65535 then some p.toNat else none := by
  rw [port?, h.unsigned?_eq]
  by_cases hsign : sign = ['-']
  · have hp := h.nonpos hsign
    rw [if_pos hsign, if_neg (by omega)]
    rfl
  · have hp := h.nonneg hsign
    have hrange : (decide (0 < p.toNat) && decide (p.toNat ≤ portMax)) = true ↔
        1 ≤ p ∧ p ≤ 65535 := by
      rw [Bool.and_eq_true, decide_eq_true_iff, decide_eq_true_iff, portMax]
      omega
    rw [if_neg hsign, Option.filter_some]
    simp only [hrange]

lemma ofChars_of_written {host before left right : List Char} (hhost : PlainHost host)
    (hbefore : Written host before) (hleft : ∀ c ∈ left, Text.isBlank c = true)
    (hright : ∀ c ∈ right, Text.isBlank c = true) (h : SignedText port p sign digits) :
    ofChars (left ++ (before ++ ':' :: port) ++ right) =
      if 1 ≤ p ∧ p ≤ 65535 then .ok ⟨String.ofList host, p.toNat⟩
      else .error (.invalid "apiListen port must be between 1 and 65535") := by
  have hport : ∀ c ∈ (before ++ ':' :: port).getLast?, Text.isBlank c = false := by
    intro c hc
    have hne : port ≠ [] := by
      rw [h.text_eq]
      exact List.append_ne_nil_of_right_ne_nil _ h.digits_ne
    rw [List.getLast?_append_cons, List.getLast?_cons_of_ne_nil hne] at hc
    exact Text.isBlank_of_isDigit (h.isDigit_of_mem_getLast? hc)
  have htrim : Text.trim (left ++ (before ++ ':' :: port) ++ right) = before ++ ':' :: port := by
    rw [Text.trim_padded hleft hright]
    exact Text.trim_eq_self (hbefore.isBlank_head hhost _) hport
  have hsplit : Text.splitLast ':' (before ++ ':' :: port) = some (before, port) :=
    Text.splitLast_append_cons (h.notMem (by decide) (by decide)) before
  obtain ⟨c, cs, hcons⟩ := List.exists_cons_of_ne_nil hhost.ne_nil
  rw [ofChars, htrim]
  split
  · rename_i hnil
    simp at hnil
  · rw [hsplit]
    dsimp only
    rw [hbefore.withoutBrackets_eq hhost, port?_eq h, hcons]
    by_cases hp : 1 ≤ p ∧ p ≤ 65535
    · rw [if_pos hp, if_pos hp]
    · rw [if_neg hp, if_neg hp]

end Port

lemma toList_toString (p : Nat) : (toString p).toList = digits p :=
  String.toList_ofList

lemma written_of_mem {host written : String} (h : written ∈ [host, "[" ++ host ++ "]"]) :
    Written host.toList written.toList := by
  rcases List.mem_pair.mp h with rfl | rfl
  · exact .bare
  · have hlist : ("[" ++ host ++ "]").toList = '[' :: host.toList ++ [']'] := by simp
    rw [hlist]
    exact .bracketed

theorem ofText_of_written (host left right : String) (hhost : PlainHost host.toList)
    (hleft : Text.allBlank left = true) (hright : Text.allBlank right = true) :
    ∀ written ∈ [host, "[" ++ host ++ "]"],
      (∀ p : Nat, 1 ≤ p → p ≤ 65535 →
        ofText (left ++ written ++ ":" ++ toString p ++ right) = .ok ⟨host, p⟩) ∧
      ∀ (p : Int) (port : String), Spells port p → ¬ (1 ≤ p ∧ p ≤ 65535) →
        ofText (left ++ written ++ ":" ++ port ++ right) =
          .error (.invalid "apiListen port must be between 1 and 65535") := by
  intro written hwritten
  have hread {p : Int} {port sign digits : List Char} (h : SignedText port p sign digits) :=
    ofChars_of_written hhost (written_of_mem hwritten) (List.all_eq_true.mp hleft)
      (List.all_eq_true.mp hright) h
  have hlist (port : String) : (left ++ written ++ ":" ++ port ++ right).toList =
      left.toList ++ (written.toList ++ ':' :: port.toList) ++ right.toList := by
    simp
  refine ⟨fun p hmin hmax => ?_, fun p port hspells hp => ?_⟩
  · rw [ofText, hlist, toList_toString, hread (signedText_digits p), if_pos (by omega),
      String.ofList_toList, Int.toNat_natCast]
  · obtain ⟨sign, digits, h⟩ := hspells
    rw [ofText, hlist, hread h, if_neg hp]

theorem ofText_of_written_loopback :
    PlainHost "::1".toList ∧ Text.allBlank " " = true ∧ Text.allBlank "\n" = true ∧
      Spells "-00" 0 ∧ Spells "0065536" 65536 ∧
      ofText " [::1]:8080\n" = .ok ⟨"::1", 8080⟩ ∧
      ofText " ::1:65535\n" = .ok ⟨"::1", 65535⟩ ∧
      ofText " [::1]:-00\n" = .error (.invalid "apiListen port must be between 1 and 65535") ∧
      ofText " ::1:0065536\n" =
        .error (.invalid "apiListen port must be between 1 and 65535") := by
  have hhost : PlainHost "::1".toList := by
    refine ⟨by decide, fun c hc => ?_, fun c hc => ?_⟩
    · obtain rfl : ':' = c := Option.some.inj hc
      decide
    · obtain rfl : '1' = c := Option.some.inj hc
      decide
  have hzero : Spells "-00" 0 :=
    ⟨['-'], ['0', '0'], rfl, by simp, by simp, by simp, rfl⟩
  have hover : Spells "0065536" 65536 :=
    ⟨[], ['0', '0', '6', '5', '5', '3', '6'], rfl, by simp, by simp, by simp, rfl⟩
  obtain ⟨hbare, hbareRefused⟩ :=
    ofText_of_written "::1" " " "\n" hhost (by decide) (by decide) "::1" (by decide)
  obtain ⟨hbracketed, hbracketedRefused⟩ :=
    ofText_of_written "::1" " " "\n" hhost (by decide) (by decide) "[::1]" (by decide)
  exact ⟨hhost, by decide, by decide, hzero, hover, hbracketed 8080 (by decide) (by decide),
    hbare 65535 (by decide) (by decide), hbracketedRefused 0 "-00" hzero (by decide),
    hbareRefused 65536 "0065536" hover (by decide)⟩

end ErpGateway.Config.Listen
