import ErpGateway.Pricing.Transaction
import ErpGateway.Proofs.Keyed
import ErpGateway.Proofs.Pricing.Least
import ErpGateway.Proofs.Text.Order
import Mathlib.Data.Prod.Lex
import Mathlib.Data.String.Basic

namespace ErpGateway.Pricing

open Text

def Later : Option String → Option String → Prop
  | some d, some e => utf8 e < utf8 d
  | some _, none => True
  | none, _ => False

namespace Transaction

def Preferred (a b : Transaction) : Prop :=
  (a.source = .invoice ∧ b.source = .order) ∨
    a.source = b.source ∧ (Later a.date b.date ∨ a.date = b.date ∧ b.tiebreak < a.tiebreak)

def merits (row : Transaction) : TransactionSource × Option String × Int :=
  (row.source, row.date, row.tiebreak)

def CountsIn (row : Transaction) (rows : List Transaction) : Prop :=
  ∃ before after, rows = before ++ row :: after ∧
    (∀ other ∈ before, other.sku = row.sku → row.Preferred other) ∧
    ∀ other ∈ after, other.sku = row.sku → ¬ other.Preferred row

end Transaction

section Rank

def sourceRank : TransactionSource → Nat
  | .invoice => 0
  | .order => 1

def dateRank (date : Option String) : WithTop Stringᵒᵈ :=
  date.elim ⊤ fun d => (OrderDual.toDual d : Stringᵒᵈ)

def Transaction.rank (row : Transaction) : Nat ×ₗ WithTop Stringᵒᵈ ×ₗ Int :=
  toLex (sourceRank row.source, toLex (dateRank row.date, -row.tiebreak))

lemma sourceRank_inj {s t : TransactionSource} : sourceRank s = sourceRank t ↔ s = t := by
  cases s <;> cases t <;> simp [sourceRank]

lemma dateRank_inj {d e : Option String} : dateRank d = dateRank e ↔ d = e := by
  cases d <;> cases e <;> simp [dateRank]

lemma dateRank_lt_iff {d e : Option String} : dateRank d < dateRank e ↔ Later d e := by
  cases d <;> cases e <;> simp [dateRank, Later, utf8_lt_utf8_iff, WithTop.coe_lt_top]

variable (a b : Transaction)

lemma Transaction.rank_lt_iff : a.rank < b.rank ↔ a.Preferred b := by
  rw [rank, rank, Prod.Lex.toLex_lt_toLex, Prod.Lex.toLex_lt_toLex, sourceRank_inj, dateRank_inj,
    dateRank_lt_iff, Int.neg_lt_neg_iff, Preferred]
  cases a.source <;> cases b.source <;> simp [sourceRank]

lemma Transaction.rank_le_iff : a.rank ≤ b.rank ↔ ¬ b.Preferred a := by
  rw [← not_lt, rank_lt_iff]

lemma Transaction.rank_inj : a.rank = b.rank ↔ a.merits = b.merits := by
  simp [rank, merits, sourceRank_inj, dateRank_inj]

lemma laterDate_iff (d e : Option String) : laterDate d e = true ↔ Later d e := by
  cases d <;> cases e <;> simp [laterDate, Later, utf8_lt_utf8_iff]

lemma Transaction.precedes_iff : a.precedes b = true ↔ a.rank < b.rank := by
  rw [rank_lt_iff, precedes, Preferred, ← laterDate_iff]
  split
  · rename_i hsource
    cases ha : a.source <;> cases hb : b.source <;> simp_all
  · rename_i hsource
    rw [ne_eq, not_not] at hsource
    have hnot : ¬ (a.source = .invoice ∧ b.source = .order) := by
      rintro ⟨ha, hb⟩
      rw [ha, hb] at hsource
      cases hsource
    rw [or_iff_right hnot, and_iff_right hsource]
    split
    · rename_i hdate
      rw [or_iff_left fun h => hdate h.1]
    · rename_i hdate
      rw [ne_eq, not_not] at hdate
      have hlater : ¬ laterDate b.date b.date = true := by
        cases b.date <;> simp [laterDate]
      rw [hdate, or_iff_right hlater, and_iff_right rfl, decide_eq_true_iff]

end Rank

namespace LastPrices

section Selected

variable {rows : List Transaction} {row : Transaction} {sku : String}

def rowsFor (sku : String) (rows : List Transaction) : List Transaction :=
  rows.filter fun row => decide (row.sku = sku)

lemma rowsFor_append (sku : String) (rows more : List Transaction) :
    rowsFor sku (rows ++ more) = rowsFor sku rows ++ rowsFor sku more :=
  List.filter_append ..

lemma get?_offer (best : LastPrices) (row : Transaction) (sku : String) :
    (best.offer row).get? sku =
      if sku = row.sku then firstLeast Transaction.precedes ((best.get? sku).toList ++ [row])
      else best.get? sku := by
  rw [offer]
  by_cases hsku : sku = row.sku
  · rw [if_pos hsku, hsku]
    cases hbest : best.get? row.sku with
    | none =>
      rw [Keyed.get?_put, if_pos rfl]
      rfl
    | some current =>
      simp only [Option.toList_some, List.singleton_append, firstLeast]
      split
      · rw [Keyed.get?_put, if_pos rfl]
      · exact hbest
  · rw [if_neg hsku]
    cases best.get? row.sku with
    | none => rw [Keyed.get?_put, if_neg hsku]
    | some current =>
      dsimp only
      split
      · rw [Keyed.get?_put, if_neg hsku]
      · rfl

lemma ofRows_append_singleton (rows : List Transaction) (row : Transaction) :
    ofRows (rows ++ [row]) = (ofRows rows).offer row := by
  rw [ofRows, List.foldl_append]
  rfl

lemma get?_ofRows (rows : List Transaction) (sku : String) :
    (ofRows rows).get? sku = firstLeast Transaction.precedes (rowsFor sku rows) := by
  induction rows using List.reverseRecOn with
  | nil => rfl
  | append_singleton rows row ih =>
    rw [ofRows_append_singleton, get?_offer, rowsFor_append, ih]
    by_cases hsku : sku = row.sku
    · have hrow : rowsFor sku [row] = [row] := by simp [rowsFor, hsku]
      rw [if_pos hsku, hrow]
      exact (firstLeast_append Transaction.precedes_iff _ [row]).symm
    · have hrow : rowsFor sku [row] = [] := by simp [rowsFor, Ne.symm hsku]
      rw [if_neg hsku, hrow, List.append_nil]

lemma nodup_keys_ofRows (rows : List Transaction) : ((ofRows rows).map Prod.fst).Nodup := by
  induction rows using List.reverseRecOn with
  | nil => exact List.nodup_nil
  | append_singleton rows row ih =>
    rw [ofRows_append_singleton, offer]
    split
    · split
      · exact Keyed.nodup_keys_put ih
      · exact ih
    · exact Keyed.nodup_keys_put ih

lemma mem_rowsFor : row ∈ rowsFor sku rows ↔ row ∈ rows ∧ row.sku = sku := by
  rw [rowsFor, List.mem_filter, decide_eq_true_iff]

lemma firstLeast_rowsFor_iff :
    FirstLeast Transaction.rank (rowsFor sku rows) row ↔ row.sku = sku ∧ row.CountsIn rows := by
  constructor
  · intro h
    obtain rfl := (mem_rowsFor.mp h.mem).2
    obtain ⟨before, after, hsplit, hbefore, hafter⟩ := h
    obtain ⟨front, back, rfl, rfl, hback⟩ := List.filter_eq_append_iff.mp hsplit
    obtain ⟨middle, rest, rfl, hmiddle, -, rfl⟩ := List.filter_eq_cons_iff.mp hback
    refine ⟨rfl, front ++ middle, rest, by simp, ?_, ?_⟩
    · intro other hother hsku
      rcases List.mem_append.mp hother with hother | hother
      · exact (Transaction.rank_lt_iff ..).mp (hbefore other (mem_rowsFor.mpr ⟨hother, hsku⟩))
      · exact absurd (decide_eq_true hsku) (hmiddle other hother)
    · intro other hother hsku
      exact (Transaction.rank_le_iff ..).mp (hafter other (mem_rowsFor.mpr ⟨hother, hsku⟩))
  · rintro ⟨rfl, before, after, rfl, hbefore, hafter⟩
    refine ⟨rowsFor row.sku before, rowsFor row.sku after, ?_, ?_, ?_⟩
    · simp [rowsFor]
    · intro other hother
      obtain ⟨hmem, hsku⟩ := mem_rowsFor.mp hother
      exact (Transaction.rank_lt_iff ..).mpr (hbefore other hmem hsku)
    · intro other hother
      obtain ⟨hmem, hsku⟩ := mem_rowsFor.mp hother
      exact (Transaction.rank_le_iff ..).mpr (hafter other hmem hsku)

lemma get?_ofRows_eq_some_iff :
    (ofRows rows).get? sku = some row ↔ row.sku = sku ∧ row.CountsIn rows := by
  rw [get?_ofRows, firstLeast_eq_some_iff Transaction.precedes_iff, firstLeast_rowsFor_iff]

lemma mem_keys_ofRows : sku ∈ (ofRows rows).map Prod.fst ↔ ∃ row ∈ rows, row.sku = sku := by
  rw [Keyed.mem_keys_iff, ← Option.ne_none_iff_exists', get?_ofRows, Ne, firstLeast_eq_none_iff,
    List.eq_nil_iff_forall_not_mem]
  simp only [mem_rowsFor, not_forall, not_not]

lemma get?_ofRows_of_perm {rows' : List Transaction} (h : rows'.Perm rows) (sku : String) :
    ((ofRows rows').get? sku = none ∧ (ofRows rows).get? sku = none) ∨
      ∃ a b, (ofRows rows').get? sku = some a ∧ (ofRows rows).get? sku = some b ∧
        a ∈ rowsFor sku rows ∧ b ∈ rowsFor sku rows ∧ a.merits = b.merits := by
  rw [get?_ofRows, get?_ofRows]
  rcases firstLeast_of_perm Transaction.precedes_iff (h.filter _) with hnone | ⟨a, b, ha, hb, hla, hlb⟩
  · exact Or.inl hnone
  · have hrank := hla.key_eq hlb
    exact Or.inr ⟨a, b, ha, hb, hla.1, hlb.1, (Transaction.rank_inj a b).mp hrank⟩

lemma rowsFor_selected {selected : List Transaction}
    (h : selected.Perm ((ofRows rows).map Prod.snd)) (sku : String) :
    rowsFor sku selected = ((ofRows rows).get? sku).toList := by
  have hskus : ∀ e ∈ ofRows rows, e.2.sku = e.1 := by
    intro e he
    exact (get?_ofRows_eq_some_iff.mp (Keyed.get?_of_mem (nodup_keys_ofRows rows) he)).1
  have hperm := h.filter fun row => decide (row.sku = sku)
  rw [Keyed.filter_values (nodup_keys_ofRows rows) hskus sku] at hperm
  rw [rowsFor]
  cases hrow : (ofRows rows).get? sku with
  | none =>
    rw [hrow] at hperm
    exact hperm.eq_nil
  | some row =>
    rw [hrow] at hperm
    exact List.perm_singleton.mp hperm

end Selected

/-- Of each item that has transactions one counts, the first of those to which none is preferred. In another
order of the rows it is one of equal merits, and from rows that are selected in parts and then together it
is the same. -/
theorem last_prices_of_rows (rows : List Transaction) :
    ((ofRows rows).map Prod.fst).Nodup ∧
    (∀ sku, sku ∈ (ofRows rows).map Prod.fst ↔ ∃ row ∈ rows, row.sku = sku) ∧
    (∀ sku row, (ofRows rows).get? sku = some row ↔ row.sku = sku ∧ row.CountsIn rows) ∧
    (∀ rows', rows'.Perm rows → ∀ sku,
      ((ofRows rows').get? sku).map Transaction.merits =
          ((ofRows rows).get? sku).map Transaction.merits ∧
        ((∀ a ∈ rows, ∀ b ∈ rows, a.sku = sku → b.sku = sku → a.merits = b.merits → a = b) →
          (ofRows rows').get? sku = (ofRows rows).get? sku)) ∧
    ∀ more first second, first.Perm ((ofRows rows).map Prod.snd) →
      second.Perm ((ofRows more).map Prod.snd) → ∀ sku,
        (ofRows (first ++ second)).get? sku = (ofRows (rows ++ more)).get? sku := by
  refine ⟨nodup_keys_ofRows rows, fun sku => mem_keys_ofRows, fun sku row => get?_ofRows_eq_some_iff,
    ?_, ?_⟩
  · intro rows' hperm sku
    rcases get?_ofRows_of_perm hperm sku with ⟨h', h⟩ | ⟨a, b, h', h, ha, hb, hmerits⟩
    · rw [h', h]
      exact ⟨rfl, fun _ => rfl⟩
    · rw [h', h]
      refine ⟨congrArg some hmerits, fun hdistinct => congrArg some ?_⟩
      obtain ⟨ha, hasku⟩ := mem_rowsFor.mp ha
      obtain ⟨hb, hbsku⟩ := mem_rowsFor.mp hb
      exact hdistinct a ha b hb hasku hbsku hmerits
  · intro more first second hfirst hsecond sku
    rw [get?_ofRows, get?_ofRows, rowsFor_append, rowsFor_append, rowsFor_selected hfirst,
      rowsFor_selected hsecond, get?_ofRows, get?_ofRows]
    exact (firstLeast_append Transaction.precedes_iff _ _).symm

end LastPrices

end ErpGateway.Pricing
