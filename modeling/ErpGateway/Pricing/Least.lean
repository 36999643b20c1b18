import ErpGateway.Decimal.Signed

namespace ErpGateway.Pricing

/-- The earliest element that no other precedes, for an order given by when one precedes another. -/
def firstLeast (precedes : α → α → Bool) : List α → Option α
  | [] => none
  | a :: rest =>
    match firstLeast precedes rest with
    | none => some a
    | some b => if precedes b a then some b else some a

def smallerFirst (a b : Decimal.Signed) : Bool :=
  a.orderKey < b.orderKey

def greaterFirst (a b : Decimal.Signed) : Bool :=
  smallerFirst b a

def noneLast (precedes : α → α → Bool) : Option α → Option α → Bool
  | some a, some b => precedes a b
  | some _, none => true
  | none, _ => false

theorem firstLeast_eq_none_iff {precedes : α → α → Bool} {items : List α} :
    firstLeast precedes items = none ↔ items = [] := by
  cases items with
  | nil => simp [firstLeast]
  | cons a rest =>
    simp only [firstLeast]
    split
    · simp
    · split <;> simp

theorem mem_of_firstLeast {precedes : α → α → Bool} {items : List α} {a : α}
    (h : firstLeast precedes items = some a) : a ∈ items := by
  induction items generalizing a with
  | nil => simp [firstLeast] at h
  | cons b rest ih =>
    simp only [firstLeast] at h
    split at h
    · simp_all
    · rename_i c hc
      split at h
      · simp_all
      · simp_all

end ErpGateway.Pricing
