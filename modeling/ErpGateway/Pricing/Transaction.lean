import ErpGateway.Keyed

namespace ErpGateway.Pricing

inductive TransactionSource where
  | invoice | order
deriving DecidableEq, Repr

def TransactionSource.name : TransactionSource → String
  | invoice => "invoice"
  | order => "order"

structure Transaction where
  sku : String
  source : TransactionSource
  price : Float
  date : Option String := none
  tiebreak : Int := 0
deriving DecidableEq

abbrev LastPrices := Keyed String Transaction

def laterDate : Option String → Option String → Bool
  | some a, some b => decide (b < a)
  | some _, none => true
  | none, _ => false

def Transaction.precedes (a b : Transaction) : Bool :=
  if a.source ≠ b.source then a.source = .invoice
  else if a.date ≠ b.date then laterDate a.date b.date
  else b.tiebreak < a.tiebreak

def LastPrices.offer (best : LastPrices) (row : Transaction) : LastPrices :=
  match best.get? row.sku with
  | some current => if row.precedes current then best.put row.sku row else best
  | none => best.put row.sku row

def LastPrices.ofRows (rows : List Transaction) : LastPrices :=
  rows.foldl LastPrices.offer []

end ErpGateway.Pricing
