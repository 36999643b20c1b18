import ErpGateway.Calendar.Date
import ErpGateway.Text.Order

namespace ErpGateway.Pricing

structure Request where
  skus : List String := []
  priceListHints : List String := []
  warehouses : List String := []
  accountId : String := ""
  asOf : Option Calendar.Date := none
deriving DecidableEq, Repr

def distinctTrimmed (texts : List String) : List String :=
  Text.distinct ((texts.map Text.trimmed).filter fun s => !s.isEmpty)

def defaultDocument : Int := 1

namespace Request

def skusAsAsked (r : Request) : List String :=
  distinctTrimmed r.skus

def skusAscending (r : Request) : List String :=
  Text.ascending (distinctTrimmed r.skus)

def warehousesOr (r : Request) (defaults : List String) : List String :=
  let asked := distinctTrimmed r.warehouses
  if asked.isEmpty then distinctTrimmed defaults else asked

def account (r : Request) : String :=
  Text.trimmed r.accountId

def document (r : Request) : Int :=
  let numbers := r.priceListHints.filterMap fun hint => Decimal.int64? (Text.trim hint.toList)
  (numbers.find? fun n => 0 < n).getD defaultDocument

def asOfText (r : Request) (today : Calendar.Date) : String :=
  (r.asOf.getD today).text

end Request

end ErpGateway.Pricing
