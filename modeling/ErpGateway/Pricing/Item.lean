import ErpGateway.Json.Basic

namespace ErpGateway.Pricing

structure Item where
  sku : String
  prices : Keyed String Float := []
  stock : Keyed String Float := []
  details : Json.Members := []

namespace Item

def putPrice (label : String) (price : Option Float) (item : Item) : Item :=
  match price.filter Float.isFinite with
  | some p => { item with prices := item.prices.put label p }
  | none => item

def putDetail (key : String) (value : Json) (item : Item) : Item :=
  { item with details := item.details.put key value }

def putSome (key : String) (value : Option Json) (item : Item) : Item :=
  match value with
  | some v => item.putDetail key v
  | none => item

def numbers (entries : Keyed String Float) : Json :=
  .object (entries.sorted.map fun e => (e.1, Json.float e.2))

def unlessEmpty (key : String) (entries : List (String × α)) (value : Json) : Json.Members :=
  if entries.isEmpty then [] else [(key, value)]

def toJson (item : Item) : Json :=
  .object (("sku", .text item.sku) ::
    unlessEmpty "prices" item.prices (numbers item.prices) ++
    unlessEmpty "stockByWarehouse" item.stock (numbers item.stock) ++
    unlessEmpty "details" item.details (.object item.details))

end Item

end ErpGateway.Pricing
