import ErpGateway.Keyed

namespace ErpGateway.Pricing

structure StockMovement where
  sku : String
  warehouse : String
  onHand : Float
  openOrders : Float
deriving DecidableEq

abbrev StockByWarehouse := Keyed String Float

def StockMovement.net (m : StockMovement) : Float :=
  m.onHand - m.openOrders

def addMovement (stock : Keyed String StockByWarehouse) (m : StockMovement) :
    Keyed String StockByWarehouse :=
  stock.modify m.sku [] fun warehouses => warehouses.modify m.warehouse 0.0 (· + m.net)

def netStock (movements : List StockMovement) : Keyed String StockByWarehouse :=
  movements.foldl addMovement []

end ErpGateway.Pricing
