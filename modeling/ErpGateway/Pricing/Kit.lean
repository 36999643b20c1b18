import ErpGateway.Keyed
import ErpGateway.Pricing.Least
import ErpGateway.Text.Blank

/-!
Stock of kits. A kit has no stock of its own: in each warehouse it is as available as its scarcest
component, and an item that is no kit is its own only component.
-/
namespace ErpGateway.Pricing

structure Figures where
  onHand : Option Decimal.Signed := none
  onOrder : Option Float := none
  committed : Option Float := none
deriving DecidableEq

structure ComponentStock where
  item : String
  figures : Figures
deriving DecidableEq

structure StockCandidate where
  parent : String
  item : Option String := none
  warehouse : Option String := none
  figures : Figures := {}
deriving DecidableEq

def scarcest? (components : List ComponentStock) : Option ComponentStock :=
  firstLeast (fun a b => noneLast smallerFirst a.figures.onHand b.figures.onHand) components

def addComponent (known : Keyed String (List String)) (c : StockCandidate) :
    Keyed String (List String) :=
  known.modify c.parent [] fun items =>
    match c.item with
    | some item => if items.contains item then items else items ++ [item]
    | none => items

def componentsByParent (candidates : List StockCandidate) : Keyed String (List String) :=
  candidates.foldl addComponent []

def StockCandidate.concerns (c : StockCandidate) (parent item warehouse : String) : Bool :=
  c.parent == parent && c.item == some item && c.warehouse.map Text.trimmed == some warehouse

def componentIn (candidates : List StockCandidate) (parent warehouse item : String) :
    ComponentStock where
  item := item
  figures := match candidates.find? fun c => c.concerns parent item warehouse with
    | some row => row.figures
    | none => {}

def scarcestIn (candidates : List StockCandidate) (warehouses : List String) (parent : String)
    (items : List String) : Keyed String ComponentStock :=
  Keyed.ofList <| warehouses.filterMap fun warehouse =>
    (scarcest? (items.map (componentIn candidates parent warehouse))).map fun c => (warehouse, c)

def rollUp (candidates : List StockCandidate) (warehouses : List String) :
    Keyed String (Keyed String ComponentStock) :=
  (componentsByParent candidates).filterMap fun entry =>
    if entry.2.isEmpty then none
    else some (entry.1, scarcestIn candidates warehouses entry.1 entry.2)

end ErpGateway.Pricing
