import ErpGateway.Erp.Hasavshevet.Answer
import ErpGateway.Erp.Sap.Answer

namespace ErpGateway.Service

open Pricing

structure Resolver where
  backend : Erp.Backend
  database : Database
  dialogue : Request → Dialogue (List Item)

namespace PriceStock

def op : String := "price_stock"

def component : String := "erpgw_engine::commands::price_stock"

def dialogue : Erp.Backend → Erp.Settings → Calendar.Date → Request → Dialogue (List Item)
  | .hasavshevet => Erp.Hasavshevet.answer
  | .sap => Erp.Sap.answer

def lastEvent : Except Failure (List Item) → Event
  | .ok items => .ended component op [("item_count", toString items.length)]
  | .error failure => .failed component op failure

def resolverOf (db : Database) (backend : Erp.Backend) (settings : Erp.Settings)
    (today : Calendar.Date) : Resolver where
  backend := backend
  database := db
  dialogue := dialogue backend settings today

def runWith (resolver : Resolver) (limit : Nat) (request : Request) : Transcript (List Item) :=
  ((resolver.dialogue request).run resolver.database op limit).framed
    (.started component op
      [("backend", resolver.backend.name), ("sku_count", toString request.skus.length)])
    lastEvent

def run (db : Database) (backend : Erp.Backend) (settings : Erp.Settings) (today : Calendar.Date)
    (limit : Nat) (request : Request) : Transcript (List Item) :=
  runWith (resolverOf db backend settings today) limit request

end PriceStock

end ErpGateway.Service
