import ErpGateway.Config.Listen
import ErpGateway.Http.Server
import ErpGateway.Sql.Connection

namespace ErpGateway.Config

structure DatabaseSettings where
  host : String
  port : Nat := 1433
  user : String := ""
  database : String := ""
  instanceName : Option String := none
  trustCertificate : Bool := true
  maxOpen : Nat := 10
  maxLifetimeSeconds : Nat := 1800
  connectTimeoutSeconds : Nat := 5
deriving DecidableEq, Repr

structure PricingSettings where
  lastPriceList : Int := 99
  invoiceDocument : Int := 1
  orderDocument : Int := 11
  excludedOrderPrefix : String := "90"
deriving DecidableEq, Repr

structure Limits where
  maxRows : Nat := 10000
  queryTimeoutSeconds : Nat := 8
  priceTimeoutSeconds : Nat := 12
  healthTimeoutSeconds : Nat := 3
  maxBodyOctets : Nat := 1048576
deriving DecidableEq, Repr

structure Configuration where
  backend : Erp.Backend
  listen : String := "127.0.0.1:8080"
  token : String := ""
  debug : Bool := false
  database : DatabaseSettings
  warehouses : List String := ["10"]
  pricing : PricingSettings := {}
  limits : Limits := {}
  profile : String := "production"
deriving DecidableEq, Repr

namespace Limits

def named (l : Limits) : List (String × Nat) :=
  [("limits.sqlMaxRows", l.maxRows), ("limits.sqlTimeoutSecs", l.queryTimeoutSeconds),
    ("limits.priceStockTimeoutSecs", l.priceTimeoutSeconds),
    ("limits.healthTimeoutSecs", l.healthTimeoutSeconds),
    ("limits.maxBodyBytes", l.maxBodyOctets)]

def zero? (l : Limits) : Option String :=
  (l.named.find? fun e => e.2 == 0).map Prod.fst

end Limits

namespace Configuration

def loggingProfile (c : Configuration) : Except Problem Log.Profile :=
  (Log.Profile.ofText c.profile).mapError .invalid

def validate (c : Configuration) : Except Problem Unit := do
  let _ ← Listen.ofText c.listen
  if Text.allBlank c.token then throw (.invalid "bearerToken is required")
  if Text.allBlank c.database.host then throw (.invalid "db.host is required")
  if c.database.maxOpen = 0 then throw (.invalid "db.maxOpenConns must be at least 1")
  if let some name := c.limits.zero? then throw (.invalid (name ++ " cannot be 0"))
  let _ ← c.loggingProfile

def checked (c : Configuration) : Except Problem Configuration :=
  c.validate.map fun _ => c

def connection (c : Configuration) : Sql.ConnectionParams where
  host := Text.trimmed c.database.host
  port := c.database.port
  user := c.database.user
  database := c.database.database
  instanceName := c.database.instanceName
  trustCertificate := c.database.trustCertificate
  maxOpen := c.database.maxOpen
  maxLifetimeSeconds := c.database.maxLifetimeSeconds
  connectTimeoutSeconds := c.database.connectTimeoutSeconds

def erpSettings (c : Configuration) : Erp.Settings where
  defaultWarehouses := c.warehouses
  lastPriceList := c.pricing.lastPriceList
  invoiceDocument := c.pricing.invoiceDocument
  orderDocument := c.pricing.orderDocument
  excludedOrderPrefix := c.pricing.excludedOrderPrefix

def milliseconds (seconds : Nat) : Nat :=
  seconds * 1000

def http (c : Configuration) : Http.Settings where
  token := Text.trimmed c.token
  accessLog := c.debug
  queryLimits := ⟨c.limits.maxRows, milliseconds c.limits.queryTimeoutSeconds⟩
  priceTimeout := milliseconds c.limits.priceTimeoutSeconds
  healthTimeout := milliseconds c.limits.healthTimeoutSeconds
  maxBodyOctets := c.limits.maxBodyOctets

def passwordKey (c : Configuration) : String :=
  "db_password_" ++ c.backend.name

end Configuration

end ErpGateway.Config
