import ErpGateway.Config.Settings
import ErpGateway.Json.Record

namespace ErpGateway.Config

inductive Width where
  | word16 | word64 | int64
deriving DecidableEq, Repr

namespace Width

def least : Width → Int
  | int64 => Decimal.int64Min
  | _ => 0

def greatest : Width → Int
  | word16 => Listen.portMax
  | word64 => Decimal.word64Max
  | int64 => Decimal.int64Max

end Width

structure Shape where
  kind : String
  names : Json.MemberNames
deriving DecidableEq, Repr

structure Members (V : Type) where
  entries : Keyed String V
  inOrder : Bool := false

structure Reading (V E : Type) where
  record : Shape → V → Except E (Members V)
  missing : Shape → (inOrder : Bool) → (name : String) → E
  text : V → Except E String
  nullableText : V → Except E (Option String)
  bool : V → Except E Bool
  int : Width → V → Except E Int
  texts : V → Except E (List String)
  backend : V → Except E Erp.Backend

def Members.given (r : Members V) (name : String) (read : V → Except E α) : Except E (Option α) :=
  match r.entries.get? name with
  | none => .ok none
  | some v => (read v).map some

namespace Reading

variable {V E : Type}

/-- A member that has to be there. It is missed after all members were read. -/
def demand (R : Reading V E) (shape : Shape) (r : Members V) (name : String) :
    Option α → Except E α
  | some a => .ok a
  | none => .error (R.missing shape r.inOrder name)

def word (R : Reading V E) (width : Width) (v : V) : Except E Nat :=
  (R.int width v).map Int.toNat

def named (name : String) : List String :=
  let folded := Text.lowered name
  if folded = name then [name] else [name, folded]

def databaseShape : Shape where
  kind := "DbConfig"
  names := ["host", "port", "user", "database", "instance", "trustCert", "maxOpenConns",
    "connMaxLifetimeSecs", "connectTimeoutSecs"].map named

def database (R : Reading V E) (v : V) : Except E DatabaseSettings := do
  let r ← R.record databaseShape v
  let host ← r.given "host" R.text
  let port ← r.given "port" (R.word .word16)
  let user ← r.given "user" R.text
  let database ← r.given "database" R.text
  let instanceName ← r.given "instance" R.nullableText
  let trustCertificate ← r.given "trustCert" R.bool
  let maxOpen ← r.given "maxOpenConns" (R.word .word64)
  let maxLifetimeSeconds ← r.given "connMaxLifetimeSecs" (R.word .word64)
  let connectTimeoutSeconds ← r.given "connectTimeoutSecs" (R.word .word64)
  return {
    host := ← R.demand databaseShape r "host" host
    port := port.getD 1433
    user := user.getD ""
    database := database.getD ""
    instanceName := instanceName.getD none
    trustCertificate := trustCertificate.getD true
    maxOpen := maxOpen.getD 10
    maxLifetimeSeconds := maxLifetimeSeconds.getD 1800
    connectTimeoutSeconds := connectTimeoutSeconds.getD 5 }

def pricingShape : Shape where
  kind := "PricingConfig"
  names := ["lastPricePriceList", "invoiceDocumentId", "orderDocumentId",
    "excludedOrderPrefix"].map named

def pricing (R : Reading V E) (v : V) : Except E PricingSettings := do
  let r ← R.record pricingShape v
  return {
    lastPriceList := (← r.given "lastPricePriceList" (R.int .int64)).getD 99
    invoiceDocument := (← r.given "invoiceDocumentId" (R.int .int64)).getD 1
    orderDocument := (← r.given "orderDocumentId" (R.int .int64)).getD 11
    excludedOrderPrefix := (← r.given "excludedOrderPrefix" R.text).getD "90" }

def limitsShape : Shape where
  kind := "LimitsConfig"
  names := ["sqlMaxRows", "sqlTimeoutSecs", "priceStockTimeoutSecs", "healthTimeoutSecs",
    "maxBodyBytes"].map named

def limits (R : Reading V E) (v : V) : Except E Limits := do
  let r ← R.record limitsShape v
  return {
    maxRows := (← r.given "sqlMaxRows" (R.word .word64)).getD 10000
    queryTimeoutSeconds := (← r.given "sqlTimeoutSecs" (R.word .word64)).getD 8
    priceTimeoutSeconds := (← r.given "priceStockTimeoutSecs" (R.word .word64)).getD 12
    healthTimeoutSeconds := (← r.given "healthTimeoutSecs" (R.word .word64)).getD 3
    maxBodyOctets := (← r.given "maxBodyBytes" (R.word .word64)).getD 1048576 }

def loggingShape : Shape := ⟨"LoggingConfig", [["profile"]]⟩

def profile (R : Reading V E) (v : V) : Except E String := do
  let r ← R.record loggingShape v
  return (← r.given "profile" R.text).getD "production"

def configurationShape : Shape where
  kind := "GatewayConfig"
  names := ["erp", "apiListen", "bearerToken", "debug", "db", "warehouses", "pricing", "limits",
    "logging"].map named

def configuration (R : Reading V E) (v : V) : Except E Configuration := do
  let r ← R.record configurationShape v
  let backend ← r.given "erp" R.backend
  let listen ← r.given "apiListen" R.text
  let token ← r.given "bearerToken" R.text
  let debug ← r.given "debug" R.bool
  let database ← r.given "db" R.database
  let warehouses ← r.given "warehouses" R.texts
  let pricing ← r.given "pricing" R.pricing
  let limits ← r.given "limits" R.limits
  let profile ← r.given "logging" R.profile
  return {
    backend := ← R.demand configurationShape r "erp" backend
    listen := listen.getD "127.0.0.1:8080"
    token := token.getD ""
    debug := debug.getD false
    database := ← R.demand configurationShape r "db" database
    warehouses := warehouses.getD ["10"]
    pricing := pricing.getD {}
    limits := limits.getD {}
    profile := profile.getD "production" }

end Reading

def documentBackend? : Json.Document → Option Erp.Backend
  | .text spelling => (Json.textOf? spelling).bind Erp.Backend.ofName?
  | .object [(key, .null)] => (Json.textOf? key).bind Erp.Backend.ofName?
  | _ => none

def orUnit : Option α → Except Unit α
  | some a => .ok a
  | none => .error ()

def documentReading : Reading Json.Document Unit where
  record shape d := orUnit ((Json.Record.ofDocument? shape.names d).map fun r => ⟨r, false⟩)
  missing _ _ _ := ()
  text d := orUnit d.text?
  nullableText d := orUnit (Json.Document.nullable? Json.Document.text? d)
  bool d := orUnit d.bool?
  int width d := orUnit (d.intWithin? width.least width.greatest)
  texts d := orUnit d.texts?
  backend d := orUnit (documentBackend? d)

def ofJson? (text : String) : Option Configuration :=
  (Json.Document.read (Text.utf8 text)).bind fun d => (documentReading.configuration d).toOption

end ErpGateway.Config
