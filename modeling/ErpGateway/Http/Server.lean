import ErpGateway.Http.Bearer
import ErpGateway.Http.Body
import ErpGateway.Http.Refusal
import ErpGateway.Service.AdHoc
import ErpGateway.Service.PriceStock

namespace ErpGateway.Http

open Text (Octets)

structure Request where
  method : String
  target : String
  headers : List (String × Octets) := []
  body : Octets := []

namespace Request

def endsPath (c : Char) : Bool :=
  c == '?' || c == '#'

def afterAuthority (target : List Char) : List Char :=
  match target.dropWhile (· != ':') with
  | ':' :: '/' :: '/' :: rest =>
    match rest.dropWhile fun c => c != '/' && !endsPath c with
    | '/' :: more => '/' :: more
    | more => '/' :: more
  | _ => []

def fromPath (target : List Char) : List Char :=
  if target.head? = some '/' || target = ['*'] then target else afterAuthority target

def path (r : Request) : String :=
  String.ofList ((fromPath r.target.toList).takeWhile fun c => !endsPath c)

def isVisible (b : UInt8) : Bool :=
  (32 ≤ b && b < 127) || b == 9

def header? (r : Request) (name : String) : Option String :=
  ((r.headers.find? fun h => Text.sameLetters h.1 name).map Prod.snd).bind fun value =>
    if value.all isVisible then some (String.ofList (value.map fun b => Char.ofNat b.toNat))
    else none

def requestIdHeader : String := "x-request-id"

def id (r : Request) (fresh : String) : String :=
  ((r.header? requestIdHeader).bind Log.requestId?).getD fresh

end Request

structure Settings where
  token : String
  /-- What tokens are compared by. -/
  digest : Octets → Octets := id
  accessLog : Bool := false
  queryLimits : Service.QueryLimits := {}
  priceTimeout : Nat := 12000
  healthTimeout : Nat := 3000
  maxBodyOctets : Nat := 1048576

structure Probe where
  delay : Nat := 0
  failure : Option Failure := none

structure Ports where
  database : Database
  resolver : Service.Resolver
  probe : Probe

structure Server where
  settings : Settings
  backend : Erp.Backend
  pricing : Erp.Settings
  database : Database
  probe : Probe
  today : Calendar.Date

inductive Action where
  | refuse (refusal : Refusal)
  | probe
  | query (query : Gate.Query)
  | question (request : Pricing.Request)

structure Response where
  status : Nat
  body : String
deriving DecidableEq, Repr

def Response.refused (r : Refusal) : Response :=
  ⟨r.status, r.body⟩

def Response.ok (body : Json) : Response :=
  ⟨200, body.print⟩

inductive Effect where
  | ping
  | query (statement : Sql.Statement)
  | resolve (request : Pricing.Request) (asked : List Sql.Statement)

def Effect.statements : Effect → List Sql.Statement
  | ping => []
  | query statement => [statement]
  | resolve _ asked => asked

structure Exchange where
  response : Response
  effects : List Effect := []
  events : List Event := []

def Exchange.calls (e : Exchange) : List Sql.Statement :=
  e.effects.flatMap Effect.statements

def healthPath : String := "/api/health"
def queryPath : String := "/api/sql"
def pricePath : String := "/api/priceAndStockHandler"

def boundedBody (settings : Settings) (body : Octets) : Except Failure Octets :=
  if settings.maxBodyOctets < body.length then .error malformedBody else .ok body

def bodyAction (settings : Settings) (body : Octets) (decode : Octets → Except Failure α)
    (action : α → Action) : Action :=
  match (boundedBody settings body).bind decode with
  | .ok a => action a
  | .error failure => .refuse (.ofFailure failure)

def routed (settings : Settings) (r : Request) : Action :=
  if r.path = healthPath && (r.method = "GET" || r.method = "HEAD") then .probe
  else if r.path = queryPath && r.method = "POST" then
    bodyAction settings r.body queryOf .query
  else if r.path = pricePath && r.method = "POST" then
    bodyAction settings r.body questionOf .question
  else .refuse (.ofKind .notFound)

def actionOf (settings : Settings) (r : Request) : Action :=
  if bearerMatches (r.header? "authorization") settings.token settings.digest then
    routed settings r
  else .refuse (.ofKind .unauthorised)

def probeFailed (f : Failure) : Event :=
  ⟨.warn, [("err.code", f.kind.code), ("err.detail", f.detail.getD ""),
    ("message", "health probe failed")]⟩

def probeTimedOut : Event :=
  ⟨.warn, [("message", "health probe timed out")]⟩

def health (limit : Nat) (probe : Probe) : Exchange :=
  if limit < probe.delay then
    { response := .refused .databaseDown, effects := [.ping], events := [probeTimedOut] }
  else
    match probe.failure with
    | some failure =>
      { response := .refused .databaseDown, effects := [.ping], events := [probeFailed failure] }
    | none => { response := .ok (.object [("status", .text "ok")]), effects := [.ping] }

def tableJson (table : Sql.Table) : Json :=
  .array (table.map .object)

def queryAnswer (path : String) (tables : List Sql.Table) : Json :=
  let rows := Service.AdHoc.rowsOf tables
  .object [("api", .text path), ("status", .text "success"), ("rowCount", .int rows.length),
    ("rows", tableJson rows), ("recordsets", .array (tables.map tableJson))]

def priceAnswer (elapsed : Nat) (items : List Pricing.Item) : Json :=
  .object [("items", .array (items.map Pricing.Item.toJson)),
    ("meta", .object [("durationMs", .int elapsed)])]

def exchangeOf (t : Transcript α) (effects : List Effect) (answer : α → Json)
    (refusal : Failure → Refusal) : Exchange where
  response := match t.outcome with
    | .ok a => .ok (answer a)
    | .error failure => .refused (refusal failure)
  effects := effects
  events := t.events

def trimmedFor (r : Request) (response : Response) : Response :=
  if r.method = "HEAD" && r.path = healthPath then { response with body := "" } else response

namespace Ports

def perform (ports : Ports) (settings : Settings) (path : String) : Action → Exchange
  | .refuse refusal => { response := .refused refusal }
  | .probe => health settings.healthTimeout ports.probe
  | .query query =>
    let t := Service.AdHoc.run ports.database settings.queryLimits query
    exchangeOf t (t.calls.map .query) (queryAnswer path) .ofFailure
  | .question request =>
    let t := Service.PriceStock.runWith ports.resolver settings.priceTimeout request
    exchangeOf t [.resolve request t.calls] (priceAnswer t.elapsed) .ofPricing

def serve (ports : Ports) (settings : Settings) (id : String) (r : Request) : Exchange :=
  let exchange := ports.perform settings r.path (actionOf settings r)
  let access := if settings.accessLog
    then [Event.access r.method r.path exchange.response.status id] else []
  { exchange with
    response := trimmedFor r exchange.response
    events := exchange.events ++ access }

end Ports

namespace Server

def ports (s : Server) : Ports where
  database := s.database
  resolver := Service.PriceStock.resolverOf s.database s.backend s.pricing s.today
  probe := s.probe

def serve (s : Server) (id : String) (r : Request) : Exchange :=
  s.ports.serve s.settings id r

end Server

end ErpGateway.Http
