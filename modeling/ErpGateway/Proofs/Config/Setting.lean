import ErpGateway.Config.Load
import ErpGateway.Proofs.Config.Folding
import Mathlib.Data.List.Basic
import Mathlib.Tactic.Common

namespace ErpGateway.Config

inductive Section where
  | database | pricing | limits | logging
deriving DecidableEq

namespace Section

def name : Section → String
  | database => "db"
  | pricing => "pricing"
  | limits => "limits"
  | logging => "logging"

def shape : Section → Shape
  | database => Reading.databaseShape
  | pricing => Reading.pricingShape
  | limits => Reading.limitsShape
  | logging => Reading.loggingShape

end Section

inductive Setting where
  | backend | listen | token | debug | warehouses
  | host | port | user | database | instanceName | trustCertificate | maxOpen | maxLifetime
  | connectTimeout
  | lastPriceList | invoiceDocument | orderDocument | excludedOrderPrefix
  | maxRows | queryTimeout | priceTimeout | healthTimeout | maxBody
  | profile
deriving DecidableEq

namespace Setting

def section? : Setting → Option Section
  | backend | listen | token | debug | warehouses => none
  | host | port | user | database | instanceName | trustCertificate | maxOpen | maxLifetime
  | connectTimeout => some .database
  | lastPriceList | invoiceDocument | orderDocument | excludedOrderPrefix => some .pricing
  | maxRows | queryTimeout | priceTimeout | healthTimeout | maxBody => some .limits
  | profile => some .logging

def name : Setting → String
  | backend => "erp"
  | listen => "apiListen"
  | token => "bearerToken"
  | debug => "debug"
  | warehouses => "warehouses"
  | host => "host"
  | port => "port"
  | user => "user"
  | database => "database"
  | instanceName => "instance"
  | trustCertificate => "trustCert"
  | maxOpen => "maxOpenConns"
  | maxLifetime => "connMaxLifetimeSecs"
  | connectTimeout => "connectTimeoutSecs"
  | lastPriceList => "lastPricePriceList"
  | invoiceDocument => "invoiceDocumentId"
  | orderDocument => "orderDocumentId"
  | excludedOrderPrefix => "excludedOrderPrefix"
  | maxRows => "sqlMaxRows"
  | queryTimeout => "sqlTimeoutSecs"
  | priceTimeout => "priceStockTimeoutSecs"
  | healthTimeout => "healthTimeoutSecs"
  | maxBody => "maxBodyBytes"
  | profile => "profile"

def segments (x : Setting) : List String :=
  (x.section?.map Section.name).toList ++ [x.name]

def variableName (x : Setting) : String :=
  "ERPGW_" ++ Text.uppered ("__".intercalate x.segments)

def keys (x : Setting) : List String :=
  x.segments.map Text.lowered

def stepsOf? (name : String) : Option (List Step) :=
  (settingName? name).map fun place => .key (Path.ofText place).head :: (Path.ofText place).rest

def all : List Setting :=
  [backend, listen, token, debug, warehouses, host, port, user, database, instanceName,
    trustCertificate, maxOpen, maxLifetime, connectTimeout, lastPriceList, invoiceDocument,
    orderDocument, excludedOrderPrefix, maxRows, queryTimeout, priceTimeout, healthTimeout,
    maxBody, profile]

lemma mem_all (x : Setting) : x ∈ all := by
  cases x <;> decide

lemma stepsOf?_variableName (x : Setting) : stepsOf? x.variableName = some (x.keys.map .key) := by
  have h : ∀ x ∈ all, stepsOf? x.variableName = some (x.keys.map .key) := by decide +kernel
  exact h x x.mem_all

lemma foldKey_of_mem_keys {x : Setting} {key : String} (h : key ∈ x.keys) :
    Value.foldKey key = key := by
  have hascii : ∀ x ∈ all, ∀ s ∈ x.segments, s.toList.all Text.isAscii = true := by decide +kernel
  obtain ⟨s, hs, rfl⟩ := List.mem_map.1 h
  exact Text.lowerCase_lowered (hascii x x.mem_all s hs)

end Setting

def apart : List String → List String → Bool
  | key :: rest, key' :: rest' => key != key' || apart rest rest'
  | _, _ => false

lemma not_apart_self (keys : List String) : ¬apart keys keys := by
  induction keys with
  | nil => exact Bool.false_ne_true
  | cons key rest ih => simpa [apart] using ih

lemma apart_of_ne {x y : Setting} (h : x ≠ y) : apart x.keys y.keys := by
  have hall : ∀ x ∈ Setting.all, ∀ y ∈ Setting.all, x ≠ y → apart x.keys y.keys := by
    decide +kernel
  exact hall x x.mem_all y y.mem_all h

lemma apart_of_section?_ne {x : Setting} {S : Section} (h : x.section? ≠ some S) :
    apart x.keys [Text.lowered S.name] := by
  have hall : ∀ x ∈ Setting.all, x.section? ≠ some S → apart x.keys [Text.lowered S.name] := by
    cases S <;> decide +kernel
  exact hall x x.mem_all h

lemma variableName_injective : Function.Injective Setting.variableName := by
  intro x y h
  have hkeys : some (x.keys.map Step.key) = some (y.keys.map Step.key) := by
    rw [← Setting.stepsOf?_variableName, ← Setting.stepsOf?_variableName, h]
  by_contra hne
  have hsame : x.keys = y.keys :=
    List.map_injective_iff.2 (fun _ _ => Step.key.inj) (Option.some.inj hkeys)
  have hapart := apart_of_ne hne
  rw [hsame] at hapart
  exact not_apart_self y.keys hapart

end ErpGateway.Config
