import ErpGateway.Decimal.Layout
import ErpGateway.Json.Fault
import ErpGateway.Text.Quoted

namespace ErpGateway.Config

inductive Origin where
  | file (name : String)
  | environment
deriving DecidableEq, Repr

def Origin.name : Origin → String
  | file name => name
  | environment => "the environment"

inductive Found where
  | nothing
  | bool (b : Bool)
  | int (n : Int)
  | word (n : Nat)
  | float (x : Float)
  | text (s : String)
  | sequence
  | map
deriving DecidableEq

namespace Found

def withPoint : Decimal.Layout :=
  ⟨fun _ => true, ".0"⟩

def boolText (b : Bool) : String :=
  if b then "boolean `true`" else "boolean `false`"

def described : Found → String
  | nothing => "unit value"
  | bool b => boolText b
  | int n => "64-bit integer `" ++ toString n ++ "`"
  | word n => "64-bit unsigned integer `" ++ toString n ++ "`"
  | float x => "floating point `" ++ Decimal.Layout.plain.write x ++ "`"
  | text s => "string " ++ Text.Quoted.encode s
  | sequence => "sequence"
  | map => "map"

def named : Found → String
  | int n => "integer `" ++ toString n ++ "`"
  | word n => "integer `" ++ toString n ++ "`"
  | float x => "floating point `" ++ withPoint.write x ++ "`"
  | found => found.described

end Found

inductive Cause where
  | notText
  | fileMissing (path : String)
  | unknownFormat (path : String)
  | malformed (fault : Json.Fault) (file : String)
  /-- What the reader of another format says. -/
  | unparsed (reason file : String)
  | notTable (found : Found) (file : String)
  | mistyped (found : Found) (expected key : String) (origin : Option Origin)
  | misplaced (found : Found) (expected : String)
  | memberMissing (name : String)
  | tooShort (length : Nat) (record : String) (members : Nat)
  | unknownVariant (kind name : String)
  | notVariant (kind : String)
deriving DecidableEq

namespace Cause

def mismatch (found expected : String) : String :=
  "invalid type: " ++ found ++ ", expected " ++ expected

def message : Cause → String
  | notText => "stream did not contain valid UTF-8"
  | fileMissing path => "configuration file \"" ++ path ++ "\" not found"
  | unknownFormat path =>
    "configuration file \"" ++ path ++ "\" is not of a registered file format"
  | malformed fault file => fault.message ++ " in " ++ file
  | unparsed reason file => reason ++ " in " ++ file
  | notTable found file => mismatch found.described "a map" ++ " in " ++ file ++ " in " ++ file
  | mistyped found expected key origin =>
    mismatch found.described expected ++ " for key `" ++ key ++ "`" ++
      (origin.elim "" fun o => " in " ++ o.name)
  | misplaced found expected => mismatch found.named expected
  | memberMissing name => "missing field `" ++ name ++ "`"
  | tooShort length record members =>
    "invalid length " ++ toString length ++ ", expected " ++ record ++ " with " ++
      toString members ++ (if members = 1 then " element" else " elements")
  | unknownVariant kind name =>
    "enum " ++ kind ++ " does not have variant constructor " ++ name
  | notVariant kind =>
    "value of enum " ++ kind ++
      " should be represented by either string or table with exactly one key"

end Cause

end ErpGateway.Config
