import ErpGateway.Sql.Scalar
import ErpGateway.Decimal.Integer
import ErpGateway.Text.Search

namespace ErpGateway.Sql

structure Statement where
  text : String
  params : Bindings := []
  maxRows : Option Nat := none
deriving DecidableEq

namespace Statement

def bind (s : Statement) (name : String) (value : Scalar) : Statement :=
  { s with params := s.params ++ [(name, value)] }

def bindAll (s : Statement) (params : Bindings) : Statement :=
  { s with params := s.params ++ params }

def limited (s : Statement) (maxRows : Nat) : Statement :=
  { s with maxRows := some maxRows }

def param? (s : Statement) (name : String) : Option Scalar :=
  (s.params.find? fun p => p.1 == name).map Prod.snd

def itemName (stem : String) (i : Nat) : String :=
  stem ++ "_" ++ String.ofList (Decimal.digits i)

def placeholders (stem : String) (count : Nat) : String :=
  if count = 0 then "NULL"
  else ", ".intercalate ((List.range count).map fun i => "@" ++ itemName stem i)

def listMark (marker : String) : List Char :=
  '\x7b' :: marker.toList ++ ['\x7d']

/-- Binds each value of a list, in order, to its own parameter, and puts these parameters for every
mark of the list. -/
def bindList (s : Statement) (marker stem : String) (values : List Scalar) : Statement where
  text := String.ofList
    (Text.replaceAll (listMark marker) (placeholders stem values.length).toList s.text.toList)
  params := s.params ++ values.zipIdx.map fun v => (itemName stem v.2, v.1)
  maxRows := s.maxRows

end Statement

end ErpGateway.Sql
