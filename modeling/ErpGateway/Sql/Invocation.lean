import ErpGateway.Sql.Statement

/-!
Named parameters for a driver that binds by position. The text and its declarations are the first
two values of a nested `sp_executesql` call, and the named values follow.
-/
namespace ErpGateway.Sql

structure Invocation where
  sql : String
  values : List Scalar
deriving DecidableEq

def Scalar.declaredType : Scalar → String
  | .bool _ => "bit"
  | .int _ => "bigint"
  | .float _ => "float"
  | .null | .text _ => "nvarchar(max)"

namespace Invocation

def declaration (p : String × Scalar) : String :=
  "@" ++ p.1 ++ " " ++ p.2.declaredType

/-- The assignment of the `i`-th parameter; two values come before it, and positions count from 1. -/
def assignment (p : String × Scalar) (i : Nat) : String :=
  "@" ++ p.1 ++ " = @P" ++ String.ofList (Decimal.digits (i + 3))

def ofParams (text : String) (params : Bindings) : Invocation :=
  if params.isEmpty then ⟨text, []⟩
  else
    ⟨"EXEC sp_executesql @P1, @P2, " ++
        ", ".intercalate (params.zipIdx.map fun p => assignment p.1 p.2),
      .text text :: .text (", ".intercalate (params.map declaration)) :: params.map Prod.snd⟩

end Invocation

end ErpGateway.Sql
