import ErpGateway.Gate.ReadOnly
import ErpGateway.Gate.RowControl
import ErpGateway.Gate.Parameter

namespace ErpGateway.Gate

structure Query where
  text : String
  parameters : Json.Members

structure Admission where
  text : String
  bindings : Sql.Bindings
deriving DecidableEq

def admission (query : Query) : Except Rejection Admission := do
  check query.text
  let bindings ← bindParameters query.parameters (rowControls query.text)
  return ⟨Text.trimmed query.text, bindings⟩

end ErpGateway.Gate
