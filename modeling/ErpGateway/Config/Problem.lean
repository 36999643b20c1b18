import ErpGateway.Config.Cause
import ErpGateway.Failure

namespace ErpGateway.Config

inductive Problem where
  | missing (path : String)
  | unreadable (cause : Cause)
  | invalid (reason : String)
deriving DecidableEq

namespace Problem

def message : Problem → String
  | missing path => "config file not found at " ++ path
  | unreadable cause => "failed to load config: " ++ cause.message
  | invalid reason => "invalid config: " ++ reason

def account (p : Problem) : String :=
  match p with
  | unreadable cause => p.message ++ ": " ++ cause.message
  | _ => p.message

def toFailure (p : Problem) : Failure :=
  ⟨.configuration, some "load_config", p.message, none⟩

end Problem

end ErpGateway.Config
