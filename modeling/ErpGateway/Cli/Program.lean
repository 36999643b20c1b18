import ErpGateway.Cli.Arguments
import ErpGateway.Config.Load
import ErpGateway.Secret

namespace ErpGateway.Cli

open Config (Configuration)
open Text (Octets)

structure Start where
  arguments : List String := []
  environment : Config.DotEnv.Environment := []
  input : Octets := []
  files : Files := []

inductive Finish where
  | exit (code : Nat) (stdout stderr : String) (files : Files)
  | serve (configuration : Configuration) (password : String)

def passwordVariable : String := "ERPGW_DB_PASSWORD"

namespace Start

def failed (s : Start) (message : String) : Finish :=
  .exit 1 "" ("Error: " ++ message ++ "\n") s.files

def secretMessage (p : Secret.Problem) : String :=
  match p with
  | .unreachable _ reason => p.message ++ ": " ++ reason
  | _ => p.message

def firstLine? (s : Start) : Option String :=
  (Text.ofUtf8? (s.input.takeWhile (· != 0x0A))).map fun line =>
    String.ofList ((line.toList.reverse.dropWhile (· == '\r')).reverse)

def secretPlace (s : Start) (config : String) : Place :=
  (s.files.place? (Secret.directoryBeside config)).getD ["secrets"]

def setPassword (s : Start) (config : String) (c : Configuration) : Finish :=
  match s.firstLine? with
  | none =>
    s.failed "failed to read password from stdin: stream did not contain valid UTF-8"
  | some line =>
    let stored := Secret.set s.files (s.secretPlace config) c.passwordKey (Text.utf8 line)
    match stored.problem with
    | some problem => { s with files := stored.files }.failed (secretMessage problem)
    | none => .exit 0 ("Stored " ++ c.passwordKey ++ "\n") "" stored.files

def serve (s : Start) (config : String) (c : Configuration) : Finish :=
  let given := (Config.environmentOf s.files s.environment).get? passwordVariable
  match Secret.password s.files (s.secretPlace config) c.passwordKey given with
  | .error problem => s.failed (secretMessage problem)
  | .ok password => .serve c password

def run (s : Start) (a : Arguments) (formats : List Config.Format := Config.ownFormats) : Finish :=
  match Config.load s.files s.environment a.config formats with
  | .error problem => s.failed problem.account
  | .ok c =>
    match a.command with
    | .serve => s.serve a.config c
    | .setPassword => s.setPassword a.config c

def finish (s : Start) (formats : List Config.Format := Config.ownFormats) : Finish :=
  match parse s.arguments with
  | .run arguments => s.run arguments formats
  | .help text => .exit 0 text "" s.files
  | .wrong text => .exit 2 "" text s.files

end Start

end ErpGateway.Cli
