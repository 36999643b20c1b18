import ErpGateway.Failure
import ErpGateway.Files
import ErpGateway.Text.Blank

namespace ErpGateway.Secret

open Text (Octets)

inductive Problem where
  | missing (key : String)
  | notText (key : String)
  | unreachable (key reason : String)
deriving DecidableEq, Repr

namespace Problem

def message : Problem → String
  | missing key => "secret '" ++ key ++ "' not found"
  | notText key => "secret '" ++ key ++ "' is not valid UTF-8"
  | unreachable key reason => "secret store I/O failed for '" ++ key ++ "': " ++ reason

def kind : Problem → FailureKind
  | unreachable _ _ => .storage
  | _ => .configuration

def toFailure (p : Problem) : Failure :=
  ⟨p.kind, some "load_secret", p.message, none⟩

end Problem

def isSafe (c : Char) : Bool :=
  c.isAlphanum || c == '.' || c == '_' || c == '-'

def stem (key : String) : String :=
  match (Text.trim key.toList).map fun c => if isSafe c then c else '_' with
  | [] => "empty"
  | cs => String.ofList cs

def fileName (key : String) : String :=
  stem key ++ ".bin"

def withoutSilentEnd : List String → List String
  | [] => []
  | first :: rest =>
    first :: (rest.reverse.dropWhile fun part => part == "" || part == ".").reverse

def parent? (path : String) : Option String :=
  match withoutSilentEnd (Files.partsOf path) with
  | [] | [""] => none
  | parts =>
    match withoutSilentEnd parts.dropLast with
    | [] => some ""
    | [""] => some "/"
    | above => some ("/".intercalate above)

def joined (directory name : String) : String :=
  if directory.toList.getLast? = some '/' then directory ++ name else directory ++ "/" ++ name

def directoryBeside (configPath : String) : String :=
  let base := (parent? configPath).getD ""
  joined (if base.isEmpty then "." else base) "secrets"

def pathBeside (configPath key : String) : String :=
  joined (directoryBeside configPath) (fileName key)

def fileMode : Nat := 0o600

def nameLimit : Nat := 255

def nameTooLong : String := "File name too long (os error 36)"
def notDirectory : String := "Not a directory (os error 20)"
def fileExists : String := "File exists (os error 17)"
def isADirectory : String := "Is a directory (os error 21)"

def isTooLong (key : String) : Bool :=
  nameLimit < (fileName key).utf8ByteSize

def get (files : Files) (directory : Place) (key : String) : Except Problem Octets :=
  let place := directory ++ [fileName key]
  if files.isBlocked place then .error (.unreachable key notDirectory)
  else if !files.isDirectory directory then .error (.missing key)
  else if isTooLong key then .error (.unreachable key nameTooLong)
  else
    match files.read? place with
    | some content => .ok content
    | none =>
      if files.isDirectory place then .error (.unreachable key isADirectory)
      else .error (.missing key)

structure Stored where
  files : Files
  problem : Option Problem := none

def put (files : Files) (directory : Place) (key : String) (value : Octets) : Stored :=
  let place := directory ++ [fileName key]
  if isTooLong key then ⟨files, some (.unreachable key nameTooLong)⟩
  else if files.isDirectory place then ⟨files, some (.unreachable key isADirectory)⟩
  else ⟨files.write place value, none⟩

def set (files : Files) (directory : Place) (key : String) (value : Octets) : Stored :=
  if files.isFile directory then ⟨files, some (.unreachable key fileExists)⟩
  else if files.isBlocked directory then ⟨files, some (.unreachable key notDirectory)⟩
  else put (files.makeDirectory directory) directory key value

def password (files : Files) (directory : Place) (key : String) (given : Option String) :
    Except Problem String :=
  match given with
  | some p => .ok p
  | none =>
    match get files directory key with
    | .ok octets =>
      match Text.ofUtf8? octets with
      | some p => .ok p
      | none => .error (.notText key)
    | .error (.missing _) => .ok ""
    | .error problem => .error problem

end ErpGateway.Secret
