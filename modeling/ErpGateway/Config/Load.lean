import ErpGateway.Config.DotEnv
import ErpGateway.Config.Path
import ErpGateway.Files
import ErpGateway.Json.Fault.Find

/-!
Loading a configuration: a file in one of the formats at hand, and over it the variables of the
environment that carry the gateway's name. A `.env` file adds to the environment first.
-/
namespace ErpGateway.Config

open Text (Octets)

def variableStem : List Char := "erpgw_".toList

def settingName? (name : String) : Option String :=
  let folded := (Value.foldKey name).toList
  if variableStem.isPrefixOf folded then
    some (String.ofList (Text.replaceAll "__".toList ".".toList (folded.drop variableStem.length)))
  else none

def settingsOf (environment : DotEnv.Environment) : List (String × Value) :=
  environment.filterMap fun e => (settingName? e.1).map fun name =>
    (name, .plain (some .environment) (Value.ofText e.2))

def settingVariables : List String :=
  let nested (table : String) (shape : Shape) :=
    shape.names.map fun ns => table ++ "__" ++ ns.headD ""
  let names := Reading.configurationShape.names.map (·.headD "") ++
    nested "db" Reading.databaseShape ++ nested "pricing" Reading.pricingShape ++
    nested "limits" Reading.limitsShape ++ nested "logging" Reading.loggingShape
  names.map fun name => "ERPGW_" ++ Text.uppered name

structure Format where
  extensions : List String
  read : String → Octets → Except Cause (List (String × Value))

def Format.json : Format where
  extensions := ["json"]
  read name content :=
    match Text.ofUtf8? content with
    | none => .error .notText
    | some _ =>
      match Json.parse content with
      | .ok (.object members) => .ok (Value.ofMembers (some (.file name)) members)
      | .ok v => .error (.notTable (Value.ofJson none v).found name)
      | .error fault => .error (.malformed fault name)

def ownFormats : List Format :=
  [.json]

structure Source where
  name : String
  content : Octets
  format : Format

def Source.settings (s : Source) : Except Cause (List (String × Value)) :=
  s.format.read s.name s.content

def Source.configuration (s : Source) (environment : DotEnv.Environment) :
    Except Cause Configuration := do
  let settings ← s.settings
  let merged := Value.overlay (settingsOf environment) (Value.overlay settings (.table none []))
  valueReading.configuration { value := merged }

/-- What follows the last point of a file name that does not start with this point. -/
def extensionOf (name : String) : String :=
  match Text.splitLast '.' name.toList with
  | some (_ :: _, after) => String.ofList after
  | _ => ""

def formatOf? (formats : List Format) (name : String) : Option Format :=
  formats.find? fun format => format.extensions.contains (extensionOf name)

def extended? (files : Files) (formats : List Format) (above : Place) (name : String) :
    Option (String × Format × Octets) :=
  (formats.flatMap fun format => format.extensions.map (·, format)).findSome?
    fun e => (files.read? (above ++ [name ++ "." ++ e.1])).map fun content => (e.1, e.2, content)

/-- The file of a path that leads to `place`; where there is no file, one with an extension added. -/
def source (files : Files) (path : String) (place : Place) (formats : List Format := ownFormats) :
    Except Cause Source :=
  let way := Files.way path
  let name := "/".intercalate way
  match place.getLast?, files.read? place with
  | none, _ => .error (.fileMissing path)
  | some last, some content =>
    match formatOf? formats last with
    | some format => .ok ⟨name, content, format⟩
    | none => .error (.unknownFormat path)
  | some last, none =>
    match extended? files formats place.dropLast last with
    | some (extension, format, content) =>
      if way.getLast?.any Files.isUp then .error (.fileMissing path)
      else .ok ⟨name ++ "." ++ extension, content, format⟩
    | none => .error (.fileMissing path)

def environmentOf (files : Files) (environment : DotEnv.Environment) : DotEnv.Environment :=
  match files.read? [".env"] with
  | some content => DotEnv.load environment content
  | none => environment

def load (files : Files) (environment : DotEnv.Environment) (path : String)
    (formats : List Format := ownFormats) : Except Problem Configuration :=
  match (files.place? path).filter files.isThere with
  | none => .error (.missing path)
  | some place => do
    let source ← (source files path place formats).mapError .unreadable
    let c ← (source.configuration (environmentOf files environment)).mapError .unreadable
    c.checked

end ErpGateway.Config
