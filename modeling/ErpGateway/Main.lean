import ErpGateway.Cli.Program

namespace ErpGateway.Main

def knownVariables : List String :=
  Cli.passwordVariable :: Config.settingVariables

def environment : IO Config.DotEnv.Environment :=
  knownVariables.filterMapM fun name => do
    return (← IO.getEnv name).map fun value => (name, value)

def paths (config : String) : List String :=
  let secrets := [Erp.Backend.hasavshevet, .sap].map fun backend =>
    Secret.pathBeside config ("db_password_" ++ backend.name)
  let extended := Config.ownFormats.flatMap fun format =>
    format.extensions.map fun extension => config ++ "." ++ extension
  [".env", config] ++ extended ++ [Secret.directoryBeside config] ++ secrets

def onward (place : Place) (part : String) : Place :=
  if part = "" || part = "." then place
  else if part = ".." then
    if place = Files.root then place
    else if place.all Files.isUp then place ++ [part]
    else place.dropLast
  else place ++ [part]

def placeOf (path : String) : Place :=
  (Files.partsOf path).foldl onward (if path.toList.head? = some '/' then Files.root else [])

def file? (path : String) : IO (Option (Place × Text.Octets)) := do
  try
    let content ← IO.FS.readBinFile path
    return some (placeOf path, content.toList)
  catch _ => return none

def waysTo (path : String) : List String :=
  let parts := Files.partsOf path
  (List.range parts.length).map fun n => "/".intercalate (parts.take (n + 1))

def directory? (path : String) : IO (Option (Place × Text.Octets)) := do
  try
    let real ← IO.FS.realPath path
    return if ← real.isDir then some (placeOf path ++ [""], []) else none
  catch _ => return none

partial def firstLine (stdin : IO.FS.Stream) (line : Text.Octets) : IO Text.Octets := do
  let octet ← stdin.read 1
  match octet.toList with
  | [b] => if b = 0x0A then return line ++ [b] else firstLine stdin (line ++ [b])
  | _ => return line

def writeSecret (directory : String) (name : String) (content : Text.Octets) : IO Unit := do
  IO.FS.createDirAll directory
  let path := Secret.joined directory name
  IO.FS.writeBinFile path ⟨content.toArray⟩
  IO.setAccessRights path { user := { read := true, write := true } }

def finish (config : String) (before : Files) : Cli.Finish → IO UInt32
  | .exit code stdout stderr files => do
    for (place, content) in files do
      unless before.read? place = some content do
        let name := place.getLast?.getD ""
        unless name.isEmpty do writeSecret (Secret.directoryBeside config) name content
    IO.print stdout
    IO.eprint stderr
    return code.toUInt32
  | .serve c _ => do
    IO.eprintln ("Error: no connection to " ++ c.connection.displayTarget)
    return 1

def run (arguments : List String) : IO UInt32 := do
  let environment ← environment
  let config := match Cli.parse arguments with
    | .run a => a.config
    | _ => ""
  let known ← (waysTo config).filterMapM directory?
  let files := known ++ (← (paths config).filterMapM file?)
  let needsInput : Bool := match Cli.parse arguments with
    | .run a => a.command == .setPassword
    | _ => false
  let input ← if needsInput = true then firstLine (← IO.getStdin) [] else pure []
  let start : Cli.Start := ⟨arguments, environment, input, files⟩
  finish config files start.finish

end ErpGateway.Main

def main (arguments : List String) : IO UInt32 :=
  ErpGateway.Main.run arguments
