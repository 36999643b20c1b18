import ErpGateway.Cli.Help
import ErpGateway.Text.ControlSequence
import ErpGateway.Text.Similarity

namespace ErpGateway.Cli

def closing : List String := ["", "For more information, try '--help'."]

def withUsage (error : String) (tips : List String) (usage : String) : List String :=
  ("error: " ++ error) :: tips ++ ["", "Usage: " ++ usage]

def complaint (error : String) (tips : List String) (usage : String) : String :=
  lines (withUsage error tips usage ++ closing)

def inQuotes (s : String) : String :=
  "'" ++ s ++ "'"

def shown (argument : String) : String :=
  inQuotes (Text.ControlSequence.removed argument)

def tipFor (what : String) : List String → List String
  | [] => []
  | [name] => ["", "  tip: a similar " ++ what ++ " exists: " ++ inQuotes name]
  | names =>
    ["", "  tip: some similar " ++ what ++ "s exist: " ++ ", ".intercalate (names.map inQuotes)]

def unexpected (usage argument : String) : String :=
  complaint ("unexpected argument " ++ shown argument ++ " found") [] usage

def notRecognized (argument : String) : String :=
  "unrecognized subcommand " ++ shown argument

def unrecognized (argument : String) : String :=
  complaint (notRecognized argument)
    (tipFor "subcommand" (Text.alike (Named.all.map Named.name) argument)) programUsage

def noHelpFor (usage argument : String) : String :=
  complaint (notRecognized argument) [] usage

def noHelpBehindHelp (argument : String) : String :=
  lines (withUsage (notRecognized argument) [] helpUsage)

def hiddenCommand (n : Named) : String :=
  complaint ("unexpected argument " ++ inQuotes n.name ++ " found")
    ["", "  tip: subcommand " ++ inQuotes n.name ++ " exists; to use it, remove the '--' before it"]
    programUsage

def configOption : String := "--config <CONFIG>"

def helpOption : String := "--help"

def usageWith (usage bare : String) (options : List String) : String :=
  if options.isEmpty then usage else " ".intercalate (bare :: options)

def unknownOption (usage bare : String) (known used : List String) (name : String) : String :=
  let meant := (Text.alike known name).getLast?.toList
  let options := meant.map fun option => if option = "config" then configOption else "--" ++ option
  complaint ("unexpected argument " ++ shown ("--" ++ name) ++ " found")
    (tipFor "argument" (meant.map ("--" ++ ·)))
    (usageWith usage bare (used ++ options.filter fun option => !used.contains option))

def valueMissing : String :=
  lines (("error: a value is required for " ++ inQuotes configOption ++
    " but none was supplied") :: closing)

def repeated : String :=
  complaint ("the argument " ++ inQuotes configOption ++ " cannot be used multiple times") []
    programUsage

def helpValue (usage value : String) : String :=
  complaint ("unexpected value " ++ shown value ++
    " for '--help' found; no more were expected") [] usage

end ErpGateway.Cli
