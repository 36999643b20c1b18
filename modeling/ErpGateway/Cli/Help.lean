namespace ErpGateway.Cli

inductive Command where
  | serve
  | setPassword
deriving DecidableEq, Repr

namespace Command

def name : Command → String
  | serve => "serve"
  | setPassword => "set-db-password"

def about : Command → String
  | serve => "Run the gateway (default)"
  | setPassword => "Store the database password for the configured ERP, read from stdin"

end Command

inductive Named where
  | command (c : Command)
  | help
deriving DecidableEq, Repr

namespace Named

def all : List Named :=
  [.command .serve, .command .setPassword, .help]

def name : Named → String
  | command c => c.name
  | help => "help"

def ofName? (s : String) : Option Named :=
  all.find? fun n => n.name == s

theorem ofName?_name (n : Named) : ofName? n.name = some n := by
  rcases n with (_ | _) | _ <;> decide

end Named

def lines (texts : List String) : String :=
  String.join (texts.map (· ++ "\n"))

def programName : String := "erpgw"

def programUsage : String := programName ++ " [OPTIONS] [COMMAND]"

def commandUsage (c : Command) : String :=
  programName ++ " " ++ c.name

def helpUsage : String := programName ++ " help [COMMAND]..."

def helpAbout : String := "Print this message or the help of the given subcommand(s)"

def programHelp : String :=
  lines [
    "ERP gateway - read-only SQL and price/stock over HTTP",
    "",
    "Usage: " ++ programUsage,
    "",
    "Commands:",
    "  serve            " ++ Command.serve.about,
    "  set-db-password  " ++ Command.setPassword.about,
    "  help             " ++ helpAbout,
    "",
    "Options:",
    "  -c, --config <CONFIG>  Path to the config file (YAML, TOML or JSON) [default: erpgw.yaml]",
    "  -h, --help             Print help"]

def commandHelp (c : Command) : String :=
  lines [c.about, "", "Usage: " ++ commandUsage c, "", "Options:", "  -h, --help  Print help"]

def helpHelp : String :=
  lines [
    helpAbout,
    "",
    "Usage: " ++ helpUsage,
    "",
    "Arguments:",
    "  [COMMAND]...  Print help for the subcommand(s)"]

end ErpGateway.Cli
