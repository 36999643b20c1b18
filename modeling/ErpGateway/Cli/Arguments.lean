import ErpGateway.Cli.Complaint

/-!
Arguments of the command line: an option for the configuration file, then a command. The argument behind
the option may be its value. This value is looked at when another option that is known comes, and at
the end.
-/
namespace ErpGateway.Cli

structure Arguments where
  config : String := "erpgw.yaml"
  command : Command := .serve
deriving DecidableEq, Repr

inductive Parsed where
  | run (arguments : Arguments)
  | help (text : String)
  | wrong (text : String)
deriving DecidableEq, Repr

inductive Shape where
  | config (value : Option String)
  | help (value : Option String)
  | end_
  | short (letter : Char)
  | long (name : String)
  | word (text : String)
deriving DecidableEq, Repr

def attached : List Char → Option String
  | [] => none
  | '=' :: rest => some (String.ofList rest)
  | rest => some (String.ofList rest)

def longParts (cs : List Char) : String × Option String :=
  let name := cs.takeWhile (· != '=')
  match cs.drop name.length with
  | [] => (String.ofList name, none)
  | _ :: value => (String.ofList name, some (String.ofList value))

def shapeOf (argument : String) : Shape :=
  match argument.toList with
  | ['-', '-'] => .end_
  | '-' :: '-' :: rest =>
    match longParts rest with
    | ("config", value) => .config value
    | ("help", value) => .help value
    | (name, _) => .long name
  | ['-'] => .word argument
  | '-' :: 'c' :: rest => .config (attached rest)
  | '-' :: 'h' :: _ => .help none
  | '-' :: c :: _ => .short c
  | _ => .word argument

def shortOption (letter : Char) : String :=
  String.ofList ['-', letter]

def afterCommand (c : Command) : List String → Option Parsed
  | [] => none
  | argument :: rest =>
    let usage := commandUsage c
    match shapeOf argument with
    | .end_ => rest.head?.map fun word => .wrong (unexpected usage word)
    | .help none => some (.help (commandHelp c))
    | .help (some value) => some (.wrong (helpValue (usageWith usage usage [helpOption]) value))
    | .config _ =>
      if "--".toList.isPrefixOf argument.toList then
        some (.wrong (unknownOption usage usage ["help"] [] "config"))
      else some (.wrong (unexpected usage (shortOption 'c')))
    | .short letter => some (.wrong (unexpected usage (shortOption letter)))
    | .long name => some (.wrong (unknownOption usage usage ["help"] [] name))
    | .word text => some (.wrong (unexpected usage text))

def helpFor : List String → Parsed
  | [] => .help programHelp
  | name :: rest =>
    match Named.ofName? name, rest with
    | some (.command c), [] => .help (commandHelp c)
    | some (.command c), word :: _ => .wrong (noHelpFor (commandUsage c) word)
    | some .help, [] => .help helpHelp
    | some .help, word :: _ => .wrong (noHelpBehindHelp word)
    | none, _ => .wrong (noHelpFor programUsage name)

inductive Pending where
  | none
  | awaited
  | value (text : String)
deriving DecidableEq, Repr

structure Progress where
  stored : Option String := none
  pending : Pending := .none
deriving DecidableEq, Repr

namespace Progress

def store (p : Progress) (value : String) : Except String Progress :=
  if p.stored.isSome then .error repeated
  else if value.isEmpty then .error valueMissing
  else .ok ⟨some value, .none⟩

def settle (p : Progress) : Except String Progress :=
  match p.pending with
  | .none => .ok p
  | .awaited => .error valueMissing
  | .value text => p.store text

def storedOptions (p : Progress) : List String :=
  if p.stored.isSome then [configOption] else []

def usedOptions (p : Progress) : List String :=
  match p.pending with
  | .none | .awaited => p.storedOptions
  | .value _ => if p.stored.isSome then [] else [configOption]

def finish (p : Progress) (c : Command) : Parsed :=
  match p.settle with
  | .ok q => .run ⟨q.stored.getD "erpgw.yaml", c⟩
  | .error text => .wrong text

end Progress

def parseFrom (p : Progress) : List String → Parsed
  | [] => p.finish .serve
  | argument :: rest =>
    match if p.pending = .awaited then none else Named.ofName? argument with
    | some .help => helpFor rest
    | some (.command c) => (afterCommand c rest).getD (p.finish c)
    | none =>
      match shapeOf argument with
      | .config (some value) =>
        match p.settle.bind fun q => q.store value with
        | .ok q => parseFrom q rest
        | .error text => .wrong text
      | .config none =>
        match p.settle with
        | .ok q => parseFrom { q with pending := .awaited } rest
        | .error text => .wrong text
      | .help none =>
        match p.settle with
        | .ok _ => .help programHelp
        | .error text => .wrong text
      | .help (some value) =>
        .wrong (helpValue (usageWith programUsage programName (p.storedOptions ++ [helpOption])) value)
      | .end_ =>
        match rest with
        | [] => p.finish .serve
        | word :: _ =>
          match Named.ofName? word with
          | some n => .wrong (hiddenCommand n)
          | none => .wrong (unrecognized word)
      | .short letter => .wrong (unexpected programUsage (shortOption letter))
      | .long name =>
        .wrong (unknownOption programUsage programName ["config", "help"] p.usedOptions name)
      | .word text =>
        if p.pending = .awaited then parseFrom { p with pending := .value text } rest
        else .wrong (unrecognized text)

def parse (arguments : List String) : Parsed :=
  parseFrom {} arguments

end ErpGateway.Cli
