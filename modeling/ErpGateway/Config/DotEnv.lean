import ErpGateway.Keyed
import ErpGateway.Text.Blank
import ErpGateway.Text.CharClass
import ErpGateway.Text.Utf8

/-!
Files of environment variables: a variable to a line, its value bare or quoted, with a name after `$`,
in braces or not, standing for another variable. Reading stops at the first line that is malformed.
-/
namespace ErpGateway.Config.DotEnv

open Text (Octets)

abbrev Environment := Keyed String String

inductive LineState where
  | plain | blank | escape | single | singleEscape | double | doubleEscape | comment
deriving DecidableEq, Repr

namespace LineState

def open? (c : Char) : LineState :=
  if c = '\\' then escape else if c = '"' then double else if c = '\'' then single else plain

def next (s : LineState) (c : Char) : LineState :=
  match s with
  | plain => if Text.isBlank c && c != '\n' && c != '\r' then blank else open? c
  | blank => if c = '#' then comment else open? c
  | escape => plain
  | double => if c = '\\' then doubleEscape else if c = '"' then plain else double
  | doubleEscape => double
  | single => if c = '\\' then singleEscape else if c = '\'' then plain else single
  | singleEscape => single
  | comment => comment

end LineState

def scan (s : LineState) : List Char → LineState × List Char
  | [] => (s, [])
  | c :: rest =>
    let s' := s.next c
    if s' = .comment then (.comment, [])
    else
      let scanned := scan s' rest
      (scanned.1, c :: scanned.2)

def withoutLineEnd (cs : List Char) : List Char :=
  match cs.reverse with
  | '\n' :: '\r' :: rest => rest.reverse
  | '\n' :: rest => rest.reverse
  | _ => cs

def physicalFrom (line : List UInt8) : Octets → List Octets
  | [] => if line.isEmpty then [] else [line.reverse]
  | b :: rest =>
    if b = 0x0A then (b :: line).reverse :: physicalFrom [] rest
    else physicalFrom (b :: line) rest

/-- Joins lines as long as a quote is open; `none` marks the place where reading stops. -/
def logicalFrom (pending : List Char) (s : LineState) : List Octets → List (Option (List Char))
  | [] => if s = .plain then [] else [none]
  | octets :: rest =>
    match Text.ofUtf8? octets with
    | none => [none]
    | some line =>
      let buffer := pending ++ line.toList
      if (Text.trimLeft buffer).head? = some '#' then some [] :: logicalFrom [] .plain rest
      else
        let scanned := scan s line.toList
        match scanned.1 with
        | .plain => some (withoutLineEnd buffer) :: logicalFrom [] .plain rest
        | .comment => some (pending ++ scanned.2) :: logicalFrom [] .plain rest
        | s' => logicalFrom buffer s' rest

inductive ValueState where
  | bare
  | single
  | double
  | escape (quoted : Bool)
  | reference (quoted : Bool) (name : List Char)
  | braced (quoted : Bool) (name : List Char)
  | ended
  | comment
deriving DecidableEq, Repr

structure Known where
  environment : Environment
  written : Environment := []

def Known.text (k : Known) (name : List Char) : List Char :=
  let name := String.ofList name
  ((k.environment.get? name).getD ((k.written.get? name).getD "")).toList

def unquoted (quoted : Bool) : ValueState :=
  if quoted then .double else .bare

def escaped? (c : Char) : Option Char :=
  if c = 'n' then some '\n'
  else if c = '\\' || c = '\'' || c = '"' || c = '$' || c = ' ' then some c
  else none

def ValueState.next (k : Known) (s : ValueState) (c : Char) : Option (ValueState × List Char) :=
  match s with
  | ended =>
    if c = ' ' || c = '\t' then some (ended, []) else if c = '#' then some (comment, []) else none
  | comment => some (comment, [])
  | escape quoted => (escaped? c).map fun e => (unquoted quoted, [e])
  | single => if c = '\'' then some (bare, []) else some (single, [c])
  | reference quoted name =>
    if Text.isAlphanumeric c then some (reference quoted (name ++ [c]), [])
    else if c = '\x7b' && name.isEmpty then some (braced quoted [], [])
    else if c = '$' then some (reference quoted [], k.text name)
    else some (unquoted quoted, k.text name ++ [c])
  | braced quoted name =>
    if c = '\x7d' then some (unquoted quoted, k.text name)
    else some (braced quoted (name ++ [c]), [])
  | double =>
    if c = '$' then some (reference true [], [])
    else if c = '"' then some (bare, [])
    else if c = '\\' then some (escape true, [])
    else some (double, [c])
  | bare =>
    if c = '$' then some (reference false [], [])
    else if c = '\'' then some (single, [])
    else if c = '"' then some (double, [])
    else if c = '\\' then some (escape false, [])
    else if c = ' ' || c = '\t' then some (ended, [])
    else some (bare, [c])

def ValueState.finish (k : Known) : ValueState → Option (List Char)
  | bare | ended | comment | escape false => some []
  | reference false name => some (k.text name)
  | _ => none

def value? (k : Known) (s : ValueState) : List Char → Option (List Char)
  | [] => s.finish k
  | c :: rest => do
    let (s', added) ← s.next k c
    let more ← value? k s' rest
    return added ++ more

def isNameHead (c : Char) : Bool :=
  c.isAlpha || c == '_'

def isNameTail (c : Char) : Bool :=
  c.isAlphanum || c == '_' || c == '.'

def name? (cs : List Char) : Option (List Char × List Char) :=
  if (cs.head?).any isNameHead then
    some (cs.takeWhile isNameTail, Text.trimLeft (cs.dropWhile isNameTail))
  else none

def assignment? (cs : List Char) : Option (List Char × List Char) := do
  let (name, rest) ← name? cs
  match rest with
  | '=' :: rest => return (name, rest)
  | _ =>
    if name = "export".toList then
      let (name, rest) ← name? rest
      match rest with
      | '=' :: rest => return (name, rest)
      | _ => none
    else none

inductive LineContent where
  | empty
  | setting (name : String) (value : Option String)

def lineContent? (k : Known) (line : List Char) : Option LineContent :=
  match Text.trim line with
  | [] | '#' :: _ => some .empty
  | cs => do
    let (name, rest) ← assignment? cs
    match Text.trimLeft rest with
    | [] | '#' :: _ => return .setting (String.ofList name) none
    | value => return .setting (String.ofList name) (some (String.ofList (← value? k .bare value)))

def Known.assign (k : Known) (name : String) (value : Option String) : Known where
  environment := match k.environment.get? name with
    | some _ => k.environment
    | none => k.environment.put name (value.getD "")
  written := k.written.put name (value.getD "")

def assignAll (k : Known) : List (Option (List Char)) → Known
  | some line :: rest =>
    match lineContent? k line with
    | some .empty => assignAll k rest
    | some (.setting name value) => assignAll (k.assign name value) rest
    | none => k
  | _ => k

def withoutMark : Octets → Octets
  | 0xEF :: 0xBB :: 0xBF :: rest => rest
  | octets => octets

def load (environment : Environment) (file : Octets) : Environment :=
  (assignAll ⟨environment, []⟩ (logicalFrom [] .plain (physicalFrom [] (withoutMark file)))).environment

end ErpGateway.Config.DotEnv
