import ErpGateway.Text.Utf8

namespace ErpGateway.Json

open Text (Octets)

inductive Fault.Reason where
  | endInArray | endInObject | endInText | endInValue
  | colonMissing | itemEndMissing | memberEndMissing
  | unknownWord | valueMissing
  | badEscape | loneSurrogate | escapeEnds | controlCharacter
  | badNumber | numberTooLarge
  | keyNotText | trailingComma | trailingText | tooDeep
  | notEmbedded (found : String)
deriving DecidableEq, Repr

structure Fault where
  reason : Fault.Reason
  line : Nat
  column : Nat
deriving DecidableEq, Repr

namespace Fault

def Reason.message : Reason → String
  | endInArray => "EOF while parsing a list"
  | endInObject => "EOF while parsing an object"
  | endInText => "EOF while parsing a string"
  | endInValue => "EOF while parsing a value"
  | colonMissing => "expected `:`"
  | itemEndMissing => "expected `,` or `]`"
  | memberEndMissing => "expected `,` or `\x7d`"
  | unknownWord => "expected ident"
  | valueMissing => "expected value"
  | badEscape => "invalid escape"
  | loneSurrogate => "lone leading surrogate in hex escape"
  | escapeEnds => "unexpected end of hex escape"
  | controlCharacter => "control character (\\u0000-\\u001F) found while parsing a string"
  | badNumber => "invalid number"
  | numberTooLarge => "number out of range"
  | keyNotText => "key must be a string"
  | trailingComma => "trailing comma"
  | trailingText => "trailing characters"
  | tooDeep => "recursion limit exceeded"
  | notEmbedded found => "invalid type: " ++ found ++ ", expected raw value"

def message (f : Fault) : String :=
  f.reason.message ++ " at line " ++ toString f.line ++ " column " ++ toString f.column

def ofIndex (reason : Reason) (text : Octets) (index : Nat) : Fault :=
  let before := text.take index
  ⟨reason, before.count 0x0A + 1, (before.reverse.takeWhile (· != 0x0A)).length⟩

end Fault

end ErpGateway.Json
