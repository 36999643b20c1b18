import ErpGateway.Decimal.Layout
import ErpGateway.Json.Fault.Token

namespace ErpGateway.Json

open Text (Octets)

namespace Fault

def foundAt (first : UInt8) (spelling : Octets) : String :=
  if first = 0x6E then "null"
  else if first = 0x74 then "boolean `true`"
  else if first = 0x66 then "boolean `false`"
  else if first = 0x5B then "sequence"
  else if first = 0x7B then "map"
  else
    match numberOf? spelling with
    | some (.int n) => "integer `" ++ toString n ++ "`"
    | some (.float x) => "floating point `" ++ Decimal.Layout.json.write x ++ "`"
    | none => ""

mutual

def pastValue (nested : Octets → Option Fault) : (fuel depth : Nat) → Octets → Walk
  | 0, _, _ => stop .endInValue []
  | fuel + 1, depth, octets =>
    match skipSpace octets with
    | [] => stop .endInValue []
    | b :: rest =>
      if let some word := Reader.wordAfter b then pastWord word.1 rest
      else if b = 0x2D || isDigitOctet b then pastNumber (b :: rest)
      else if b = 0x22 then (textAndRest rest).map Prod.snd
      else if b = 0x5B then
        match depth with
        | 0 => stopAfterNext .tooDeep (b :: rest)
        | depth + 1 => pastItems nested fuel depth true rest
      else if b = 0x7B then
        match depth with
        | 0 => stopAfterNext .tooDeep (b :: rest)
        | depth + 1 => pastMembers nested fuel depth true rest
      else stopAfterNext .valueMissing (b :: rest)

def pastItems (nested : Octets → Option Fault) : (fuel depth : Nat) → (first : Bool) → Octets → Walk
  | 0, _, _, _ => stop .endInArray []
  | fuel + 1, depth, first, octets =>
    match skipSpace octets with
    | [] => stop .endInArray []
    | b :: rest =>
      if b = 0x5D then .ok rest
      else if first then do
        pastItems nested fuel depth false (← pastValue nested fuel depth (b :: rest))
      else if b != 0x2C then stopAfterNext .itemEndMissing (b :: rest)
      else
        match skipSpace rest with
        | [] => stop .endInValue []
        | c :: rest =>
          if c = 0x5D then stopAfterNext .trailingComma (c :: rest)
          else do pastItems nested fuel depth false (← pastValue nested fuel depth (c :: rest))

def pastMembers (nested : Octets → Option Fault) :
    (fuel depth : Nat) → (first : Bool) → Octets → Walk
  | 0, _, _, _ => stop .endInObject []
  | fuel + 1, depth, first, octets =>
    match skipSpace octets with
    | [] => stop .endInObject []
    | b :: rest =>
      if b = 0x7D then .ok rest
      else if first then
        if b = 0x22 then pastMember nested fuel depth true rest
        else stopAfterNext .keyNotText (b :: rest)
      else if b != 0x2C then stopAfterNext .memberEndMissing (b :: rest)
      else
        match skipSpace rest with
        | [] => stop .endInValue []
        | c :: rest =>
          if c = 0x22 then pastMember nested fuel depth false rest
          else if c = 0x7D then stopAfterNext .trailingComma (c :: rest)
          else stopAfterNext .keyNotText (c :: rest)

def pastMember (nested : Octets → Option Fault) :
    (fuel depth : Nat) → (first : Bool) → Octets → Walk
  | 0, _, _, _ => stop .endInObject []
  | fuel + 1, depth, first, octets => do
    let (key, rest) ← textAndRest octets
    match skipSpace rest with
    | [] => stop .endInObject []
    | b :: rest =>
      if b != 0x3A then stopAfterNext .colonMissing (b :: rest)
      else if first && textOf? key = some embeddingKey then pastEmbedded nested fuel depth rest
      else do pastMembers nested fuel depth false (← pastValue nested fuel depth rest)

def pastEmbedded (nested : Octets → Option Fault) : (fuel depth : Nat) → Octets → Walk
  | 0, _, _ => stop .endInObject []
  | fuel + 1, depth, octets =>
    match skipSpace octets with
    | [] => stop .endInValue []
    | b :: rest =>
      if b != 0x22 then
        if b = 0x5B || b = 0x7B then stop (.notEmbedded (foundAt b [])) (b :: rest)
        else do
          let after ← pastValue nested fuel depth (b :: rest)
          let spelling := (b :: rest).take (rest.length + 1 - after.length)
          stop (.notEmbedded (foundAt b spelling)) after
      else do
        let (spelling, rest) ← textAndRest rest
        match (textOf? spelling).bind fun inner => nested (Text.utf8 inner) with
        | some fault => .error (.embedded fault)
        | none =>
          match skipSpace rest with
          | [] => stop .endInObject []
          | c :: rest =>
            if c = 0x7D then .ok rest
            else if c = 0x2C then stopAfterNext .trailingComma (c :: rest)
            else stopAfterNext .trailingText (c :: rest)

end

def pastDocument (nested : Octets → Option Fault) (octets : Octets) : Except Stop Unit := do
  match skipSpace (← pastValue nested (2 * octets.length + 2) depthLimit octets) with
  | [] => return ()
  | b :: rest => stopAfterNext .trailingText (b :: rest)

def findWithin : (levels : Nat) → Octets → Option Fault
  | 0, _ => none
  | levels + 1, octets =>
    match pastDocument (findWithin levels) octets with
    | .ok _ => none
    | .error (.here reason left) => some (ofIndex reason octets (octets.length - left))
    | .error (.embedded fault) => some fault

def find? (octets : Octets) : Option Fault :=
  findWithin (octets.length + 1) octets

end Fault

def parse (octets : Octets) : Except Fault Json :=
  match ofOctets? octets with
  | some v => .ok v
  | none => .error ((Fault.find? octets).getD ⟨.valueMissing, 1, 0⟩)

theorem parse_eq_ok_iff {octets : Octets} {v : Json} :
    parse octets = .ok v ↔ ofOctets? octets = some v := by
  cases h : ofOctets? octets <;> simp [parse, h]

end ErpGateway.Json
