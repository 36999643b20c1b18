import ErpGateway.Json.Document
import ErpGateway.Json.Number

namespace ErpGateway.Json

open Text (Octets)

def hexValue (b : UInt8) : Nat :=
  if isDigitOctet b then b.toNat - 0x30
  else if 0x61 ≤ b then b.toNat - 0x57
  else b.toNat - 0x37

def hexQuad (a b c d : UInt8) : Nat :=
  hexValue a * 4096 + hexValue b * 256 + hexValue c * 16 + hexValue d

def isHighSurrogate (n : Nat) : Bool := 0xD800 ≤ n && n ≤ 0xDBFF

def isLowSurrogate (n : Nat) : Bool := 0xDC00 ≤ n && n ≤ 0xDFFF

def shortEscape (b : UInt8) : UInt8 :=
  if b == 0x62 then 0x08
  else if b == 0x66 then 0x0C
  else if b == 0x6E then 0x0A
  else if b == 0x72 then 0x0D
  else if b == 0x74 then 0x09
  else b

def unescape : Octets → Option Octets
  | 0x5C :: 0x75 :: a :: b :: c :: d :: rest =>
    let unit := hexQuad a b c d
    if isLowSurrogate unit then none
    else if isHighSurrogate unit then
      match rest with
      | 0x5C :: 0x75 :: a' :: b' :: c' :: d' :: rest' =>
        let low := hexQuad a' b' c' d'
        if isLowSurrogate low then
          (unescape rest').map
            (Text.encodeCodePoint (0x10000 + (unit - 0xD800) * 1024 + (low - 0xDC00)) ++ ·)
        else none
      | _ => none
    else (unescape rest).map (Text.encodeCodePoint unit ++ ·)
  | 0x5C :: e :: rest => (unescape rest).map (shortEscape e :: ·)
  | b :: rest => (unescape rest).map (b :: ·)
  | [] => some []

def textOf? (spelling : Octets) : Option String :=
  (unescape spelling).bind Text.ofUtf8?

def numberOf? (spelling : Octets) : Option Number :=
  Number.ofText? (spelling.map fun b => Char.ofNat b.toNat)

def depthLimit : Nat := 127

/-- An object that starts with this key and holds a text and nothing else stands for the value that
the text spells. -/
def embeddingKey : String := "$serde_json::private::RawValue"

def embedded? : List (Octets × Document) → Option (Option Octets)
  | [] => none
  | (key, value) :: rest =>
    if textOf? key = some embeddingKey then
      match value, rest with
      | .text spelling, [] => some ((textOf? spelling).map Text.utf8)
      | _, _ => some none
    else none

mutual

def Document.valueBy (nested : Octets → Option Json) (depth : Nat) : Document → Option Json
  | .null => some .null
  | .bool b => some (.bool b)
  | .number spelling => (numberOf? spelling).map .number
  | .text spelling => (textOf? spelling).map .text
  | .array items =>
    if depth < depthLimit then (Document.valuesBy nested (depth + 1) items).map .array else none
  | .object members =>
    if depth < depthLimit then
      match embedded? members with
      | some inner => inner.bind nested
      | none =>
        (Document.memberValuesBy nested (depth + 1) members).map fun ms => .object (Keyed.ofList ms)
    else none

def Document.valuesBy (nested : Octets → Option Json) (depth : Nat) :
    List Document → Option (List Json)
  | [] => some []
  | d :: rest => do
    let v ← Document.valueBy nested depth d
    let vs ← Document.valuesBy nested depth rest
    return v :: vs

def Document.memberValuesBy (nested : Octets → Option Json) (depth : Nat) :
    List (Octets × Document) → Option (List (String × Json))
  | [] => some []
  | (key, d) :: rest => do
    let k ← textOf? key
    let v ← Document.valueBy nested depth d
    let ms ← Document.memberValuesBy nested depth rest
    return (k, v) :: ms

end

def ofOctetsWithin : (levels : Nat) → Octets → Option Json
  | 0, _ => none
  | levels + 1, octets =>
    (Document.read octets).bind (Document.valueBy (ofOctetsWithin levels) 0)

/-- A JSON text and nothing else. An embedded text is shorter than the one it is in. -/
def ofOctets? (octets : Octets) : Option Json :=
  ofOctetsWithin (octets.length + 1) octets

def ofText? (s : String) : Option Json :=
  ofOctets? (Text.utf8 s)

def Document.membersAt? (depth : Nat) (members : List (Octets × Document)) :
    Option (List (String × Json)) :=
  if depth < depthLimit then
    (Document.memberValuesBy ofOctets? (depth + 1) members).map Keyed.ofList
  else none

end ErpGateway.Json
