import ErpGateway.Text.Utf8

/-!
JSON texts as they are spelled. A document is read octet by octet, so reading a text and then more
octets is reading on from where the text ended.
-/
namespace ErpGateway.Json

open Text (Octets)

inductive Document where
  | null
  | bool (b : Bool)
  | number (spelling : Octets)
  | text (spelling : Octets)
  | array (items : List Document)
  | object (members : List (Octets × Document))

abbrev Document.Members := List (Octets × Document)

/-- Where a number stands: `sign`, `zero` and `whole` before the point, `point` and `fraction` after
it, `mark`, `powerSign` and `power` from the `e` on. -/
inductive NumberPart where
  | sign | zero | whole | point | fraction | mark | powerSign | power
deriving DecidableEq

def isDigitOctet (b : UInt8) : Bool := 0x30 ≤ b && b ≤ 0x39

def isExponentMark (b : UInt8) : Bool := b == 0x65 || b == 0x45

def NumberPart.afterWhole (b : UInt8) : Option NumberPart :=
  if b == 0x2E then some .point
  else if isExponentMark b then some .mark
  else none

def NumberPart.next (part : NumberPart) (b : UInt8) : Option NumberPart :=
  match part with
  | .sign => if b == 0x30 then some .zero else if isDigitOctet b then some .whole else none
  | .zero => NumberPart.afterWhole b
  | .whole => if isDigitOctet b then some .whole else NumberPart.afterWhole b
  | .point => if isDigitOctet b then some .fraction else none
  | .fraction =>
    if isDigitOctet b then some .fraction else if isExponentMark b then some .mark else none
  | .mark =>
    if b == 0x2B || b == 0x2D then some .powerSign
    else if isDigitOctet b then some .power else none
  | .powerSign | .power => if isDigitOctet b then some .power else none

def NumberPart.complete : NumberPart → Bool
  | .zero | .whole | .fraction | .power => true
  | .sign | .point | .mark | .powerSign => false

inductive TextPart where
  | plain | escape | digits (owed : Nat)
deriving DecidableEq

def isHexOctet (b : UInt8) : Bool :=
  isDigitOctet b || (0x61 ≤ b && b ≤ 0x66) || (0x41 ≤ b && b ≤ 0x46)

def isShortEscape (b : UInt8) : Bool :=
  b == 0x22 || b == 0x5C || b == 0x2F || b == 0x62 || b == 0x66 || b == 0x6E || b == 0x72 ||
    b == 0x74

def TextPart.next (part : TextPart) (b : UInt8) : Option TextPart :=
  match part with
  | .plain => if b == 0x5C then some .escape else if b < 0x20 then none else some .plain
  | .escape =>
    if isShortEscape b then some .plain else if b == 0x75 then some (.digits 3) else none
  | .digits owed =>
    if isHexOctet b then
      match owed with
      | 0 => some .plain
      | n + 1 => some (.digits n)
    else none

inductive Token where
  | between
  | word (rest : Octets) (value : Document)
  | number (part : NumberPart) (seen : Octets)
  | text (part : TextPart) (seen : Octets)

inductive Frame where
  | array (before : List Document)
  | member (before : Document.Members) (key : Octets)

inductive Phase where
  | value (inside : List Frame)
  | firstItem (inside : List Frame)
  | key (first : Bool) (before : Document.Members) (inside : List Frame)
  | colon (before : Document.Members) (key : Octets) (inside : List Frame)
  | afterItem (items : List Document) (inside : List Frame)
  | afterMember (members : Document.Members) (inside : List Frame)
  | finished (document : Document)

structure Reader where
  token : Token
  phase : Phase

namespace Reader

def start : Reader := ⟨.between, .value []⟩

def closeValue (d : Document) : List Frame → Phase
  | [] => .finished d
  | .array before :: inside => .afterItem (d :: before) inside
  | .member before key :: inside => .afterMember ((key, d) :: before) inside

def giveValue (d : Document) : Phase → Option Phase
  | .value inside => some (closeValue d inside)
  | _ => none

def giveText (spelling : Octets) : Phase → Option Phase
  | .key _ before inside => some (.colon before spelling inside)
  | phase => giveValue (.text spelling) phase

def isSpace (b : UInt8) : Bool :=
  b == 0x20 || b == 0x09 || b == 0x0A || b == 0x0D

def wordAfter (b : UInt8) : Option (Octets × Document) :=
  if b == 0x74 then some ([0x72, 0x75, 0x65], .bool true)
  else if b == 0x66 then some ([0x61, 0x6C, 0x73, 0x65], .bool false)
  else if b == 0x6E then some ([0x75, 0x6C, 0x6C], .null)
  else none

def openValue (b : UInt8) (inside : List Frame) : Option Reader :=
  if b == 0x7B then some ⟨.between, .key true [] inside⟩
  else if b == 0x5B then some ⟨.between, .firstItem inside⟩
  else if b == 0x22 then some ⟨.text .plain [], .value inside⟩
  else if b == 0x2D then some ⟨.number .sign [b], .value inside⟩
  else if b == 0x30 then some ⟨.number .zero [b], .value inside⟩
  else if isDigitOctet b then some ⟨.number .whole [b], .value inside⟩
  else (wordAfter b).map fun w => ⟨.word w.1 w.2, .value inside⟩

def punctuate (b : UInt8) (phase : Phase) : Option Reader :=
  if isSpace b then some ⟨.between, phase⟩
  else match phase with
    | .value inside => openValue b inside
    | .firstItem inside =>
      if b == 0x5D then some ⟨.between, closeValue (.array []) inside⟩
      else openValue b (.array [] :: inside)
    | .key first before inside =>
      if b == 0x22 then some ⟨.text .plain [], .key first before inside⟩
      else if b == 0x7D && first then some ⟨.between, closeValue (.object []) inside⟩
      else none
    | .colon before key inside =>
      if b == 0x3A then some ⟨.between, .value (.member before key :: inside)⟩ else none
    | .afterItem items inside =>
      if b == 0x2C then some ⟨.between, .value (.array items :: inside)⟩
      else if b == 0x5D then some ⟨.between, closeValue (.array items.reverse) inside⟩
      else none
    | .afterMember members inside =>
      if b == 0x2C then some ⟨.between, .key false members inside⟩
      else if b == 0x7D then some ⟨.between, closeValue (.object members.reverse) inside⟩
      else none
    | .finished _ => none

/-- One octet. A number ends at the first octet that cannot continue it. -/
def step (r : Reader) (b : UInt8) : Option Reader :=
  match r.token with
  | .between => punctuate b r.phase
  | .word rest value =>
    match rest with
    | [] => none
    | [last] =>
      if b == last then (giveValue value r.phase).map fun p => ⟨.between, p⟩ else none
    | c :: more => if b == c then some ⟨.word more value, r.phase⟩ else none
  | .number part seen =>
    match part.next b with
    | some part' => some ⟨.number part' (b :: seen), r.phase⟩
    | none =>
      if part.complete then (giveValue (.number seen.reverse) r.phase).bind (punctuate b)
      else none
  | .text part seen =>
    if part = .plain && b == 0x22 then
      (giveText seen.reverse r.phase).map fun p => ⟨.between, p⟩
    else (part.next b).map fun part' => ⟨.text part' (b :: seen), r.phase⟩

def run (r : Reader) : Octets → Option Reader
  | [] => some r
  | b :: rest => (r.step b).bind fun r' => r'.run rest

def finish (r : Reader) : Option Document :=
  let phase := match r.token with
    | .between => some r.phase
    | .number part seen =>
      if part.complete then giveValue (.number seen.reverse) r.phase else none
    | _ => none
  match phase with
  | some (.finished d) => some d
  | _ => none

theorem run_append (r : Reader) (a b : Octets) :
    r.run (a ++ b) = (r.run a).bind fun r' => r'.run b := by
  induction a generalizing r with
  | nil => rfl
  | cons x rest ih =>
    simp only [List.cons_append, run]
    cases r.step x with
    | none => rfl
    | some r' => simpa using ih r'

end Reader

def Document.read (octets : Octets) : Option Document :=
  (Reader.start.run octets).bind Reader.finish

end ErpGateway.Json
