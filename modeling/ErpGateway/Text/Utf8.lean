namespace ErpGateway.Text

abbrev Octets := List UInt8

def utf8 (s : String) : Octets :=
  s.toUTF8.data.toList

def ofUtf8? (octets : Octets) : Option String :=
  String.fromUTF8? ⟨octets.toArray⟩

def isTail (b : UInt8) : Bool :=
  0x80 ≤ b && b ≤ 0xBF

/-- How many octets a character has that starts with `b`, with the least and the greatest second
octet; nothing when no character starts so. -/
def leadOf (b : UInt8) : Option (Nat × UInt8 × UInt8) :=
  if 0xC2 ≤ b && b ≤ 0xDF then some (2, 0x80, 0xBF)
  else if b == 0xE0 then some (3, 0xA0, 0xBF)
  else if b == 0xED then some (3, 0x80, 0x9F)
  else if 0xE1 ≤ b && b ≤ 0xEF then some (3, 0x80, 0xBF)
  else if b == 0xF0 then some (4, 0x90, 0xBF)
  else if 0xF1 ≤ b && b ≤ 0xF3 then some (4, 0x80, 0xBF)
  else if b == 0xF4 then some (4, 0x80, 0x8F)
  else none

def wellFormedTail (b : UInt8) (octets : Octets) : Octets :=
  match leadOf b, octets with
  | some (n, least, greatest), second :: rest =>
    if least ≤ second && second ≤ greatest then second :: (rest.take (n - 2)).takeWhile isTail
    else []
  | _, _ => []

def codePoint (b : UInt8) (tail : Octets) : Nat :=
  let lead := if tail.length == 1 then b.toNat % 32
    else if tail.length == 2 then b.toNat % 16 else b.toNat % 8
  tail.foldl (fun n t => n * 64 + t.toNat % 64) lead

def replacement : Char := Char.ofNat 0xFFFD

/-- Decoding in which each longest malformed start of a character becomes one U+FFFD; the first
`skip` octets were read with the character before them. -/
def lossyFrom : Nat → Octets → List Char
  | _, [] => []
  | skip + 1, _ :: rest => lossyFrom skip rest
  | 0, b :: rest =>
    if b < 0x80 then Char.ofNat b.toNat :: lossyFrom 0 rest
    else
      let tail := wellFormedTail b rest
      let complete := (leadOf b).any fun lead => tail.length + 1 == lead.1
      (if complete then Char.ofNat (codePoint b tail) else replacement) ::
        lossyFrom tail.length rest

def ofUtf8Lossy (octets : Octets) : String :=
  String.ofList (lossyFrom 0 octets)

def encodeCodePoint (n : Nat) : Octets :=
  if n < 0x80 then [n.toUInt8]
  else if n < 0x800 then [(0xC0 + n / 64).toUInt8, (0x80 + n % 64).toUInt8]
  else if n < 0x10000 then
    [(0xE0 + n / 4096).toUInt8, (0x80 + n / 64 % 64).toUInt8, (0x80 + n % 64).toUInt8]
  else
    [(0xF0 + n / 262144).toUInt8, (0x80 + n / 4096 % 64).toUInt8, (0x80 + n / 64 % 64).toUInt8,
      (0x80 + n % 64).toUInt8]

end ErpGateway.Text
