namespace ErpGateway.Decimal

def digits (n : Nat) : List Char :=
  Nat.toDigits 10 n

def valueOf (c : Char) : Nat :=
  c.toNat - 48

def ofDigits (cs : List Char) : Nat :=
  cs.foldl (fun n c => 10 * n + valueOf c) 0

def natural? (cs : List Char) : Option Nat :=
  if !cs.isEmpty && cs.all Char.isDigit then some (ofDigits cs) else none

def signed? : List Char → Option Int
  | '-' :: rest => (natural? rest).map fun n => -(n : Int)
  | '+' :: rest => (natural? rest).map Int.ofNat
  | cs => (natural? cs).map Int.ofNat

def unsigned? : List Char → Option Nat
  | '+' :: rest => natural? rest
  | cs => natural? cs

def int64Min : Int := -9223372036854775808
def int64Max : Int := 9223372036854775807
def word64Max : Nat := 18446744073709551615

def fitsInt64 (n : Int) : Bool :=
  int64Min ≤ n && n ≤ int64Max

def int64? (cs : List Char) : Option Int :=
  (signed? cs).filter fitsInt64

def word64? (cs : List Char) : Option Nat :=
  (unsigned? cs).filter fun n => n ≤ word64Max

def padded (width n : Nat) : List Char :=
  List.replicate (width - (digits n).length) '0' ++ digits n

def twoDigits (n : Nat) : List Char :=
  padded 2 n

end ErpGateway.Decimal
