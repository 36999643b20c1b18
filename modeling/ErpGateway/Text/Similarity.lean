/-!
How alike two texts are: the mean of three shares, those of the characters in common in either text
and that of those in common which stand in the same order. Characters in common stand near each
other.
-/
namespace ErpGateway.Text

def reach (a b : List Char) : Nat :=
  max a.length b.length / 2 - 1

def partner? (text : List Char) (reach i : Nat) (c : Char) (taken : List Nat) : Option Nat :=
  (List.range text.length).find? fun j =>
    i ≤ j + reach && j ≤ i + reach && text[j]? == some c && !taken.contains j

def partners (text : List Char) (reach : Nat) : (i : Nat) → (taken : List Nat) → List Char → List Nat
  | _, taken, [] => taken.reverse
  | i, taken, c :: rest =>
    match partner? text reach i c taken with
    | some j => partners text reach (i + 1) (j :: taken) rest
    | none => partners text reach (i + 1) taken rest

structure Common where
  count : Nat
  crossed : Nat
deriving DecidableEq, Repr

def common (a b : List Char) : Common :=
  let places := partners b (reach a b) 0 [] a
  let inOrder := places.mergeSort fun i j => decide (i ≤ j)
  ⟨places.length, ((places.zip inOrder).countP fun p => b[p.1]? != b[p.2]?) / 2⟩

def likeness (a b : String) : Float :=
  let a := a.toList
  let b := b.toList
  let c := common a b
  if c.count = 0 then 0.0
  else
    let n := Float.ofNat c.count
    (n / Float.ofNat a.length + n / Float.ofNat b.length + Float.ofNat (c.count - c.crossed) / n) / 3.0

def alike (candidates : List String) (text : String) : List String :=
  (candidates.filter fun c => (0.7 : Float) < likeness text c).mergeSort fun c d =>
    likeness text c ≤ likeness text d

end ErpGateway.Text
