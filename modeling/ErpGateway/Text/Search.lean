namespace ErpGateway.Text

def occursIn (needle : List Char) : List Char → Bool
  | [] => needle.isEmpty
  | c :: rest => needle.isPrefixOf (c :: rest) || occursIn needle rest

def consFirst (c : Char) : List (List Char) → List (List Char)
  | [] => [[c]]
  | piece :: pieces => (c :: piece) :: pieces

/-- The pieces around the occurrences of `mark`, found from left to right and apart from each
other; the first `skip` characters belong to an occurrence already found. -/
def splitFrom (mark : List Char) : Nat → List Char → List (List Char)
  | _, [] => [[]]
  | skip + 1, _ :: rest => splitFrom mark skip rest
  | 0, c :: rest =>
    if mark.isPrefixOf (c :: rest) then [] :: splitFrom mark (mark.length - 1) rest
    else consFirst c (splitFrom mark 0 rest)

def splitAround (mark text : List Char) : List (List Char) :=
  splitFrom mark 0 text

def replaceAll (mark new text : List Char) : List Char :=
  new.intercalate (splitAround mark text)

def splitLast (c : Char) (cs : List Char) : Option (List Char × List Char) :=
  let after := cs.reverse.takeWhile (· != c)
  match cs.reverse.dropWhile (· != c) with
  | [] => none
  | _ :: before => some (before.reverse, after.reverse)

end ErpGateway.Text
