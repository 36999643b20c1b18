namespace ErpGateway.Text

def lower (cs : List Char) : List Char :=
  cs.map Char.toLower

def lowered (s : String) : String :=
  String.ofList (lower s.toList)

def uppered (s : String) : String :=
  String.ofList (s.toList.map Char.toUpper)

def sameLetters (a b : String) : Bool :=
  lower a.toList == lower b.toList

def isIdentifierHead (c : Char) : Bool :=
  c.isAlpha || c == '_'

def isIdentifierTail (c : Char) : Bool :=
  c.isAlphanum || c == '_'

/-- `[A-Za-z_][A-Za-z0-9_]*` -/
def isIdentifier : List Char → Bool
  | [] => false
  | c :: rest => isIdentifierHead c && rest.all isIdentifierTail

theorem sameLetters_self (a : String) : sameLetters a a = true := by
  simp [sameLetters]

end ErpGateway.Text
