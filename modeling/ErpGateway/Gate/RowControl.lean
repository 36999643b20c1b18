import ErpGateway.Gate.ReadOnly

/-!
Parameters that control rows: `OFFSET @x ROWS`, `FETCH NEXT @x ROWS ONLY` and `TOP (@x)`. They are
looked for in the whole text, literals included, from left to right; behind a form that is found the
search goes on at the end of the form.
-/
namespace ErpGateway.Gate

open Text

inductive Part where
  | word (letters : List Char)
  | blanks
  | someBlanks
  | mark (c : Char)
  | name
deriving DecidableEq

def opensName (c : Char) : Bool :=
  c.isAlpha || c == '_' || c == 'ſ' || c == '\u212A'

def continuesName (c : Char) : Bool :=
  opensName c || c.isDigit

def matchParts : List Part → (found : List Char) → List Char → Option (List Char × List Char)
  | [], found, text => some (found, text)
  | .word letters :: parts, found, text =>
    (afterWord? letters text).bind (matchParts parts found)
  | .blanks :: parts, found, text => matchParts parts found (text.dropWhile isBlank)
  | .someBlanks :: parts, found, text =>
    match text with
    | c :: rest => if isBlank c then matchParts parts found (rest.dropWhile isBlank) else none
    | [] => none
  | .mark m :: parts, found, text =>
    match text with
    | c :: rest => if c == m then matchParts parts found rest else none
    | [] => none
  | .name :: parts, _, text =>
    match text with
    | c :: _ =>
      if opensName c then
        matchParts parts (text.takeWhile continuesName) (text.dropWhile continuesName)
      else none
    | [] => none

structure Form where
  parts : List Part
  closed : Bool
deriving DecidableEq

def offsetForm : Form :=
  ⟨[.word "offset".toList, .someBlanks, .mark '@', .name, .someBlanks, .word "rows".toList], true⟩

def fetchForm : Form :=
  ⟨[.word "fetch".toList, .someBlanks, .word "next".toList, .someBlanks, .mark '@', .name,
    .someBlanks, .word "rows".toList, .someBlanks, .word "only".toList], true⟩

def topForm : Form :=
  ⟨[.word "top".toList, .blanks, .mark '(', .blanks, .mark '@', .name, .blanks, .mark ')'], false⟩

def forms : List Form :=
  [offsetForm, fetchForm, topForm]

def Form.here? (form : Form) (text : List Char) : Option (List Char × List Char) :=
  (matchParts form.parts [] text).filter fun found => !form.closed || endsWord found.2

/-- The names in the forms of a kind; the first `skip` characters belong to a form already found, and
`mayStart` tells whether a word may start at the first character. -/
def namesFrom (form : Form) : (skip : Nat) → (mayStart : Bool) → List Char → List (List Char)
  | _, _, [] => []
  | skip + 1, _, c :: rest => namesFrom form skip (!isWordChar c) rest
  | 0, mayStart, c :: rest =>
    match if mayStart then form.here? (c :: rest) else none with
    | some (name, after) =>
      name :: namesFrom form (rest.length - after.length) (!isWordChar c) rest
    | none => namesFrom form 0 (!isWordChar c) rest

def rowControls (query : String) : List String :=
  (forms.flatMap fun form => namesFrom form 0 true query.toList).map
    fun name => String.ofList (lower name)

end ErpGateway.Gate
