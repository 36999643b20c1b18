import ErpGateway.Gate.Literal
import ErpGateway.Gate.Rejection
import ErpGateway.Text.Blank
import ErpGateway.Text.CharClass
import ErpGateway.Text.Search

/-!
Whether a query is one read-only statement. The gate is a denylist and not a parser: it looks at
the text outside literals and refuses separators, comment markers, leading words other than
`select` and `with`, and words that change data.
-/
namespace ErpGateway.Gate

open Text

/-- Equality of a character with an ASCII lower-case letter when case is ignored: the long s folds to
`s`, and the Kelvin sign to `k`. -/
def foldsTo (letter c : Char) : Bool :=
  c.toLower == letter || (letter == 's' && c == 'ſ') || (letter == 'k' && c == '\u212A')

def afterWord? : (word : List Char) → List Char → Option (List Char)
  | [], text => some text
  | _ :: _, [] => none
  | letter :: word, c :: text => if foldsTo letter c then afterWord? word text else none

def endsWord : List Char → Bool
  | [] => true
  | c :: _ => !isWordChar c

def mutatingWords : List (List Char) :=
  ["insert", "update", "delete", "merge", "truncate", "drop", "alter", "create", "exec", "execute",
    "grant", "revoke"].map String.toList

def mutatesHere (text : List Char) : Bool :=
  mutatingWords.any fun word => (afterWord? word text).any endsWord

def mutatesFrom (mayStart : Bool) : List Char → Bool
  | [] => false
  | c :: rest => (mayStart && mutatesHere (c :: rest)) || mutatesFrom (!isWordChar c) rest

def mutates (text : List Char) : Bool :=
  mutatesFrom true text

def continuesIdentifier (c : Char) : Bool :=
  isAlphanumeric c || c == '_' || c == '@' || c == '#' || c == '$'

def leadsWith (keyword text : List Char) : Bool :=
  match keyword.isPrefixOf? (lower text) with
  | none => false
  | some [] => true
  | some (c :: _) => !continuesIdentifier c

def leadsReadOnly (text : List Char) : Bool :=
  leadsWith "select".toList (trimLeft text) || leadsWith "with".toList (trimLeft text)

def hasComment (text : List Char) : Bool :=
  occursIn "--".toList text || occursIn "/*".toList text || occursIn "*/".toList text

def checkTrimmed (query : List Char) : Except Rejection Unit :=
  let text := code query
  if query.isEmpty then .error .queryRequired
  else if text.contains ';' then .error .multipleStatements
  else if hasComment text then .error .comments
  else if !leadsReadOnly text then .error .notReadOnly
  else if mutates text then .error .notReadOnly
  else .ok ()

def check (query : String) : Except Rejection Unit :=
  checkTrimmed (trim query.toList)

end ErpGateway.Gate
