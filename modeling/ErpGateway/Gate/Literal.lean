/-!
String literals of a query. A literal opens at a single quote and ends at the next one that is not
doubled; one that never ends reaches to the end of the text.
-/
namespace ErpGateway.Gate

/-- Blanks out what literals hold; the flag tells whether the text starts inside one. The quotes that
delimit a literal stay, the doubled ones in it become two blanks. -/
def blankLiterals : Bool → List Char → List Char
  | _, [] => []
  | false, c :: rest => c :: blankLiterals (c == '\'') rest
  | true, '\'' :: '\'' :: rest => ' ' :: ' ' :: blankLiterals true rest
  | true, '\'' :: rest => '\'' :: blankLiterals false rest
  | true, _ :: rest => ' ' :: blankLiterals true rest

def code (query : List Char) : List Char :=
  blankLiterals false query

theorem length_blankLiterals (inside : Bool) (cs : List Char) :
    (blankLiterals inside cs).length = cs.length := by
  fun_induction blankLiterals inside cs <;> simp_all

end ErpGateway.Gate
