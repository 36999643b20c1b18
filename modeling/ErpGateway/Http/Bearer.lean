import ErpGateway.Text.Ascii
import ErpGateway.Text.Blank
import ErpGateway.Text.Utf8

/-!
Bearer credentials: a scheme in any case and a token, with blanks between and around them. Tokens are
compared by a digest, so that a comparison tells nothing of where they differ.
-/
namespace ErpGateway.Http

open Text (Octets)

def bearerMatches (header : Option String) (expected : String) (digest : Octets → Octets := id) :
    Bool :=
  match (header.map fun h => Text.fields h.toList).getD [] with
  | [scheme, token] =>
    !expected.isEmpty && Text.sameLetters (String.ofList scheme) "bearer" &&
      digest (Text.utf8 (String.ofList token)) == digest (Text.utf8 expected)
  | _ => false

end ErpGateway.Http
