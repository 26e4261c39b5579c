import Switchboard.Contract
import Switchboard.Digest.Sha256
import Switchboard.Text.Blank
import Switchboard.Text.Hex
import Switchboard.Text.Order

/-!
# The shape of a contract

A contract's shape is the text of its operations in ascending order of those
texts, so the order of declaration does not matter. Its fingerprint is the
SHA-256 digest of that text in lower-case hexadecimal digits.
-/

namespace Switchboard

/-- The text of an operation: `name(first,second)->result;`. -/
def Operation.text (o : Operation) : String :=
  o.name ++ "(" ++ ",".intercalate o.params ++ ")->" ++ o.returns ++ ";"

namespace Contract

/-- The canonical text of a contract's operations. -/
def shape (c : Contract) : String :=
  String.join (Text.sorted (c.operations.map Operation.text))

/-- The digest of the shape. -/
def digest (c : Contract) : List UInt8 :=
  Digest.sha256 (Text.bytes c.shape)

/-- The digest of the shape in lower-case hexadecimal digits. -/
def fingerprint (c : Contract) : String :=
  String.ofList (Text.Hex.encode c.digest)

/-- Whether a text names this contract's fingerprint. White space around it and
the case of ASCII letters do not matter. -/
def hasFingerprint (c : Contract) (expected : String) : Bool :=
  (Text.trimmed expected.toList).map Char.toLower == c.fingerprint.toList

end Contract

end Switchboard
