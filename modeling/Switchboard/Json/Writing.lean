import Switchboard.Text.Hex
import Switchboard.Text.Numeral

/-!
# Writing JSON

JSON text without blanks. In a string only the quote, the backslash and the
control characters below U+0020 are escaped, the latter by a letter where there
is one.
-/

namespace Switchboard.Json.Writing

/-- A character inside a string. -/
def character (c : Char) : List Char :=
  match c with
  | '"' => ['\\', '"']
  | '\\' => ['\\', '\\']
  | '\x08' => ['\\', 'b']
  | '\x0c' => ['\\', 'f']
  | '\n' => ['\\', 'n']
  | '\r' => ['\\', 'r']
  | '\t' => ['\\', 't']
  | c =>
    if c.toNat < 0x20 then
      ['\\', 'u', '0', '0', Text.Hex.digit (c.toNat / 16), Text.Hex.digit (c.toNat % 16)]
    else [c]

/-- A string with its quotes. -/
def string (s : String) : List Char :=
  '"' :: (s.toList.flatMap character ++ ['"'])

/-- A natural number. -/
def natural (n : Nat) : List Char :=
  Text.Numeral.decimal n

/-- Fields behind the first one, up to the end of the object. -/
def furtherFields : List (String × List Char) → List Char
  | [] => ['}']
  | (key, value) :: rest => ',' :: (string key ++ ':' :: (value ++ furtherFields rest))

/-- An object whose values are already written. -/
def object : List (String × List Char) → List Char
  | [] => ['{', '}']
  | (key, value) :: rest => '{' :: (string key ++ ':' :: (value ++ furtherFields rest))

end Switchboard.Json.Writing
