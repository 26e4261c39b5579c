import Switchboard.Text.Hex
import Switchboard.Text.Unprintable

/-!
# Quoted text

A text between double quotes on one line. The quote, the backslash, tabs, line
ends and the null character are escaped by a letter or sign; every other character
without a shape of its own is shown by its number in braces.
-/

namespace Switchboard.Text

/-- The hexadecimal digits of a number, without leading zeros. -/
def hexDigits (n : Nat) : List Char :=
  if n < 16 then [Hex.digit n] else hexDigits (n / 16) ++ [Hex.digit (n % 16)]

/-- A character inside quotes. -/
def quotedCharacter (c : Char) : List Char :=
  match c with
  | '\x00' => ['\\', '0']
  | '\t' => ['\\', 't']
  | '\r' => ['\\', 'r']
  | '\n' => ['\\', 'n']
  | '"' => ['\\', '"']
  | '\\' => ['\\', '\\']
  | c => if isUnprintable c then ['\\', 'u', '\x7b'] ++ hexDigits c.toNat ++ ['\x7d'] else [c]

/-- A text in quotes. -/
def quoted (s : String) : String :=
  String.ofList ('"' :: (s.toList.flatMap quotedCharacter ++ ['"']))

end Switchboard.Text
