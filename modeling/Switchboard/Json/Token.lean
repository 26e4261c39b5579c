import Switchboard.Text.Hex

/-!
# The tokens of JSON

A text is cut into tokens one character at a time: `Cursor.advance` says what a
character does to the token being read, and `tokens?` runs it over the text. A
number keeps its digits as written. A string keeps its escapes as code units, so
that half of a surrogate pair is noticed only where the string is asked for.
-/

namespace Switchboard.Json

/-- A piece of a string: a character, or a code unit written as `\uXXXX`. -/
inductive Piece where
  | char (c : Char)
  | unit (value : Nat)
deriving DecidableEq

/-- The text that pieces spell. A high surrogate must be followed at once by a low
one, and the two make a character; any other surrogate spells nothing. -/
def spell? : List Piece → Option (List Char)
  | [] => some []
  | .char c :: rest => return c :: (← spell? rest)
  | .unit high :: .unit low :: rest =>
    if 0xD800 ≤ high ∧ high < 0xDC00 then
      if 0xDC00 ≤ low ∧ low < 0xE000 then do
        return Char.ofNat (0x10000 + (high - 0xD800) * 0x400 + (low - 0xDC00)) :: (← spell? rest)
      else none
    else if 0xDC00 ≤ high ∧ high < 0xE000 then none
    else return Char.ofNat high :: (← spell? (.unit low :: rest))
  | .unit value :: rest =>
    if 0xD800 ≤ value ∧ value < 0xE000 then none
    else return Char.ofNat value :: (← spell? rest)

/-- A token. The text of a string is absent if its pieces spell nothing. -/
inductive Token where
  | beginArray
  | endArray
  | beginObject
  | endObject
  | colon
  | comma
  | null
  | bool (value : Bool)
  | number (digits : List Char)
  | string (text : Option String)
deriving DecidableEq

/-- How far a number has been read. -/
inductive NumberPart where
  | sign
  | zero
  | whole
  | point
  | fraction
  | exponent
  | exponentSign
  | exponentDigits
deriving DecidableEq

namespace NumberPart

/-- The part of the number that one more character leads to. -/
def next? (part : NumberPart) (c : Char) : Option NumberPart :=
  match part with
  | sign => if c = '0' then some zero else if c.isDigit then some whole else none
  | zero =>
    if c = '.' then some point else if c = 'e' ∨ c = 'E' then some exponent else none
  | whole =>
    if c.isDigit then some whole
    else if c = '.' then some point else if c = 'e' ∨ c = 'E' then some exponent else none
  | point => if c.isDigit then some fraction else none
  | fraction =>
    if c.isDigit then some fraction else if c = 'e' ∨ c = 'E' then some exponent else none
  | exponent =>
    if c = '+' ∨ c = '-' then some exponentSign
    else if c.isDigit then some exponentDigits else none
  | exponentSign => if c.isDigit then some exponentDigits else none
  | exponentDigits => if c.isDigit then some exponentDigits else none

/-- Whether a number may end here. -/
def complete : NumberPart → Bool
  | zero | whole | fraction | exponentDigits => true
  | sign | point | exponent | exponentSign => false

end NumberPart

/-- The character that a one-letter escape stands for. -/
def escaped? (c : Char) : Option Char :=
  match c with
  | '"' => some '"'
  | '\\' => some '\\'
  | '/' => some '/'
  | 'b' => some '\x08'
  | 'f' => some '\x0c'
  | 'n' => some '\n'
  | 'r' => some '\r'
  | 't' => some '\t'
  | _ => none

/-- The token being read. What has been read of it is kept last character first. -/
inductive Cursor where
  | between
  | word (left : List Char) (token : Token)
  | number (part : NumberPart) (read : List Char)
  | string (read : List Piece)
  | escape (read : List Piece)
  | unicode (digits value : Nat) (read : List Piece)
deriving DecidableEq

/-- The four characters that count as blank in JSON. -/
def isSpace (c : Char) : Bool :=
  c == ' ' || c == '\n' || c == '\t' || c == '\r'

namespace Cursor

/-- A character outside any token. -/
def start (c : Char) : Option (Cursor × List Token) :=
  if isSpace c then some (between, [])
  else if c.isDigit then some (number (if c = '0' then .zero else .whole) [c], [])
  else
    match c with
    | '[' => some (between, [.beginArray])
    | ']' => some (between, [.endArray])
    | '{' => some (between, [.beginObject])
    | '}' => some (between, [.endObject])
    | ':' => some (between, [.colon])
    | ',' => some (between, [.comma])
    | '"' => some (string [], [])
    | '-' => some (number .sign ['-'], [])
    | 'n' => some (word ['u', 'l', 'l'] .null, [])
    | 't' => some (word ['r', 'u', 'e'] (.bool true), [])
    | 'f' => some (word ['a', 'l', 's', 'e'] (.bool false), [])
    | _ => none

/-- What a character does: the token being read after it, and the tokens that it
completes. -/
def advance (cursor : Cursor) (c : Char) : Option (Cursor × List Token) :=
  match cursor with
  | between => start c
  | word [] _ => none
  | word [last] token => if c = last then some (between, [token]) else none
  | word (first :: left) token => if c = first then some (word left token, []) else none
  | number part read =>
    match part.next? c with
    | some part => some (number part (c :: read), [])
    | none =>
      if part.complete then
        (start c).map fun next => (next.1, .number read.reverse :: next.2)
      else none
  | string read =>
    if c = '"' then
      some (between, [.string ((spell? read.reverse).map String.ofList)])
    else if c = '\\' then some (escape read, [])
    else if c.toNat < 0x20 then none
    else some (string (.char c :: read), [])
  | escape read =>
    if c = 'u' then some (unicode 0 0 read, [])
    else (escaped? c).map fun plain => (string (.char plain :: read), [])
  | unicode digits value read =>
    (Text.Hex.value? c).map fun digit =>
      if digits = 3 then (string (.unit (16 * value + digit) :: read), [])
      else (unicode (digits + 1) (16 * value + digit) read, [])

/-- The token that the end of the text completes. -/
def finish? : Cursor → Option (List Token)
  | between => some []
  | number part read => if part.complete then some [.number read.reverse] else none
  | _ => none

/-- Read the rest of a text. -/
def tokens? : Cursor → List Char → Option (List Token)
  | cursor, [] => cursor.finish?
  | cursor, c :: rest => do
    let (next, done) ← cursor.advance c
    return done ++ (← tokens? next rest)

end Cursor

/-- The tokens of a text. -/
def tokens? (text : List Char) : Option (List Token) :=
  Cursor.between.tokens? text

end Switchboard.Json
