/-!
# YAML text

What a YAML text may contain, and a place in it. Line breaks are made uniform
before anything else reads the text: a carriage return, a line feed, both in that
order, and the next-line character all become a line feed; the line and paragraph
separators stay what they are.
-/

namespace Switchboard.Yaml

/-- Whether a character may occur in a text. -/
def isAllowed (c : Char) : Bool :=
  let n := c.toNat
  n == 0x09 || n == 0x0A || n == 0x0D || n == 0x85 || (0x20 ≤ n && n ≤ 0x7E) ||
    (0xA0 ≤ n && n ≤ 0xFFFD) || 0x10000 ≤ n

/-- Make line breaks uniform. -/
def uniformBreaks : List Char → List Char
  | [] => []
  | '\r' :: '\n' :: rest => '\n' :: uniformBreaks rest
  | '\r' :: rest => '\n' :: uniformBreaks rest
  | '\x85' :: rest => '\n' :: uniformBreaks rest
  | c :: rest => c :: uniformBreaks rest

/-- A text with uniform line breaks, if all its characters are allowed. -/
def prepare? (text : List Char) : Option (List Char) :=
  if text.all isAllowed then some (uniformBreaks text) else none

/-- A space or a tab. -/
def isBlank (c : Char) : Bool := c == ' ' || c == '\t'

/-- A line feed, a line separator or a paragraph separator. -/
def isBreak (c : Char) : Bool := c == '\n' || c == '\u2028' || c == '\u2029'

/-- A letter or digit of ASCII, an underscore or a hyphen. -/
def isWordCharacter (c : Char) : Bool := c.isAlphanum || c == '_' || c == '-'

/-- Whether a line break or the end comes next. -/
def lineEnds : List Char → Bool
  | [] => true
  | c :: _ => isBreak c

/-- Whether a blank, a line break or the end comes next. -/
def spaceFollows : List Char → Bool
  | [] => true
  | c :: _ => isBlank c || isBreak c

/-- Whether three hyphens or three dots stand here by themselves. -/
def isDocumentMarker : List Char → Bool
  | '-' :: '-' :: '-' :: rest => spaceFollows rest
  | '.' :: '.' :: '.' :: rest => spaceFollows rest
  | _ => false

/-- A place in a text: on which line it is, how many characters of that line are
before it, and how many bytes these take in UTF-8. -/
structure Place where
  line : Nat
  column : Nat
  bytes : Nat
deriving DecidableEq

namespace Place

/-- The start of a text. -/
def start : Place := ⟨0, 0, 0⟩

/-- The place behind a character that is not a line break. -/
def after (p : Place) (c : Char) : Place := ⟨p.line, p.column + 1, p.bytes + c.utf8Size⟩

/-- The place behind `count` characters of ASCII, none of them a line break. -/
def right (p : Place) (count : Nat) : Place := ⟨p.line, p.column + count, p.bytes + count⟩

/-- The place behind a line break. -/
def nextLine (p : Place) : Place := ⟨p.line + 1, 0, 0⟩

end Place

/-- What is left of a text, and where it starts. -/
structure Source where
  rest : List Char
  place : Place
deriving DecidableEq

namespace Source

/-- Leave out `count` characters of ASCII, none of them a line break. -/
def skip (s : Source) (count : Nat) : Source := ⟨s.rest.drop count, s.place.right count⟩

/-- Leave out the characters that satisfy a test, none of them a line break, and
give them too. -/
def span (s : Source) (test : Char → Bool) : List Char × Source :=
  let taken := s.rest.takeWhile test
  (taken, ⟨s.rest.drop taken.length, taken.foldl Place.after s.place⟩)

/-- Leave out blanks. -/
def skipBlanks (s : Source) : Source := (s.span isBlank).2

/-- Leave out a comment, if one starts here. -/
def skipComment (s : Source) : Source :=
  match s.rest with
  | '#' :: _ => (s.span (!isBreak ·)).2
  | _ => s

/-- Leave out a line break, if one is here. -/
def skipBreak (s : Source) : Source :=
  match s.rest with
  | c :: rest => if isBreak c then ⟨rest, s.place.nextLine⟩ else s
  | [] => s

/-- Leave out the rest of a line on which only blanks and a comment may follow. -/
def endLine? (s : Source) : Option Source :=
  let s := s.skipBlanks.skipComment
  if lineEnds s.rest then some s.skipBreak else none

end Source

end Switchboard.Yaml
