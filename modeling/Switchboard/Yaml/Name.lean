import Switchboard.Text.Hex
import Switchboard.Text.Numeral
import Switchboard.Yaml.Source
import Switchboard.Yaml.Token

/-!
# Names, tags and directives

Anchors and aliases are words. A tag is written in full between angle brackets,
or as a suffix behind a handle. A directive states the version of the language or
the meaning of a handle.
-/

namespace Switchboard.Yaml

/-- Whether the name of an anchor may end here. -/
def nameEnds (rest : List Char) : Bool :=
  spaceFollows rest ||
    rest.head?.any fun c => ['?', ':', ',', ']', '}', '%', '@', '\x60'].contains c

/-- The name of an anchor or alias, behind its sign. -/
def name? (s : Source) : Option (List Char × Source) :=
  let (name, s) := s.span isWordCharacter
  if name.isEmpty || !nameEnds s.rest then none else some (name, s)

/-- Whether a character may stand in a tag as it is. Commas and square brackets
may stand only in a tag that is written in full, or in a directive. -/
def isTagCharacter (full : Bool) (c : Char) : Bool :=
  isWordCharacter c ||
    [';', '/', '?', ':', '@', '&', '=', '+', '$', '.', '!', '~', '*', '\'', '(', ')'].contains c ||
    (full && [',', '[', ']'].contains c)

/-- How many bytes a character has whose first UTF-8 byte is `lead`. -/
def utf8Width? (lead : Nat) : Option Nat :=
  if lead < 0x80 then some 1
  else if lead / 0x20 = 0x06 then some 2
  else if lead / 0x10 = 0x0E then some 3
  else if lead / 0x08 = 0x1E then some 4
  else none

/-- The text of a tag up to the first character that cannot belong to it.
`remaining` says how many further bytes an escaped character still has to have,
each written as a percent sign and two digits; `read` is what came before, last
byte first. -/
def tagText? (full : Bool) :
    List Char → Place → (remaining : Nat) → List Char → Option (List Char × Source)
  | '%' :: high :: low :: rest, p, remaining, read => do
    let byte := 16 * (← Text.Hex.value? high) + (← Text.Hex.value? low)
    let remaining ← match remaining with
      | 0 => (utf8Width? byte).map (· - 1)
      | remaining + 1 => if byte / 0x40 = 0x02 then some remaining else none
    tagText? full rest (p.right 3) remaining (Char.ofNat byte :: read)
  | c :: rest, p, remaining, read =>
    if remaining ≠ 0 || c == '%' then none
    else if isTagCharacter full c then tagText? full rest (p.right 1) 0 (c :: read)
    else some (read.reverse, ⟨c :: rest, p⟩)
  | [], p, remaining, read =>
    if remaining ≠ 0 then none else some (read.reverse, ⟨[], p⟩)

/-- What counts of the text of a tag: a null character ends it. -/
def upToNull (text : List Char) : List Char := text.takeWhile (· ≠ '\x00')

/-- A tag text that is not empty, as far as it counts. -/
def someTagText? (full : Bool) (s : Source) : Option (List Char × Source) := do
  let (text, s) ← tagText? full s.rest s.place 0 []
  if text.isEmpty then none else return (upToNull text, s)

/-- An exclamation mark, a word and perhaps another exclamation mark. -/
def handle? (s : Source) : Option (List Char × Source) :=
  match s.rest with
  | '!' :: _ =>
    let (word, s) := (s.skip 1).span isWordCharacter
    match s.rest with
    | '!' :: _ => some ('!' :: (word ++ ['!']), s.skip 1)
    | _ => some ('!' :: word, s)
  | _ => none

/-- Whether a handle ends with an exclamation mark of its own. -/
def isClosedHandle (handle : List Char) : Bool :=
  handle.length ≥ 2 && handle.getLast? == some '!'

/-- A tag at its first exclamation mark. -/
def tag? (s : Source) : Option (TagName × Source) :=
  match s.rest with
  | '!' :: '<' :: _ => do
    let (text, s) ← someTagText? true (s.skip 2)
    match s.rest with
    | '>' :: _ => return (⟨[], text⟩, s.skip 1)
    | _ => none
  | _ => do
    let (handle, s) ← handle? s
    if isClosedHandle handle then
      let (text, s) ← someTagText? false s
      return (⟨handle, text⟩, s)
    else
      let (text, s) ← tagText? false s.rest s.place 0 []
      match handle.tail ++ upToNull text with
      | [] => return (⟨[], ['!']⟩, s)
      | suffix => return (⟨['!'], suffix⟩, s)

/-- A tag with what has to follow it: space, or a comma inside brackets. -/
def tagToken? (inBrackets : Bool) (s : Source) : Option (Token × Source) := do
  let (name, s) ← tag? s
  if spaceFollows s.rest || (inBrackets && s.rest.head? == some ',') then
    return (.tag name, s)
  else none

/-- A part of a version number: one to nine digits. -/
def versionNumber? (s : Source) : Option (Nat × Source) := do
  let (digits, s) := s.span Char.isDigit
  if digits.length > 9 then none
  else return (← Text.Numeral.read? 10 digits, s)

/-- The content of a directive with a given name. -/
def directiveContent? (name : List Char) (s : Source) : Option (Token × Source) :=
  if name = "YAML".toList then do
    let (major, s) ← versionNumber? s.skipBlanks
    match s.rest with
    | '.' :: _ =>
      let (minor, s) ← versionNumber? (s.skip 1)
      return (.version major minor, s)
    | _ => none
  else if name = "TAG".toList then do
    let (handle, s) ← handle? s.skipBlanks
    if !(isClosedHandle handle || handle = ['!']) then none
    else if !s.rest.head?.any isBlank then none
    else
      let (meaning, s) ← someTagText? true s.skipBlanks
      if spaceFollows s.rest then return (.tagHandle handle meaning, s) else none
  else none

/-- A directive at its percent sign, to the end of its line. -/
def directive? (s : Source) : Option (Token × Source) := do
  let (name, s) := (s.skip 1).span isWordCharacter
  if name.isEmpty || !spaceFollows s.rest then none
  else
    let (token, s) ← directiveContent? name s
    return (token, ← s.endLine?)

end Switchboard.Yaml
