import Switchboard.Yaml.Name
import Switchboard.Yaml.Scalar.Block
import Switchboard.Yaml.Scalar.Plain
import Switchboard.Yaml.Scalar.Quoted

/-!
# Layout

Block collections start and end by indentation, and a mapping key may come
without a question mark: that it was a key shows only at the colon behind it. So
each place where such a key may have started is remembered as a candidate, and at
the colon a key token, and if need be the start of a mapping, is put in front of
the tokens read since then.
-/

namespace Switchboard.Yaml

/-- A place where a key may have started. -/
structure Candidate where
  /-- How many tokens were read before it. -/
  position : Nat
  place : Place
  /-- Whether a colon has to follow, because only a key may stand there. -/
  required : Bool
deriving DecidableEq

/-- A text on its way to tokens. -/
structure Layout where
  source : Source
  tokens : List Token
  /-- The indentation of the innermost block, minus one outside of all. -/
  indent : Int
  /-- The indentations of the blocks around it, innermost first. -/
  outer : List Int
  /-- Whether a key may start here. -/
  keyAllowed : Bool
  /-- The candidate among the tokens outside brackets. -/
  candidate : Option Candidate
  /-- For each open bracket, innermost first, the candidate before it. -/
  brackets : List (Option Candidate)

namespace Layout

/-- The start of a text. -/
def start (text : List Char) : Layout where
  source := ⟨text, .start⟩
  tokens := []
  indent := -1
  outer := []
  keyAllowed := true
  candidate := none
  brackets := []

/-- Whether a bracket is open. -/
def inBrackets (l : Layout) : Bool := !l.brackets.isEmpty

/-- Append a token. -/
def push (l : Layout) (token : Token) : Layout := { l with tokens := l.tokens ++ [token] }

/-- Give up the candidate, which must not have been required. -/
def dropCandidate? (l : Layout) : Option Layout :=
  if l.candidate.any (·.required) then none else some { l with candidate := none }

/-- Remember that a key may start here. -/
def saveCandidate? (l : Layout) : Option Layout :=
  if l.keyAllowed then do
    let required := !l.inBrackets && l.indent == (l.source.place.column : Int)
    let l ← l.dropCandidate?
    return { l with candidate := some ⟨l.tokens.length, l.source.place, required⟩ }
  else some l

/-- Whether a candidate is too far back to be a key: a key stands on one line and
has at most 1024 bytes. -/
def isStale (now : Place) (c : Candidate) : Bool :=
  c.place.line < now.line || c.place.bytes + 1024 < now.bytes

/-- Give up the candidates that are too far back. -/
def dropStale? (l : Layout) : Option Layout :=
  let stale := (l.candidate :: l.brackets).filterMap id |>.filter (isStale l.source.place)
  if stale.any (·.required) then none
  else
    let keep (c : Option Candidate) := c.filter (!isStale l.source.place ·)
    some { l with candidate := keep l.candidate, brackets := l.brackets.map keep }

/-- Start a block collection in front of the token at `position`, if its column is
deeper than the innermost block. -/
def indentTo (l : Layout) (column position : Nat) (token : Token) : Layout :=
  if !l.inBrackets && l.indent < (column : Int) then
    { l with
      tokens := l.tokens.insertIdx position token, indent := column,
      outer := l.indent :: l.outer }
  else l

/-- The ends of the blocks that are deeper than a column, with what is left of the
surrounding indentations. -/
def closeBlocks (column : Int) (indent : Int) : List Int → List Token × Int × List Int
  | [] => ([], indent, [])
  | next :: outer =>
    if column < indent then
      let (ends, indent, outer) := closeBlocks column next outer
      (.blockEnd :: ends, indent, outer)
    else ([], indent, next :: outer)

/-- End the blocks that are deeper than a column. -/
def unindentTo (l : Layout) (column : Int) : Layout :=
  if l.inBrackets then l
  else
    let (ends, indent, outer) := closeBlocks column l.indent l.outer
    { l with tokens := l.tokens ++ ends, indent := indent, outer := outer }

/-- Leave out blanks, comments and line breaks. A tab counts as a blank unless a
key may start there; a line break outside brackets allows a key to start. A byte
order mark at the start of a line counts as a blank too, and takes its column. -/
def skipSpace (inBrackets : Bool) : List Char → Place → (keyAllowed : Bool) →
    (inComment : Bool) → Source × Bool
  | [], p, keyAllowed, _ => (⟨[], p⟩, keyAllowed)
  | c :: rest, p, keyAllowed, inComment =>
    if isBreak c then
      skipSpace inBrackets rest p.nextLine (keyAllowed || !inBrackets) false
    else if inComment || c == '#' || c == ' ' || (c == '\t' && (inBrackets || !keyAllowed)) ||
        (c == '\uFEFF' && p.column == 0) then
      skipSpace inBrackets rest (p.after c) keyAllowed (inComment || c == '#')
    else (⟨c :: rest, p⟩, keyAllowed)

/-- Go to the next token. -/
def toNextToken (l : Layout) : Layout :=
  let (source, keyAllowed) :=
    skipSpace l.inBrackets l.source.rest l.source.place l.keyAllowed false
  { l with source := source, keyAllowed := keyAllowed }

/-- Append a token that takes `count` characters. -/
def take (l : Layout) (count : Nat) (token : Token) : Layout :=
  { l.push token with source := l.source.skip count }

/-- Append a token that has been read, with what is left behind it. -/
def accept (l : Layout) (read : Token × Source) : Layout :=
  { l.push read.1 with source := read.2 }

/-- A directive or document marker ends all blocks. -/
def leaveBlocks? (l : Layout) : Option Layout := do
  let l ← (l.unindentTo (-1)).dropCandidate?
  return { l with keyAllowed := false }

/-- A hyphen before an item. -/
def blockEntry? (l : Layout) : Option Layout := do
  if !l.inBrackets && !l.keyAllowed then none
  else
    let l := l.indentTo l.source.place.column l.tokens.length .blockSequenceStart
    let l ← l.dropCandidate?
    return { l with keyAllowed := true }.take 1 .blockEntry

/-- A question mark before a key. -/
def key? (l : Layout) : Option Layout := do
  if !l.inBrackets && !l.keyAllowed then none
  else
    let l := l.indentTo l.source.place.column l.tokens.length .blockMappingStart
    let l ← l.dropCandidate?
    return { l with keyAllowed := !l.inBrackets }.take 1 .key

/-- A colon before a value. If a candidate is left, it was a key. -/
def value? (l : Layout) : Option Layout :=
  match l.candidate with
  | some c =>
    let l := { l with tokens := l.tokens.insertIdx c.position .key }
    let l := l.indentTo c.place.column c.position .blockMappingStart
    some ({ l with candidate := none, keyAllowed := false }.take 1 .value)
  | none =>
    if !l.inBrackets && !l.keyAllowed then none
    else
      let l := l.indentTo l.source.place.column l.tokens.length .blockMappingStart
      some ({ l with keyAllowed := !l.inBrackets }.take 1 .value)

/-- The start of a bracketed collection. -/
def openBracket? (l : Layout) (token : Token) : Option Layout := do
  let l ← l.saveCandidate?
  let l := { l with candidate := none, brackets := l.candidate :: l.brackets, keyAllowed := true }
  return l.take 1 token

/-- The end of a bracketed collection. -/
def closeBracket? (l : Layout) (token : Token) : Option Layout := do
  let l ← l.dropCandidate?
  let l := { l with keyAllowed := false }
  match l.brackets with
  | [] => return l.take 1 token
  | before :: brackets => return { l with candidate := before, brackets := brackets }.take 1 token

/-- A comma between items. -/
def flowEntry? (l : Layout) : Option Layout := do
  let l ← l.dropCandidate?
  return { l with keyAllowed := true }.take 1 .flowEntry

/-- A token with which a key may start. -/
def mayStartKey? (l : Layout) (read : Source → Option (Token × Source)) : Option Layout := do
  let l ← l.saveCandidate?
  return { l with keyAllowed := false }.accept (← read l.source)

/-- A block scalar. -/
def blockScalar? (l : Layout) (style : Style) : Option Layout := do
  let l ← l.dropCandidate?
  let (text, source) ← Scalar.block? (style == .folded) l.indent (l.source.skip 1)
  return { l with keyAllowed := true }.accept (.scalar text style, source)

/-- A plain scalar. If it ends with a line, a key may start behind it. -/
def plainScalar? (l : Layout) : Option Layout := do
  let l ← l.saveCandidate?
  let read ← Scalar.plain? l.inBrackets (l.indent + 1) l.source.rest l.source.place .none []
  return { l with keyAllowed := read.lineEnded }.accept (.scalar read.text .plain, read.source)

/-- The characters that mean something at the start of a token. -/
def indicators : List Char :=
  ['-', '?', ':', ',', '[', ']', '{', '}', '#', '&', '*', '!', '|', '>', '\'', '"', '%', '@', '\x60']

/-- Whether a plain scalar may start with these characters. -/
def startsPlain (inBrackets : Bool) (c : Char) (rest : List Char) : Bool :=
  !isBlank c && !isBreak c && !indicators.contains c ||
  c == '-' && !rest.head?.any isBlank ||
  !inBrackets && (c == '?' || c == ':') && !spaceFollows rest

/-- Read the token that starts with `c`. -/
def token? (l : Layout) (c : Char) (rest : List Char) : Option Layout :=
  let lineStart := l.source.place.column == 0
  let spaced := spaceFollows rest
  if lineStart && c == '%' then do
    let l ← l.leaveBlocks?
    return l.accept (← directive? l.source)
  else if lineStart && isDocumentMarker (c :: rest) then do
    return (← l.leaveBlocks?).take 3 (if c == '-' then .documentStart else .documentEnd)
  else if c == '[' then l.openBracket? .flowSequenceStart
  else if c == '{' then l.openBracket? .flowMappingStart
  else if c == ']' then l.closeBracket? .flowSequenceEnd
  else if c == '}' then l.closeBracket? .flowMappingEnd
  else if c == ',' then l.flowEntry?
  else if c == '-' && spaced then l.blockEntry?
  else if c == '?' && (l.inBrackets || spaced) then l.key?
  else if c == ':' && (l.inBrackets || spaced) then l.value?
  else if c == '*' then
    l.mayStartKey? fun s => (name? (s.skip 1)).map fun read => (.alias read.1, read.2)
  else if c == '&' then
    l.mayStartKey? fun s => (name? (s.skip 1)).map fun read => (.anchor read.1, read.2)
  else if c == '!' then l.mayStartKey? (tagToken? l.inBrackets)
  else if c == '|' && !l.inBrackets then l.blockScalar? .literal
  else if c == '>' && !l.inBrackets then l.blockScalar? .folded
  else if c == '\'' then
    l.mayStartKey? fun s =>
      (Scalar.single? (s.rest.drop 1) (s.place.right 1) .none []).map fun read =>
        (.scalar read.1 .singleQuoted, read.2)
  else if c == '"' then
    l.mayStartKey? fun s =>
      (Scalar.double? (s.rest.drop 1) (s.place.right 1) .none .none []).map fun read =>
        (.scalar read.1 .doubleQuoted, read.2)
  else if startsPlain l.inBrackets c rest then l.plainScalar?
  else none

/-- End the text: all blocks end, and no required key may be missing. -/
def finish? (l : Layout) : Option (List Token) := do
  return (← (l.unindentTo (-1)).dropCandidate?).tokens

/-- Read at most `fuel` further tokens. -/
def run? : (fuel : Nat) → Layout → Option (List Token)
  | 0, _ => none
  | fuel + 1, l => do
    let l ← l.toNextToken.dropStale?
    let l := l.unindentTo l.source.place.column
    match l.source.rest with
    | [] => l.finish?
    | c :: rest => run? fuel (← l.token? c rest)

end Layout

/-- The tokens of a prepared text. Each token takes at least one character, so the
length of the text bounds their number. -/
def tokens? (text : List Char) : Option (List Token) :=
  (Layout.start text).run? (text.length + 1)

end Switchboard.Yaml
