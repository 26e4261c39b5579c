import Switchboard.Yaml.Scalar.Gap

/-!
# Plain scalars

A plain scalar ends before a colon that is followed by space, before a comment,
before a document marker, and where a line is not indented deeply enough; inside
brackets also before a comma or bracket, and a line may start anywhere.
-/

namespace Switchboard.Yaml.Scalar

/-- A bracket or brace. -/
def isBracket (c : Char) : Bool := c == '[' || c == ']' || c == '{' || c == '}'

/-- A plain scalar that has been read: its text, the source behind it and the gap
after it, and whether that gap reaches over the end of a line. -/
structure PlainScalar where
  text : List Char
  source : Source
  lineEnded : Bool

/-- Whether a plain scalar ends before a character, where a gap may be open. -/
def endsPlain (inBrackets : Bool) (indent : Int) (column : Nat) (gap : Gap) (c : Char)
    (rest : List Char) : Bool :=
  gap.isOpen &&
    (!inBrackets && (column : Int) < indent || column == 0 && isDocumentMarker (c :: rest) ||
      c == '#') ||
  c == ':' && spaceFollows rest || inBrackets && (c == ',' || isBracket c)

/-- Whether a colon inside brackets stands where it may neither end a plain scalar
nor belong to it. -/
def isStrayColon (c : Char) (rest : List Char) : Bool :=
  c == ':' && rest.head?.any fun d => isBracket d || d == ',' || d == '?'

/-- The rest of a plain scalar; `read` is what came before, last character first.
A line has to be indented by `indent` at least, unless `inBrackets`. -/
def plain? (inBrackets : Bool) (indent : Int) :
    List Char → Place → Gap → List Char → Option PlainScalar
  | [], p, gap, read => some ⟨read.reverse, ⟨[], p⟩, gap.broken⟩
  | c :: rest, p, gap, read =>
    if isBlank c then
      if gap.broken && (p.column : Int) < indent && c == '\t' then none
      else plain? inBrackets indent rest (p.right 1) (gap.blank c) read
    else if isBreak c then plain? inBrackets indent rest p.nextLine (gap.lineBreak c) read
    else if endsPlain inBrackets indent p.column gap c rest then
      some ⟨read.reverse, ⟨c :: rest, p⟩, gap.broken⟩
    else if inBrackets && isStrayColon c rest then none
    else plain? inBrackets indent rest (p.after c) .none (c :: (gap.folded ++ read))

end Switchboard.Yaml.Scalar
