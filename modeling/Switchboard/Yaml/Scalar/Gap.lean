import Switchboard.Yaml.Source

/-!
# Folding

Between two words of a quoted or plain scalar there may be blanks and line
breaks. Blanks on one line stay. A single line break becomes a space; of several,
the first is dropped and the others stay. A separator other than a line feed
always stays. Blanks around line breaks are dropped.
-/

namespace Switchboard.Yaml.Scalar

/-- Blanks and line breaks read since the last word, last character first. -/
structure Gap where
  blanks : List Char
  /-- Whether the gap reaches over the end of a line. -/
  broken : Bool
  /-- The first line break, unless it was escaped. -/
  first : Option Char
  further : List Char
deriving DecidableEq

namespace Gap

/-- No gap. -/
def none : Gap := ⟨[], false, .none, []⟩

/-- The gap that an escaped line break starts. -/
def escapedBreak : Gap := ⟨[], true, .none, []⟩

/-- Whether there is a gap. -/
def isOpen (g : Gap) : Bool := g.broken || !g.blanks.isEmpty

/-- One more blank. -/
def blank (g : Gap) (c : Char) : Gap :=
  if g.broken then g else { g with blanks := c :: g.blanks }

/-- One more line break. -/
def lineBreak (g : Gap) (c : Char) : Gap :=
  if g.broken then { g with further := c :: g.further }
  else { g with broken := true, first := some c }

/-- What the gap contributes to the scalar, last character first. -/
def folded (g : Gap) : List Char :=
  if g.broken then
    match g.first with
    | some '\n' => if g.further.isEmpty then [' '] else g.further
    | some c => g.further ++ [c]
    | .none => g.further
  else g.blanks

end Gap

end Switchboard.Yaml.Scalar
