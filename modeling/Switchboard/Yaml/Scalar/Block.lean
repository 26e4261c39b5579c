import Switchboard.Yaml.Source

/-!
# Block scalars

A block scalar starts after a line with a bar or an angle bracket and consists of
the lines that are indented as far as its first line, or as far as its header
says. A literal scalar keeps its line breaks. A folded one turns a line break
between two lines into a space, unless one of them starts with a blank. The
header also says whether the line breaks at the end are stripped, clipped to one,
or kept.
-/

namespace Switchboard.Yaml.Scalar

/-- What happens to the line breaks at the end. -/
inductive Chomping where
  | strip
  | clip
  | keep
deriving DecidableEq

/-- What a header says: the chomping, and how much deeper than the surrounding
block the lines are indented. -/
structure Header where
  chomping : Chomping
  deeper : Option Nat
deriving DecidableEq

/-- The sign of a chomping. -/
def chomping? (c : Char) : Option Chomping :=
  match c with
  | '+' => some .keep
  | '-' => some .strip
  | _ => none

/-- The digit of an indentation: one to nine. -/
def deeper? (c : Char) : Option Nat :=
  if '1' ≤ c ∧ c ≤ '9' then some (c.toNat - '0'.toNat) else none

/-- Read the signs of a header in either order. A zero is not a sign. -/
def header (s : Source) : Header × Source :=
  match s.rest with
  | c :: rest =>
    match chomping? c with
    | some chomping =>
      match rest.head?.bind deeper? with
      | some deeper => (⟨chomping, some deeper⟩, s.skip 2)
      | none => (⟨chomping, none⟩, s.skip 1)
    | none =>
      match deeper? c with
      | some deeper =>
        match rest.head?.bind chomping? with
        | some chomping => (⟨chomping, some deeper⟩, s.skip 2)
        | none => (⟨.clip, some deeper⟩, s.skip 1)
      | none => (⟨.clip, none⟩, s)
  | [] => (⟨.clip, none⟩, s)

/-- What has been read of a block scalar. Texts are kept last character first. -/
structure Lines where
  /-- The text of the lines before the current one, without their last break. -/
  read : List Char
  /-- The break behind the last line. -/
  lastBreak : Option Char
  /-- The breaks of the empty lines since then. -/
  emptyLines : List Char
  /-- Whether the last line starts with a blank. -/
  startsBlank : Bool
  /-- The indentation, once it is known. -/
  indent : Option Nat
  /-- The deepest indentation of the lines so far. -/
  deepest : Nat

namespace Lines

/-- Start a line whose first character is `c`. -/
def startLine (l : Lines) (folds : Bool) (c : Char) : Lines :=
  let joined :=
    if folds && l.lastBreak == some '\n' && !l.startsBlank && !isBlank c then
      if l.emptyLines.isEmpty then ' ' :: l.read else l.read
    else l.lastBreak.toList ++ l.read
  { l with
    read := c :: (l.emptyLines ++ joined), lastBreak := none, emptyLines := [],
    startsBlank := isBlank c }

/-- The whole text once there are no more lines. -/
def finish (l : Lines) (chomping : Chomping) : List Char :=
  let withBreak := if chomping = .strip then l.read else l.lastBreak.toList ++ l.read
  (if chomping = .keep then l.emptyLines ++ withBreak else withBreak).reverse

end Lines

/-- Read the lines of a block scalar inside a block of indentation `outer`. While
`inLine`, characters belong to the current line; before that they are its
indentation. -/
def blockLines? (folds : Bool) (chomping : Chomping) (outer : Int) :
    List Char → Place → Bool → Lines → Option (List Char × Source)
  | [], p, _, l => some (l.finish chomping, ⟨[], p⟩)
  | c :: rest, p, true, l =>
    if isBreak c then
      blockLines? folds chomping outer rest p.nextLine false { l with lastBreak := some c }
    else
      blockLines? folds chomping outer rest (p.after c) true { l with read := c :: l.read }
  | c :: rest, p, false, l =>
    let inIndentation := l.indent.all (p.column < ·)
    if inIndentation && c == ' ' then
      blockLines? folds chomping outer rest (p.right 1) false l
    else
      let deepest := max l.deepest p.column
      if inIndentation && c == '\t' then none
      else if isBreak c then
        blockLines? folds chomping outer rest p.nextLine false
          { l with emptyLines := c :: l.emptyLines, deepest := deepest }
      else
        let indent := l.indent.getD (max deepest (max (outer + 1).toNat 1))
        if p.column = indent then
          blockLines? folds chomping outer rest (p.after c) true
            ({ l with indent := some indent }.startLine folds c)
        else some (l.finish chomping, ⟨c :: rest, p⟩)

/-- Read a block scalar behind its first character. -/
def block? (folds : Bool) (outer : Int) (s : Source) : Option (List Char × Source) := do
  let (head, s) := header s
  let s ← s.endLine?
  let indent := head.deeper.map fun deeper => (max outer 0).toNat + deeper
  blockLines? folds head.chomping outer s.rest s.place false
    ⟨[], none, [], false, indent, 0⟩

end Switchboard.Yaml.Scalar
