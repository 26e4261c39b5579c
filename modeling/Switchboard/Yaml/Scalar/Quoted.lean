import Switchboard.Text.Hex
import Switchboard.Yaml.Scalar.Gap

/-!
# Quoted scalars

Between single quotes only a doubled quote is special. Between double quotes a
backslash starts an escape, and a backslash at the end of a line joins the next
line without a space. Neither may hold a document marker at the start of a line.
-/

namespace Switchboard.Yaml.Scalar

/-- The rest of a single-quoted scalar; `read` is what came before, last character
first. -/
def single? : List Char → Place → Gap → List Char → Option (List Char × Source)
  | [], _, _, _ => none
  | c :: rest, p, gap, read =>
    if isBlank c then single? rest (p.right 1) (gap.blank c) read
    else if isBreak c then single? rest p.nextLine (gap.lineBreak c) read
    else if p.column = 0 && isDocumentMarker (c :: rest) then none
    else if c = '\'' then
      match rest with
      | '\'' :: rest => single? rest (p.right 2) .none ('\'' :: (gap.folded ++ read))
      | _ => some ((gap.folded ++ read).reverse, ⟨rest, p.right 1⟩)
    else single? rest (p.after c) .none (c :: (gap.folded ++ read))

/-- What a backslash and a letter stand for. -/
inductive Escape where
  | character (c : Char)
  | code (digits : Nat)

/-- The escapes between double quotes. -/
def escape? (c : Char) : Option Escape :=
  match c with
  | '0' => some (.character '\x00')
  | 'a' => some (.character '\x07')
  | 'b' => some (.character '\x08')
  | 't' => some (.character '\t')
  | '\t' => some (.character '\t')
  | 'n' => some (.character '\n')
  | 'v' => some (.character '\x0b')
  | 'f' => some (.character '\x0c')
  | 'r' => some (.character '\r')
  | 'e' => some (.character '\x1b')
  | ' ' => some (.character ' ')
  | '"' => some (.character '"')
  | '/' => some (.character '/')
  | '\\' => some (.character '\\')
  | 'N' => some (.character '\x85')
  | '_' => some (.character '\u00a0')
  | 'L' => some (.character '\u2028')
  | 'P' => some (.character '\u2029')
  | 'x' => some (.code 2)
  | 'u' => some (.code 4)
  | 'U' => some (.code 8)
  | _ => none

/-- The character with a code point, if there is one. -/
def character? (code : Nat) : Option Char :=
  if code.isValidChar then some (Char.ofNat code) else none

/-- Whether an escape has been started: by its backslash, or as a code point of
which some digits are left to come. -/
inductive Pending where
  | none
  | escape
  | code (left value : Nat)

/-- The rest of a double-quoted scalar; `read` is what came before, last character
first. -/
def double? : List Char → Place → Pending → Gap → List Char → Option (List Char × Source)
  | [], _, _, _, _ => none
  | c :: rest, p, .none, gap, read =>
    if isBlank c then double? rest (p.right 1) .none (gap.blank c) read
    else if isBreak c then double? rest p.nextLine .none (gap.lineBreak c) read
    else if p.column = 0 && isDocumentMarker (c :: rest) then none
    else if c = '"' then some ((gap.folded ++ read).reverse, ⟨rest, p.right 1⟩)
    else if c = '\\' then double? rest (p.right 1) .escape .none (gap.folded ++ read)
    else double? rest (p.after c) .none .none (c :: (gap.folded ++ read))
  | c :: rest, p, .escape, _, read =>
    if isBreak c then double? rest p.nextLine .none .escapedBreak read
    else
      match escape? c with
      | some (.character plain) => double? rest (p.right 1) .none .none (plain :: read)
      | some (.code digits) => double? rest (p.right 1) (.code (digits - 1) 0) .none read
      | .none => none
  | c :: rest, p, .code left value, _, read =>
    match Text.Hex.value? c with
    | .none => none
    | some digit =>
      let value := 16 * value + digit
      match left with
      | left + 1 => double? rest (p.right 1) (.code left value) .none read
      | 0 =>
        match character? value with
        | some plain => double? rest (p.right 1) .none .none (plain :: read)
        | .none => none

end Switchboard.Yaml.Scalar
