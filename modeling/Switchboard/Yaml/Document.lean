import Switchboard.Dictionary
import Switchboard.Yaml.Event
import Switchboard.Yaml.Layout

/-!
# Documents

Events put together into nodes. An anchor gets a number, the count of the names
that had one before it; an alias has the number that its name has at that moment
and stands for the last node with this number, wherever in the document that is.
Since aliases make a short text stand for a long one, they may be followed only so
many times while a document is read.
-/

namespace Switchboard.Yaml

/-- Give numbers to anchors and aliases. There is no answer if an alias has no
anchor before it. -/
def numbered? (names : Dictionary (List Char) Nat) :
    List (Event (List Char)) → Option (List (Event Nat))
  | [] => some []
  | event :: rest =>
    let number := names.size
    let named (anchor : Option (List Char)) : Dictionary (List Char) Nat :=
      match anchor with
      | some name => names.put name number
      | none => names
    match event with
    | .alias name => do return .alias (← names.get? name) :: (← numbered? names rest)
    | .scalar anchor tag text style => do
      return .scalar (anchor.map fun _ => number) tag text style ::
        (← numbered? (named anchor) rest)
    | .beginSequence anchor => do
      return .beginSequence (anchor.map fun _ => number) :: (← numbered? (named anchor) rest)
    | .beginMapping anchor => do
      return .beginMapping (anchor.map fun _ => number) :: (← numbered? (named anchor) rest)
    | .endSequence => do return .endSequence :: (← numbered? names rest)
    | .endMapping => do return .endMapping :: (← numbered? names rest)

/-- A node. -/
inductive Node where
  | alias (number : Nat)
  | scalar (tag : Option Tag) (text : List Char) (style : Style)
  | sequence (items : List Node)
  | mapping (entries : List (Node × Node))

/-- A collection that is still open, its members last first. -/
inductive OpenNode where
  | sequence (items : List Node)
  | mapping (entries : List (Node × Node))
  | entry (entries : List (Node × Node)) (key : Node)

namespace Node

/-- Put a finished node where it belongs: into the innermost open collection, or
nowhere if there is none. -/
def place : List OpenNode → Node → List OpenNode ⊕ Node
  | [], node => .inr node
  | .sequence items :: outer, node => .inl (.sequence (node :: items) :: outer)
  | .mapping entries :: outer, node => .inl (.entry entries node :: outer)
  | .entry entries key :: outer, node => .inl (.mapping ((key, node) :: entries) :: outer)

/-- What an event makes of the open collections: more or fewer of them, or the
node that ends with it. -/
def step? (outer : List OpenNode) : Event Nat → Option (List OpenNode ⊕ Node)
  | .alias number => some (place outer (.alias number))
  | .scalar _ tag text style => some (place outer (.scalar tag text style))
  | .beginSequence _ => some (.inl (.sequence [] :: outer))
  | .beginMapping _ => some (.inl (.mapping [] :: outer))
  | .endSequence =>
    match outer with
    | .sequence items :: outer => some (place outer (.sequence items.reverse))
    | _ => none
  | .endMapping =>
    match outer with
    | .mapping entries :: outer => some (place outer (.mapping entries.reverse))
    | _ => none

/-- The node that the events start with. -/
def first? (outer : List OpenNode) : List (Event Nat) → Option Node
  | [] => none
  | event :: rest =>
    match step? outer event with
    | some (.inl outer) => first? outer rest
    | some (.inr node) => some node
    | none => none

end Node

/-- The anchor of the node that starts with an event. -/
def Event.anchor? : Event Nat → Option Nat
  | .scalar anchor .. | .beginSequence anchor | .beginMapping anchor => anchor
  | _ => none

/-- A document: its node, unless it is empty, its nodes with an anchor, the last
one first, and the count of its events. -/
structure Document where
  root : Option Node
  anchored : List (Nat × Node)
  size : Nat

/-- What reads from a document. It keeps count of the aliases followed so far. -/
abbrev Reading (α : Type) := StateT Nat Option α

namespace Document

/-- The nodes with an anchor, each with its number, in front of those found
before. -/
def anchoredIn (found : List (Nat × Node)) : List (Event Nat) → List (Nat × Node)
  | [] => found
  | event :: rest =>
    match event.anchor? with
    | none => anchoredIn found rest
    | some number =>
      match Node.first? [] (event :: rest) with
      | some node => anchoredIn ((number, node) :: found) rest
      | none => anchoredIn found rest

/-- The document of some events. -/
def ofEvents? (events : List (Event Nat)) : Option Document :=
  match events with
  | [] => some ⟨none, [], 0⟩
  | _ => do return ⟨some (← Node.first? [] events), anchoredIn [] events, events.length⟩

/-- Read a text that holds at most one document. -/
def read? (text : List Char) : Option Document := do
  let events ← events? (← tokens? (← prepare? text))
  ofEvents? (← numbered? .empty events)

/-- The node that a node stands for: itself, unless it is an alias. While a
document is read, aliases may be followed a hundred times for each of its events. -/
def target? (d : Document) : Node → Reading Node
  | .alias number => do
    let followed ← get
    if followed < 100 * d.size then
      set (followed + 1)
      d.anchored.lookup number
    else failure
  | node => pure node

end Document

end Switchboard.Yaml
