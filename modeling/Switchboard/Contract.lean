import Switchboard.Text.Numeral

/-!
# Contracts

A contract is what a context promises: a name, a family, the operations it
declares and perhaps a parent contract that it extends. Two contracts are the
same contract when their identities are equal, whatever else they declare.

The parent of a contract is named by its place in a catalogue, so a catalogue may
hold chains of any length, contracts that extend themselves, and cycles. Ancestry
(`Catalogue.descends`) therefore looks at the first thirty-two ancestors only.
-/

namespace Switchboard

/-- The identity of a contract: the type that it is declared as. Types are told apart by
their numbers, for two types may have one name. -/
structure ContractId where
  number : Nat
  typeName : String
deriving DecidableEq, Inhabited

/-- The family a contract belongs to: one of the four standard ones, or a family
named by its author. A named family never equals a standard one. -/
inductive Family where
  | cpu
  | memory
  | device
  | compiler
  | custom (name : String)
deriving DecidableEq

/-- The name of a family. -/
def Family.text : Family → String
  | .cpu => "cpu"
  | .memory => "memory"
  | .device => "device"
  | .compiler => "compiler"
  | .custom name => name

/-- What is described: the root marker that every context carries, a pure
contract, or a concrete type. -/
inductive Kind where
  | root
  | contract
  | concrete
deriving DecidableEq

/-- The declared shape of one operation. -/
structure Operation where
  name : String
  params : List String
  returns : String
deriving DecidableEq

/-- A contract as it is declared. -/
structure Contract where
  id : ContractId
  name : String
  family : Family
  kind : Kind
  /-- Whether the contract is declared to be a capability. -/
  tagged : Bool
  schema : UInt32
  operations : List Operation
  /-- The place in the catalogue of the contract that this one extends. -/
  parent : Option Nat
deriving DecidableEq

namespace Contract

/-- A pure contract at schema revision one, tagged as a capability. -/
def capability (id : ContractId) (name : String) (family : Family) : Contract where
  id := id
  name := name
  family := family
  kind := .contract
  tagged := true
  schema := 1
  operations := []
  parent := none

/-- The description of a concrete type, which is no capability. -/
def concrete (id : ContractId) (name : String) (family : Family) : Contract :=
  { capability id name family with kind := .concrete, tagged := false }

/-- The root marker. -/
def rootMarker (id : ContractId) : Contract :=
  { capability id "context" (.custom "root") with kind := .root, tagged := false }

/-- Whether a contract is the root marker. -/
def isRoot (c : Contract) : Bool :=
  c.kind == .root

/-- Whether two contracts are the same one: identities decide. -/
def same (c d : Contract) : Bool :=
  c.id == d.id

/-- The name of a contract in messages, with its family. -/
def text (c : Contract) : String :=
  c.name ++ " (" ++ c.family.text ++ ")"

end Contract

/-- The contracts of a program, each in its place. -/
abbrev Catalogue := List Contract

namespace Catalogue

/-- How many ancestors `descends` looks at. -/
def ancestryLimit : Nat := 32

/-- The contract that `c` extends. -/
def parent? (k : Catalogue) (c : Contract) : Option Contract :=
  c.parent.bind (k[·]?)

/-- Whether one of the first `limit` ancestors of `c` is the contract `target`. -/
def descendsWithin (k : Catalogue) : Nat → Contract → Contract → Bool
  | 0, _, _ => false
  | limit + 1, c, target =>
    match k.parent? c with
    | none => false
    | some p => p.same target || descendsWithin k limit p target

/-- Whether `target` is an ancestor of `c`, near enough to be looked at. -/
def descends (k : Catalogue) (c target : Contract) : Bool :=
  k.descendsWithin ancestryLimit c target

end Catalogue

end Switchboard
