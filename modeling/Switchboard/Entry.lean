import Switchboard.Component
import Switchboard.Contract
import Switchboard.Text.Order

/-!
# Entries

One registered object as its owner lists it. Entries are ordered by the name of
the contract, then by its type name, then by index.
-/

namespace Switchboard

/-- One registered object, by its owner, its contract and its index. -/
structure Entry where
  owner : ComponentId
  contract : Contract
  index : UInt32
deriving DecidableEq

namespace Entry

/-- The text of an entry. -/
def text (e : Entry) : String :=
  e.owner.text ++ "/" ++ e.contract.name ++ "[" ++ Text.Numeral.text e.index.toNat ++ "]"

/-- Whether one entry goes before another, or may. -/
def precedes (a b : Entry) : Bool :=
  if a.contract.name ≠ b.contract.name then Text.precedes a.contract.name b.contract.name
  else if a.contract.id.typeName ≠ b.contract.id.typeName then
    Text.precedes a.contract.id.typeName b.contract.id.typeName
  else decide (a.index ≤ b.index)

end Entry

end Switchboard
