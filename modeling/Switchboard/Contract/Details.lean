import Switchboard.Contract
import Switchboard.Text.Quoted

/-!
# Contracts in full

The texts that show a contract with all that tells it apart: its identity, and its
family as it was declared.
-/

namespace Switchboard

/-- An identity, marked as one. -/
def ContractId.details (id : ContractId) : String :=
  "ContractId(" ++ id.typeName ++ ")"

/-- A family as it was declared, so that a named family differs from a standard
one of the same name. -/
def Family.details : Family → String
  | .cpu => "Cpu"
  | .memory => "Memory"
  | .device => "Device"
  | .compiler => "Compiler"
  | .custom name => "Custom(" ++ Text.quoted name ++ ")"

/-- A contract with its name, family and type name. -/
def Contract.details (c : Contract) : String :=
  "CapabilityType \x7b name: " ++ Text.quoted c.name ++ ", family: " ++ c.family.details ++
    ", type: " ++ Text.quoted c.id.typeName ++ " \x7d"

end Switchboard
