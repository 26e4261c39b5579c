import Switchboard.Contract

/-!
# Standard contracts

The contracts of the four standard families, each for a given identity: a contract
over cells or data of some type has one identity for every such type, and otherwise
declares the same.
-/

namespace Switchboard

namespace Contract

/-- What a processor offers to the devices that are wired to it. -/
def cpu (id : ContractId) : Contract :=
  { capability id "cpu" .cpu with
    operations := [
      ⟨"is_interrupt_supported", [], "bool"⟩,
      ⟨"signal_interrupt", ["ComponentId", "u32"], "()"⟩,
      ⟨"clear_interrupt", ["ComponentId", "u32"], "()"⟩] }

/-- What a memory of cells offers. -/
def memory (id : ContractId) : Contract :=
  { capability id "memory" .memory with
    operations := [
      ⟨"size", [], "usize"⟩,
      ⟨"read", ["usize"], "Option<Cell>"⟩,
      ⟨"write", ["usize", "Cell"], "bool"⟩] }

/-- What a device that takes and gives data offers. -/
def device (id : ContractId) : Contract :=
  { capability id "device" .device with
    operations := [⟨"read_data", [], "Data"⟩, ⟨"write_data", ["Data"], "()"⟩] }

/-- A compiler declares no operations of its own. -/
def compiler (id : ContractId) : Contract :=
  capability id "compiler" .compiler

end Contract

end Switchboard
