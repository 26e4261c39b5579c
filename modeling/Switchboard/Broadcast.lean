import Switchboard.Session

/-!
# Broadcasts

A list of observers on its own. A host tells it of changes, and it answers which
observers failed and how. It has no state besides its observers.
-/

namespace Switchboard

/-- What can be asked of a list of observers. -/
inductive BroadcastCommand where
  | notify (change : Change)
  | size
  | isEmpty
  | details
deriving DecidableEq

/-- What a list of observers answers. -/
inductive BroadcastAnswer where
  | failures (failures : List Failure)
  | count (n : Nat)
  | flag (value : Bool)
  | details (text : String)
deriving DecidableEq

/-- Carry out a command. -/
def Broadcast.perform : System Unit BroadcastCommand BroadcastAnswer
  | _, _, .notify change => ⟨(), .failures, [], some change⟩
  | observers, _, .size => ⟨(), fun _ => .count observers, [], none⟩
  | observers, _, .isEmpty => ⟨(), fun _ => .flag (observers == 0), [], none⟩
  | observers, _, .details => ⟨(), fun _ => .details (Subscribers.details observers), [], none⟩

end Switchboard
