import Switchboard.Registry.Command

/-!
# Scopes

A scope is the view of a registry that one component is given. The component's own
id is bound into it: the component registers and removes only what is its own, and
looks up only in its own name.
-/

namespace Switchboard

/-- What a component can ask through its scope. -/
inductive ScopeCommand where
  | register (object : Object) (contract : Contract)
  | unregister (contract : Contract)
  | lookup (owner : ComponentId) (contract : Contract) (index : UInt32)
  | lookupContext (owner : ComponentId) (contract : Contract) (index : UInt32)
  | lookupFamily (family : Family) (owner : ComponentId) (contract : Contract)
    (index : Option UInt32)
deriving DecidableEq

/-- The command that a component gives to the registry through its scope. -/
def ScopeCommand.bind (component : ComponentId) : ScopeCommand → RegistryCommand
  | register o c => .register component o c
  | unregister c => .unregister component c
  | lookup owner c index => .lookup component owner c index
  | lookupContext owner c index => .lookupContext component owner c index
  | lookupFamily family owner c index => .lookupFamily family component owner c index

end Switchboard
