import Switchboard.Contract.Standard
import Switchboard.Registry
import Switchboard.Session

/-!
# Commands of a registry

Everything that can be asked of a registry, what it answers, which records it writes
and which change it commits. A command that is refused or has no effect commits
nothing, and only a registration, a removed bucket or a cleared owner is a change.

A removed bucket is announced with the contract it was created for; the record
names the contract that was asked for.
-/

namespace Switchboard

/-- What can be asked of a registry. -/
inductive RegistryCommand where
  | register (owner : ComponentId) (object : Object) (contract : Contract)
  | unregister (owner : ComponentId) (contract : Contract)
  /-- The same for a contract that is known only as a value. -/
  | unregisterType (owner : ComponentId) (contract : Contract)
  | clearOwner (owner : ComponentId)
  | lookup (requester owner : ComponentId) (contract : Contract) (index : UInt32)
  /-- A lookup that gives the object as a bare context. -/
  | lookupContext (requester owner : ComponentId) (contract : Contract) (index : UInt32)
  /-- A lookup under a contract of one family; without an index, of the first object. -/
  | lookupFamily (family : Family) (requester owner : ComponentId) (contract : Contract)
    (index : Option UInt32)
  /-- Whether the first processor of an owner takes interrupts. -/
  | interruptSupport (requester owner : ComponentId) (processor : ContractId)
  | visible (requester owner : ComponentId)
  | entries (owner : ComponentId)
  | bucketSize (owner : ComponentId) (contract : Contract)
  | contains (object : Object)
  | owners
  | size
  | isEmpty
  | expectation (name : String)
  | details
  | scopeDetails (component : ComponentId)
  | graph (command : GraphCommand)
deriving DecidableEq

/-- What a registry answers. -/
inductive RegistryAnswer where
  | registration (result : Except RegistrationError UInt32)
  | found (result : Except LookupError Object)
  | context (result : Except LookupError Object)
  | support (result : Except LookupError Bool)
  | flag (value : Bool)
  | count (n : Nat)
  | entries (entries : List Entry)
  | owners (ids : List ComponentId)
  | expectation (expectation : Option Expectation)
  | details (text : String)
  | scopeDetails (component : ComponentId) (text : String)
  | graph (answer : GraphAnswer)

namespace Effect

variable {σ ρ : Type}

/-- An answer, and nothing else. -/
def quiet (state : σ) (answer : ρ) : Effect σ ρ :=
  ⟨state, fun _ => answer, [], none⟩

/-- An answer and records of it. -/
def logged (state : σ) (answer : ρ) (records : List LogRecord) : Effect σ ρ :=
  ⟨state, fun _ => answer, records, none⟩

/-- An answer, a record of it, and a change to announce before it is given. -/
def committed (state : σ) (answer : ρ) (record : LogRecord) (change : Change) : Effect σ ρ :=
  ⟨state, fun _ => answer, [record], some change⟩

end Effect

/-- Whether an object that is found as a processor takes interrupts. Objects that do
not say otherwise take none. -/
def Object.takesInterrupts (_ : Object) : Bool :=
  false

namespace Registry

/-- The text that shows a registry by its sizes. -/
def details (r : Registry) (observers : Nat) : String :=
  "ContextRegistry \x7b buckets: " ++ Text.Numeral.text r.buckets.size ++ ", instances: " ++
    Text.Numeral.text r.size ++ ", observers: " ++ Subscribers.details observers ++ ", .. \x7d"

/-- The text that shows a registry as one component's view of it. -/
def scopeDetails (r : Registry) (observers : Nat) (component : ComponentId) : String :=
  "ComponentContexts \x7b id: ComponentId(" ++ Text.Numeral.text component.number.toNat ++
    "), registry: " ++ r.details observers ++ " \x7d"

/-- The record of a refused registration. -/
def refusal (owner : ComponentId) (c : Contract) : RegistrationError → LogRecord
  | .rejected cause => .rejected owner c cause
  | .alreadyRegistered _ => .offeredAgain owner c

/-- The records of a lookup: one if no slot is found, and none otherwise. -/
def misses (r : Registry) (requester owner : ComponentId) (c : Contract) (index : UInt32) :
    List LogRecord :=
  match r.find requester owner c index with
  | .error _ => [.notFound requester c]
  | .ok _ => []

/-- Register an object and announce it. -/
def performRegister (r : Registry) (owner : ComponentId) (o : Object) (c : Contract) :
    Effect Registry RegistryAnswer :=
  match r.register owner o c with
  | (r, .ok index) =>
    .committed r (.registration (.ok index)) (.registered owner c index)
      (.registered owner c index)
  | (r, .error cause) =>
    .logged r (.registration (.error cause)) [refusal owner c cause]

/-- Remove a bucket and announce it. -/
def performUnregister (r : Registry) (owner : ComponentId) (c : Contract) :
    Effect Registry RegistryAnswer :=
  match r.unregister owner c with
  | (r, none) => .quiet r (.flag false)
  | (r, some bucket) =>
    .committed r (.flag true) (.unregistered owner c bucket.size)
      (.unregistered owner bucket.contract bucket.size)

/-- Remove the buckets of an owner and announce it, if there are any. -/
def performClear (r : Registry) (owner : ComponentId) : Effect Registry RegistryAnswer :=
  match r.clearOwner owner with
  | (r, 0) => .quiet r (.count 0)
  | (r, buckets) =>
    .committed r (.count buckets) (.cleared owner buckets) (.ownerCleared owner buckets)

/-- Look up an object as a contract of a certain family. A contract of another family
is refused without a record, before anything is looked up. -/
def performLookupFamily (r : Registry) (expected : Family) (requester owner : ComponentId)
    (c : Contract) (index : UInt32) (answer : Except LookupError Object → RegistryAnswer) :
    Effect Registry RegistryAnswer :=
  .logged r (answer (r.lookupFamily expected requester owner c index))
    (if c.family = expected then r.misses requester owner c index else [])

/-- Carry out a command. -/
def perform : System Registry RegistryCommand RegistryAnswer
  | _, r, .register owner o c => r.performRegister owner o c
  | _, r, .unregister owner c => r.performUnregister owner c
  | _, r, .unregisterType owner c => r.performUnregister owner c
  | _, r, .clearOwner owner => r.performClear owner
  | _, r, .lookup requester owner c index =>
    .logged r (.found (r.lookup requester owner c index)) (r.misses requester owner c index)
  | _, r, .lookupContext requester owner c index =>
    .logged r (.context (r.lookupContext requester owner c index))
      (r.misses requester owner c index)
  | _, r, .lookupFamily family requester owner c index =>
    r.performLookupFamily family requester owner c (index.getD 0) .found
  | _, r, .interruptSupport requester owner processor =>
    r.performLookupFamily .cpu requester owner (.cpu processor) 0 fun result =>
      .support (result.map Object.takesInterrupts)
  | _, r, .visible requester owner => .quiet r (.flag (r.isVisible requester owner))
  | _, r, .entries owner => .quiet r (.entries (r.entries owner))
  | _, r, .bucketSize owner c => .quiet r (.count (r.bucketSize owner c))
  | _, r, .contains o => .quiet r (.flag (r.contains o))
  | _, r, .owners => .quiet r (.owners r.owners)
  | _, r, .size => .quiet r (.count r.size)
  | _, r, .isEmpty => .quiet r (.flag r.isEmpty)
  | _, r, .expectation name => .quiet r (.expectation (r.config.expectation? name))
  | observers, r, .details => .quiet r (.details (r.details observers))
  | observers, r, .scopeDetails component =>
    .quiet r (.scopeDetails component (r.scopeDetails observers component))
  | _, r, .graph command =>
    let (graph, answer) := command.run r.graph
    .quiet { r with graph := graph } (.graph answer)

end Registry

end Switchboard
