import Switchboard.Change
import Switchboard.Config
import Switchboard.Connection
import Switchboard.Contract.Conformance
import Switchboard.Entry

/-!
# The registry

Owners put objects into buckets, one bucket for each owner and contract, and
objects in a bucket are numbered from zero in the order of registration. An object
is in at most one place at a time, whoever owns it. A bucket is removed as a whole.
A lookup finds an object by its number, and gives it as the contract that it was
offered as or as a bare context.

A contract that has no expectation under its type name may have one under its
name. Such an expectation belongs to the first contract that is checked against
it; the registry pins the name to this contract for good.
-/

namespace Switchboard

/-- An object that can be registered, with the contracts it declares. -/
structure Object where
  id : Nat
  direct : List Contract
deriving DecidableEq

/-- What identifies a bucket. -/
structure BucketKey where
  owner : ComponentId
  contract : ContractId
deriving DecidableEq

/-- A registered object, with the contract that it was offered as. -/
structure Slot where
  object : Object
  offeredAs : ContractId
deriving DecidableEq

/-- The object of a slot as a contract, which has to be the one it was offered as. -/
def Slot.object? (slot : Slot) (c : Contract) : Option Object :=
  if slot.offeredAs = c.id then some slot.object else none

/-- A bucket: the contract it was created for, and its slots in order. -/
structure Bucket where
  contract : Contract
  slots : List Slot
deriving DecidableEq

/-- How many objects are in a bucket. -/
def Bucket.size (bucket : Bucket) : Nat :=
  bucket.slots.length

/-- The index of the next object to be put into a bucket. Indices have thirty-two bits. -/
def Bucket.next (bucket : Bucket) : UInt32 :=
  .ofNat bucket.size

/-- Whether an object is in a bucket. -/
def Bucket.holds (bucket : Bucket) (id : Nat) : Bool :=
  bucket.slots.any (·.object.id == id)

/-- The state of a registry. The catalogue and the configuration never change. -/
structure Registry where
  catalogue : Catalogue
  config : Config
  graph : Graph
  buckets : Dictionary BucketKey Bucket
  /-- For each registered object the bucket it is in. -/
  homes : Dictionary Nat BucketKey
  /-- For each name under which an expectation was applied, its contract. -/
  pins : Dictionary String ContractId

/-- The expectation that a contract has to meet, and how it is found. -/
inductive Governance where
  | none
  | byType (expectation : Expectation)
  | byName (expectation : Expectation)
deriving DecidableEq

/-- How a configuration governs a contract: its type name comes before its name. -/
def Config.governance (config : Config) (c : Contract) : Governance :=
  match config.expectation? c.id.typeName with
  | some expectation => .byType expectation
  | .none =>
    match config.expectation? c.name with
    | some expectation => .byName expectation
    | .none => .none

namespace Registry

/-- A registry without buckets. -/
def empty (catalogue : Catalogue) (config : Config) (graph : Graph) : Registry where
  catalogue := catalogue
  config := config
  graph := graph
  buckets := .empty
  homes := .empty
  pins := .empty

/-! ## Registration -/

/-- Claim a contract's name for it, and say whether the name is its own. -/
def pinName (r : Registry) (c : Contract) : Registry × Except Rejection Unit :=
  match r.pins.get? c.name with
  | none => ({ r with pins := r.pins.put c.name c.id }, .ok ())
  | some pinned =>
    (r, if pinned = c.id then .ok ()
      else .error (.ambiguousName c.name pinned.typeName c.id.typeName))

/-- Decide whether an object may be registered as a contract. A name is claimed as
soon as the object and the contract are valid, even if the expectation under that
name is not met. -/
def accept (r : Registry) (o : Object) (c : Contract) : Registry × Except Rejection Unit :=
  match r.catalogue.validate o.direct c with
  | .error cause => (r, .error cause)
  | .ok () =>
    match r.config.governance c with
    | .none => (r, .ok ())
    | .byType expectation => (r, expectation.check c)
    | .byName expectation =>
      match r.pinName c with
      | (r, .error cause) => (r, .error cause)
      | (r, .ok ()) => (r, expectation.check c)

/-- Append an object to the bucket of an owner and a contract. -/
def append (r : Registry) (owner : ComponentId) (o : Object) (c : Contract) : Registry × UInt32 :=
  let key : BucketKey := ⟨owner, c.id⟩
  let bucket := (r.buckets.get? key).getD ⟨c, []⟩
  ({ r with
      buckets := r.buckets.put key { bucket with slots := bucket.slots ++ [⟨o, c.id⟩] }
      homes := r.homes.put o.id key },
    bucket.next)

/-- Register an object as a contract, and give its index. -/
def register (r : Registry) (owner : ComponentId) (o : Object) (c : Contract) :
    Registry × Except RegistrationError UInt32 :=
  match r.accept o c with
  | (r, .error cause) => (r, .error (.rejected cause))
  | (r, .ok ()) =>
    if r.homes.contains o.id then (r, .error (.alreadyRegistered c.name))
    else
      let (r, index) := r.append owner o c
      (r, .ok index)

/-- Remove a bucket; its objects may be registered again. -/
def removeBucket (r : Registry) (key : BucketKey) : Registry :=
  match r.buckets.get? key with
  | none => r
  | some bucket =>
    { r with
      buckets := r.buckets.erase key
      homes := r.homes.filterKeys (!bucket.holds ·) }

/-- Remove the bucket of an owner and a contract, and give what it was. -/
def unregister (r : Registry) (owner : ComponentId) (c : Contract) : Registry × Option Bucket :=
  let key : BucketKey := ⟨owner, c.id⟩
  (r.removeBucket key, r.buckets.get? key)

/-- The keys of an owner's buckets. -/
def keysOf (r : Registry) (owner : ComponentId) : List BucketKey :=
  r.buckets.keys.filter (·.owner == owner)

/-- Remove all buckets of an owner, and say how many there were. -/
def clearOwner (r : Registry) (owner : ComponentId) : Registry × Nat :=
  ((r.keysOf owner).foldl removeBucket r, (r.keysOf owner).length)

/-! ## Lookup -/

/-- Whether a requester may see what an owner offers. Everyone sees their own. -/
def isVisible (r : Registry) (requester owner : ComponentId) : Bool :=
  requester == owner || r.graph.connects requester owner

/-- The slots of an owner under a contract, in order. -/
def slots (r : Registry) (owner : ComponentId) (c : Contract) : List Slot :=
  match r.buckets.get? ⟨owner, c.id⟩ with
  | some bucket => bucket.slots
  | none => []

/-- Find a slot by its index. That the owner is out of sight, that it has no such
bucket and that the index is too large are not told apart. -/
def find (r : Registry) (requester owner : ComponentId) (c : Contract) (index : UInt32) :
    Except LookupError Slot :=
  if r.isVisible requester owner then
    match (r.slots owner c)[index.toNat]? with
    | some slot => .ok slot
    | none => .error .notFound
  else .error .notFound

/-- Look up an object as a contract. -/
def lookup (r : Registry) (requester owner : ComponentId) (c : Contract) (index : UInt32) :
    Except LookupError Object :=
  match r.find requester owner c index with
  | .error cause => .error cause
  | .ok slot =>
    match slot.object? c with
    | some o => .ok o
    | none => .error .notFound

/-- Look up an object as a bare context. -/
def lookupContext (r : Registry) (requester owner : ComponentId) (c : Contract) (index : UInt32) :
    Except LookupError Object :=
  (r.find requester owner c index).map Slot.object

/-- Look up an object as a contract of a certain family. -/
def lookupFamily (r : Registry) (expected : Family) (requester owner : ComponentId)
    (c : Contract) (index : UInt32) : Except LookupError Object :=
  if c.family = expected then r.lookup requester owner c index
  else .error (.rejected (.familyMismatch c.name expected c.family))

/-! ## Introspection -/

/-- All entries of an owner, in order. -/
def entries (r : Registry) (owner : ComponentId) : List Entry :=
  let buckets := r.buckets.pairs.filter (·.1.owner == owner)
  let entries := buckets.flatMap fun pair =>
    (List.range pair.2.next.toNat).map fun index => ⟨owner, pair.2.contract, .ofNat index⟩
  entries.mergeSort Entry.precedes

/-- How many objects an owner has under a contract. -/
def bucketSize (r : Registry) (owner : ComponentId) (c : Contract) : Nat :=
  (r.slots owner c).length

/-- Whether an object is registered anywhere. -/
def contains (r : Registry) (o : Object) : Bool :=
  r.homes.contains o.id

/-- The owners of buckets, each once and in ascending order. -/
def owners (r : Registry) : List ComponentId :=
  ComponentId.sorted (r.buckets.keys.map (·.owner)).eraseDups

/-- How many objects are registered. -/
def size (r : Registry) : Nat :=
  r.homes.size

/-- Whether no object is registered. -/
def isEmpty (r : Registry) : Bool :=
  r.homes.isEmpty

end Registry

end Switchboard
