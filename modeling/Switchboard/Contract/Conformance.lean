import Switchboard.Rejection

/-!
# What may be registered

A contract may be registered if it is a tagged, pure contract. An object may be
registered as a contract if it declares that contract directly and has a single
identity: among the contracts it declares, at most one is extended by no other.
The root marker counts for nothing in a declaration, and a contract declared
twice counts once.
-/

namespace Switchboard

namespace Contract

/-- Whether a contract may be registered at all. -/
def qualify (c : Contract) : Except Rejection Unit :=
  match c.kind with
  | .root => .error .rootMarker
  | .concrete => .error (.notACapability c.name)
  | .contract => if c.tagged then .ok () else .error (.notACapability c.name)

/-- Whether a contract may be registered at all, as a test. -/
def isRegistrable (c : Contract) : Bool :=
  c.qualify.isOk

/-- Whether a contract is among some declared ones. -/
def declaredIn (c : Contract) (declared : List Contract) : Bool :=
  declared.any (·.same c)

/-- The first mention of each contract, in order. -/
def firstMentions : List Contract → List Contract
  | [] => []
  | c :: rest => c :: (firstMentions rest).filter (!·.same c)

/-- The contracts that a declaration counts: each once, the root marker never. -/
def counted (direct : List Contract) : List Contract :=
  firstMentions (direct.filter (!·.isRoot))

end Contract

namespace Catalogue

/-- The identities among some contracts: those that no other of them extends. -/
def identities (k : Catalogue) (declared : List Contract) : List Contract :=
  declared.filter fun c => !declared.any (k.descends · c)

/-- Whether an object that declares the contracts `direct` may stand for `c`. -/
def conform (k : Catalogue) (direct : List Contract) (c : Contract) : Except Rejection Unit :=
  let declared := Contract.counted direct
  if !c.declaredIn declared then
    .error (.notImplemented c.name)
  else
    let found := k.identities declared
    if found.length > 1 then .error (.severalCapabilities c.name (found.map (·.name)))
    else .ok ()

/-- Whether an object that declares the contracts `direct` may stand for `c`, as a test. -/
def implements (k : Catalogue) (direct : List Contract) (c : Contract) : Bool :=
  (k.conform direct c).isOk

/-- The whole check of an offer: first the contract, then the object. -/
def validate (k : Catalogue) (direct : List Contract) (c : Contract) : Except Rejection Unit := do
  c.qualify
  k.conform direct c

end Catalogue

end Switchboard
