import Switchboard.Proofs.Contract.Identity

/-!
# The order of a declaration

An object declares its contracts in a list, but what comes of it depends on the set of them only,
root markers left out. Nothing is asked of what the contracts extend: the bounded walk need not be
transitive, and contracts may lead back to themselves.

* **counting** — declarations that list the same contracts count the same ones, in some order
  (`Contract.counted_perm`);
* **identities** — whether a contract is extended by one of them does not depend on their order, so
  the identities are the same, in some order (`Catalogue.identities_perm`);
* **verdicts** — so an object is accepted on both declarations, or refused on both for the same
  cause, which may name the identities in another order (`Catalogue.verdict_ignores_order`).
-/

namespace Switchboard

/-- Two verdicts that are the same, but for the order in which a refusal names the identities that it
has found. -/
inductive SameVerdict : Except Rejection Unit → Except Rejection Unit → Prop
  | accepted : SameVerdict (.ok ()) (.ok ())
  | refused (cause : Rejection) : SameVerdict (.error cause) (.error cause)
  | several {contract : String} {found found' : List String} : found.Perm found' →
      SameVerdict (.error (.severalCapabilities contract found))
        (.error (.severalCapabilities contract found'))

namespace Contract

variable {direct direct' : List Contract}

/-- A contract is counted once. -/
theorem nodup_counted (faithful : ∀ c ∈ listed direct, ∀ d ∈ listed direct, c.id = d.id → c = d) :
    (counted direct).Nodup := by
  refine (firstMentions_inOrder faithful).imp ?_
  rintro c _ before rfl
  exact Nat.lt_irrefl _ before

/-- Declarations that list the same contracts count the same ones, in some order. -/
theorem counted_perm (faithful : ∀ c ∈ listed direct, ∀ d ∈ listed direct, c.id = d.id → c = d)
    (same : ∀ c, c ∈ listed direct ↔ c ∈ listed direct') :
    (counted direct).Perm (counted direct') := by
  have faithful' : ∀ c ∈ listed direct', ∀ d ∈ listed direct', c.id = d.id → c = d := by
    intro c first d second
    exact faithful c ((same c).mpr first) d ((same d).mpr second)
  apply (List.perm_ext_iff_of_nodup (nodup_counted faithful) (nodup_counted faithful')).mpr
  intro c
  calc
    c ∈ counted direct ↔ c ∈ listed direct := mem_firstMentions faithful
    _ ↔ c ∈ listed direct' := same c
    _ ↔ c ∈ counted direct' := (mem_firstMentions faithful').symm

end Contract

namespace Catalogue

open Contract (listed counted)

variable {k : Catalogue} {direct direct' : List Contract} {c : Contract}

/-- Which contracts are extended by others does not depend on the order. -/
theorem identities_perm {l l' : List Contract} (perm : l.Perm l') :
    (k.identities l).Perm (k.identities l') := by
  have extended : (fun c => !l.any (k.descends · c)) = fun c => !l'.any (k.descends · c) := by
    funext c
    rw [perm.any_eq]
  unfold identities
  rw [extended]
  exact perm.filter _

/-- What an object may stand for does not depend on the order of what counts. -/
theorem conform_perm (perm : (counted direct).Perm (counted direct')) :
    SameVerdict (k.conform direct c) (k.conform direct' c) := by
  have declared : c.declaredIn (counted direct) = c.declaredIn (counted direct') := perm.any_eq
  have found : (k.identities (counted direct)).Perm (k.identities (counted direct')) :=
    identities_perm perm
  simp only [conform, ← declared, ← found.length_eq]
  split
  · exact .refused _
  · split
    · exact .several (found.map _)
    · exact .accepted

/-- **The order is ignored.** Take any contracts that can be told apart by their identities, whatever
they extend, and two declarations that list the same ones of them, in any order, with any repetitions
and root markers. An object is judged alike on both, whatever contract it is to stand for: it is
accepted on both, or refused on both for the same cause, and if several identities are the cause, the
same ones are named in some order. -/
theorem verdict_ignores_order {S : Set Contract}
    (faithful : ∀ c ∈ S, ∀ d ∈ S, c.id = d.id → c = d) (known : ∀ d ∈ listed direct, d ∈ S)
    (same : ∀ d, d ∈ listed direct ↔ d ∈ listed direct') (c : Contract) :
    SameVerdict (k.conform direct c) (k.conform direct' c) ∧
      SameVerdict (k.validate direct c) (k.validate direct' c) := by
  have perm : (counted direct).Perm (counted direct') := by
    refine Contract.counted_perm ?_ same
    intro a first b second
    exact faithful a (known a first) b (known b second)
  refine ⟨conform_perm perm, ?_⟩
  -- The contract itself is judged first, without regard to the object.
  unfold validate
  rcases c.qualify with cause | ⟨⟩
  · exact .refused cause
  · exact conform_perm perm

/-- What a board declares if its terminal is mentioned first, and once more, and the bus once. -/
def terminalFirst : List Contract :=
  .device ⟨2, "Terminal"⟩ :: boardContracts.tail

/-- A board is refused as a processor whether it mentions its bus or its terminal first. -/
theorem verdict_ignores_order_on_board :
    (∀ c ∈ boards, ∀ d ∈ boards, c.id = d.id → c = d) ∧ (∀ d ∈ listed boardContracts, d ∈ boards) ∧
      (∀ d, d ∈ listed boardContracts ↔ d ∈ listed terminalFirst) ∧
      boards.validate boardContracts boards[0] =
        .error (.severalCapabilities "cpu" ["bus", "device"]) ∧
      boards.validate terminalFirst boards[0] =
        .error (.severalCapabilities "cpu" ["device", "bus"]) ∧
      SameVerdict (boards.validate boardContracts boards[0])
        (boards.validate terminalFirst boards[0]) := by
  have faithful : ∀ c ∈ boards, ∀ d ∈ boards, c.id = d.id → c = d := by decide
  have known : ∀ d ∈ listed boardContracts, d ∈ boards := by decide
  have same : ∀ d, d ∈ listed boardContracts ↔ d ∈ listed terminalFirst := by
    intro d
    have there : listed boardContracts ⊆ listed terminalFirst := by decide
    have back : listed terminalFirst ⊆ listed boardContracts := by decide
    exact ⟨fun member => there member, fun member => back member⟩
  refine ⟨faithful, known, same, rfl, rfl, ?_⟩
  exact (verdict_ignores_order (S := {c | c ∈ boards}) faithful known same boards[0]).2

end Catalogue

end Switchboard
