import Switchboard.Proofs.Host
import Switchboard.Proofs.Registry.Naming
import Switchboard.Proofs.Registry.Shelf

/-!
# Owners do not meet

Owners share the homes of objects, the pins of names and one dictionary of buckets. If they offer
different objects, if no two contracts compete for a name and if observers only watch
(`Undisturbed`), they still do not notice each other:

* **the shelf** — what an owner has registered, in order (`Registry.shelf`), is changed by its own
  commands only (`Registry.Transition.shelf_eq`);
* **the judgement** — an offer is judged by itself when its name is free (`Registry.Sound.judged`),
  and an object has a home only if its owner has registered it (`Registry.Sound.owner_of_home`);
* **in parallel** — so each command of an owner does on its shelf what it does when the owner is
  alone (`Registry.perform_own`), and in the end everything is as if it had been
  (`Registry.owners_independent`).
-/

namespace Switchboard

/-! ## Offers -/

/-- An object that is offered as a contract on behalf of an owner. -/
structure Offer where
  owner : ComponentId
  object : Object
  contract : Contract
deriving DecidableEq

namespace RegistryCommand

def offer? : RegistryCommand → Option Offer
  | register owner o c => some ⟨owner, o, c⟩
  | _ => none

/-- The offers that some commands make. -/
def offers (commands : List RegistryCommand) : List Offer :=
  commands.filterMap offer?

theorem mem_offers {commands : List RegistryCommand} {offer : Offer} :
    offer ∈ offers commands ↔
      .register offer.owner offer.object offer.contract ∈ commands := by
  rw [offers, List.mem_filterMap]
  constructor
  · rintro ⟨command, member, same⟩
    cases command with
    | register owner o c =>
        cases same
        exact member
    | _ => cases same
  · intro member
    exact ⟨_, member, rfl⟩

theorem offers_subset {commands more : List RegistryCommand} (included : commands ⊆ more) :
    offers commands ⊆ offers more :=
  List.filterMap_subset offer? included

/-- A contract for which a name is claimed was offered validly. -/
theorem mem_offers_of_claims {k : Catalogue} {config : Config} {name : String}
    {commands : List RegistryCommand} {c : Contract} (claimed : c ∈ claims k config name commands) :
    ∃ offer ∈ offers commands, offer.contract = c ∧ Claims k config name offer.object c := by
  rw [claims, List.mem_reverse, List.mem_filterMap] at claimed
  obtain ⟨command, member, claim⟩ := claimed
  cases command with
  | register owner o other =>
      rw [claim?] at claim
      split at claim
      · rename_i valid
        cases claim
        exact ⟨⟨owner, o, c⟩, mem_offers.mpr member, rfl, valid⟩
      · cases claim
  | _ => cases claim

end RegistryCommand

open RegistryCommand (offers)

/-- No two contracts are checked against one expectation under a name. -/
def Settled (k : Catalogue) (config : Config) (commands : List RegistryCommand) : Prop :=
  ∀ first ∈ offers commands, ∀ second ∈ offers commands,
    Claims k config second.contract.name first.object first.contract →
    Claims k config second.contract.name second.object second.contract →
    first.contract.id = second.contract.id

/-- No object is offered on behalf of two owners. -/
def Apart (commands : List RegistryCommand) : Prop :=
  ∀ first ∈ offers commands, ∀ second ∈ offers commands,
    first.object.id = second.object.id → first.owner = second.owner

/-- Some calls in which owners have nothing to quarrel about, and observers change nothing. -/
structure Undisturbed (k : Catalogue) (config : Config)
    (calls : List (Call RegistryCommand RegistryAnswer)) : Prop where
  apart : Apart (Call.requests calls)
  settled : Settled k config (calls.map Call.command)
  calm : ∀ call ∈ calls, call.caller ≠ none → call.change = none

section

variable {k : Catalogue} {config : Config} {commands more : List RegistryCommand}

theorem Settled.mono (settled : Settled k config more) (included : commands ⊆ more) :
    Settled k config commands := by
  intro first offered second offered'
  exact settled first (RegistryCommand.offers_subset included offered) second
    (RegistryCommand.offers_subset included offered')

theorem Apart.mono (apart : Apart more) (included : commands ⊆ more) : Apart commands := by
  intro first offered second offered'
  exact apart first (RegistryCommand.offers_subset included offered) second
    (RegistryCommand.offers_subset included offered')

theorem Undisturbed.tail {call : Call RegistryCommand RegistryAnswer}
    {calls : List (Call RegistryCommand RegistryAnswer)}
    (undisturbed : Undisturbed k config (call :: calls)) : Undisturbed k config calls where
  apart := by
    apply undisturbed.apart.mono
    have outcomes := (List.sublist_cons_self call calls).map Call.outcome
    exact ((outcomes.filterMap hosted).map Prod.fst).subset
  settled := undisturbed.settled.mono (List.subset_cons_self ..)
  calm := by
    intro earlier made
    exact undisturbed.calm earlier (List.mem_cons_of_mem _ made)

end

namespace Registry

variable {r r' next : Registry} {owner : ComponentId} {o : Object} {c : Contract}
  {command : RegistryCommand} {answer : RegistryAnswer} {change : Option Change}

/-! ## What everyone knows -/

/-- Whatever is in a bucket was offered on behalf of its owner. -/
def Offered (commands : List RegistryCommand) (r : Registry) : Prop :=
  ∀ key bucket, r.buckets.get? key = some bucket → ∀ slot ∈ bucket.slots,
    ∃ offer ∈ offers commands, offer.owner = key.owner ∧ offer.object = slot.object

theorem Offered.transition {commands : List RegistryCommand} (offered : r.Offered commands)
    (step : r.Transition command answer change next) : next.Offered (command :: commands) := by
  intro key bucket found slot member
  have before : r.Offered (command :: commands) := by
    intro key bucket found slot member
    obtain ⟨offer, made, same⟩ := offered key bucket found slot member
    exact ⟨offer, RegistryCommand.offers_subset (List.subset_cons_self ..) made, same⟩
  rcases step.bucket_cases found with old | ⟨owner, o, c, rfl, -, rfl, rfl⟩
  · exact before key bucket old slot member
  · rcases List.mem_append.mp member with resident | last
    · rcases r.bucketFor_cases owner c with ⟨-, fresh⟩ | known
      · rw [fresh] at resident
        exact absurd resident List.not_mem_nil
      · exact before _ _ known slot resident
    · rw [List.mem_singleton.mp last]
      exact ⟨⟨owner, o, c⟩, RegistryCommand.mem_offers.mpr List.mem_cons_self, rfl, rfl⟩

/-- A registry after some commands, latest first, of which some may have put objects into it. -/
structure Sound (k : Catalogue) (config : Config) (made asked : List RegistryCommand)
    (r : Registry) : Prop where
  coherent : r.Coherent
  pinned : r.Pinned k config made
  offered : r.Offered asked

namespace Sound

variable {k : Catalogue} {config : Config} {made asked commands : List RegistryCommand}

theorem empty (k : Catalogue) (config : Config) (graph : Graph) :
    (Registry.empty k config graph).Sound k config [] [] where
  coherent := .empty k config graph
  pinned := .empty k config graph
  offered key bucket found := by cases found

theorem perform (sound : r.Sound k config made asked) (observers : Nat)
    (command : RegistryCommand) :
    (perform observers r command).state.Sound k config (command :: made) (command :: asked) where
  coherent := sound.coherent.transition (perform_transition observers r command [])
  pinned := sound.pinned.perform observers command
  offered := sound.offered.transition (perform_transition observers r command [])

/-- A command that makes no change puts nothing into the registry. -/
theorem perform_quiet (sound : r.Sound k config made asked) (observers : Nat)
    (command : RegistryCommand) (quiet : (Registry.perform observers r command).change = none) :
    (Registry.perform observers r command).state.Sound k config (command :: made) asked where
  coherent := sound.coherent.transition (perform_transition observers r command [])
  pinned := sound.pinned.perform observers command
  offered := by
    have step := perform_transition observers r command []
    rw [quiet] at step
    unfold Offered
    rw [step.buckets_eq]
    exact sound.offered

/-- If nobody else claims the name, an offer is judged by itself. -/
theorem judged (sound : r.Sound k config made asked)
    (settled : Settled k config (.register owner o c :: made)) :
    (r.accept o c).2 = verdict k config o c := by
  rw [← sound.pinned.catalogue, ← sound.pinned.configured]
  apply accept_snd_of_free
  intro claiming id pinned
  have claim := claiming_iff.mp claiming
  rw [sound.pinned.catalogue, sound.pinned.configured] at claim
  -- The contract that holds the name was offered before.
  rw [sound.pinned.pins, Option.map_eq_some_iff] at pinned
  obtain ⟨first, head, rfl⟩ := pinned
  obtain ⟨offer, offered, rfl, earlier⟩ :=
    RegistryCommand.mem_offers_of_claims (List.mem_of_mem_head? head)
  exact settled offer (RegistryCommand.offers_subset (List.subset_cons_self ..) offered)
    ⟨owner, o, c⟩ (RegistryCommand.mem_offers.mpr List.mem_cons_self) earlier claim

/-- If nobody else offers an object, it has no home but with the one who does. -/
theorem owner_of_home {key : BucketKey} (sound : r.Sound k config made asked)
    (apart : Apart (.register owner o c :: asked)) (home : r.homes.get? o.id = some key) :
    key.owner = owner := by
  obtain ⟨bucket, found, held⟩ := (sound.coherent.home_iff o.id key).mp home
  obtain ⟨slot, member, same⟩ := List.mem_map.mp held
  obtain ⟨offer, offered, own, object⟩ := sound.offered key bucket found slot member
  rw [← own]
  apply apart offer (RegistryCommand.offers_subset (List.subset_cons_self ..) offered)
    ⟨owner, o, c⟩ (RegistryCommand.mem_offers.mpr List.mem_cons_self)
  rw [object]
  exact same

/-- If nobody else offers an object, registries with the same shelf agree on its home. -/
theorem home_eq {made' asked' : List RegistryCommand} (sound : r.Sound k config made asked)
    (sound' : r'.Sound k config made' asked') (same : r.shelf owner = r'.shelf owner)
    (apart : Apart (.register owner o c :: asked))
    (apart' : Apart (.register owner o c :: asked')) :
    r.homes.get? o.id = r'.homes.get? o.id := by
  apply Option.ext
  intro key
  constructor
  · intro home
    obtain rfl := sound.owner_of_home apart home
    exact sound.coherent.home_of_shelf sound'.coherent same home
  · intro home
    obtain rfl := sound'.owner_of_home apart' home
    exact sound'.coherent.home_of_shelf sound.coherent same.symm home

end Sound

/-! ## In parallel -/

/-- The commands on behalf of an owner that the host has called, latest first. -/
def requestsOf (owner : ComponentId) (calls : List (Call RegistryCommand RegistryAnswer)) :
    List RegistryCommand :=
  (Call.requests calls).filter (·.isOf owner)

/-- An owner's commands, latest first, carried out when the owner is alone. -/
def alone (k : Catalogue) (config : Config) (graph : Graph) (commands : List RegistryCommand) :
    Session Registry RegistryCommand RegistryAnswer :=
  (Session.start (.empty k config graph)).play perform (commands.reverse.map .command)

theorem alone_cons (k : Catalogue) (config : Config) (graph : Graph) (command : RegistryCommand)
    (commands : List RegistryCommand) :
    (alone k config graph (command :: commands)).state =
      (perform 0 (alone k config graph commands).state command).state ∧
    (alone k config graph (command :: commands)).replies =
      (alone k config graph commands).replies ++
        [(command, (perform 0 (alone k config graph commands).state command).answer [])] := by
  unfold alone
  rw [List.reverse_cons]
  exact Session.play_concat perform rfl commands.reverse command

/-- A registry on which an owner is one of many, beside one on which the owner is alone. -/
structure Parallel (k : Catalogue) (config : Config) (lone : Graph) (owner : ComponentId)
    (calls : List (Call RegistryCommand RegistryAnswer)) (r : Registry) : Prop where
  shared : r.Sound k config (calls.map Call.command) (Call.requests calls)
  own : (alone k config lone (requestsOf owner calls)).state.Sound k config
    (requestsOf owner calls) (requestsOf owner calls)
  shelf : r.shelf owner = (alone k config lone (requestsOf owner calls)).state.shelf owner
  replies : ((Call.hosted calls).filter (·.1.isOf owner)).reverse =
    (alone k config lone (requestsOf owner calls)).replies

namespace Parallel

variable {k : Catalogue} {config : Config} {graph lone : Graph}
  {calls : List (Call RegistryCommand RegistryAnswer)}

theorem begin : (Registry.empty k config graph).Parallel k config lone owner [] := by
  have silent : alone k config lone [] = .start (.empty k config lone) := Session.run_nil ..
  have nothing : requestsOf owner [] = [] := rfl
  constructor
  · exact .empty k config graph
  · rw [nothing, silent]
    exact .empty k config lone
  · rw [nothing, silent]
    rfl
  · rw [nothing, silent]
    rfl

/-- An observer that changes nothing is not noticed. -/
theorem watched (parallel : r.Parallel k config lone owner calls) (observers id : Nat)
    (quiet : (perform observers r command).change = none) :
    (perform observers r command).state.Parallel k config lone owner
      (.of perform observers r (some id) command :: calls) := by
  have same : (perform observers r command).state.shelf owner = r.shelf owner := by
    have step := perform_transition observers r command []
    rw [quiet] at step
    rw [Registry.shelf, step.buckets_eq]
    rfl
  exact ⟨parallel.shared.perform_quiet observers command quiet, parallel.own,
    same.trans parallel.shelf, parallel.replies⟩

/-- What the host does on behalf of others is not noticed. -/
theorem others (parallel : r.Parallel k config lone owner calls) (observers : Nat)
    (foreign : ¬ command.isOf owner = true) :
    (perform observers r command).state.Parallel k config lone owner
      (.of perform observers r none command :: calls) := by
  have requests : requestsOf owner (.of perform observers r none command :: calls) =
      requestsOf owner calls := List.filter_cons_of_neg foreign
  have hosted : Call.hosted (.of perform observers r none command :: calls) =
      (command, (perform observers r command).answer []) :: Call.hosted calls := rfl
  have same : (perform observers r command).state.shelf owner = r.shelf owner := by
    apply (perform_transition observers r command []).shelf_eq
    intro own
    exact foreign (beq_iff_eq.mpr own)
  refine ⟨parallel.shared.perform observers command, ?_, ?_, ?_⟩
  · rw [requests]
    exact parallel.own
  · rw [requests, same]
    exact parallel.shelf
  · rw [requests, hosted, List.filter_cons_of_neg]
    · exact parallel.replies
    · exact foreign

/-- What an owner offers is judged as if the owner were alone. -/
theorem judged (parallel : r.Parallel k config lone owner calls)
    (settled : Settled k config (.register owner o c :: calls.map Call.command))
    (apart : Apart (.register owner o c :: Call.requests calls)) :
    (r.accept o c).2 = ((alone k config lone (requestsOf owner calls)).state.accept o c).2 ∧
      r.homes.get? o.id =
        (alone k config lone (requestsOf owner calls)).state.homes.get? o.id := by
  have own : requestsOf owner calls ⊆ Call.requests calls := List.filter_sublist.subset
  constructor
  · have called := List.Subset.trans own Call.requests_subset
    rw [parallel.shared.judged settled,
      parallel.own.judged (settled.mono (List.cons_subset_cons _ called))]
  · exact parallel.shared.home_eq parallel.own parallel.shelf apart
      (apart.mono (List.cons_subset_cons _ own))

/-- What is done on behalf of the owner is done alike on both sides. -/
theorem owned (parallel : r.Parallel k config lone owner calls) (observers : Nat)
    (own : command.isOf owner = true)
    (settled : Settled k config (command :: calls.map Call.command))
    (apart : Apart (command :: Call.requests calls)) :
    (perform observers r command).state.Parallel k config lone owner
      (.of perform observers r none command :: calls) := by
  have requests : requestsOf owner (.of perform observers r none command :: calls) =
      command :: requestsOf owner calls := List.filter_cons_of_pos own
  have mine : command.owner? = some owner := beq_iff_eq.mp own
  obtain ⟨answered, kept⟩ := perform_own mine parallel.shelf
    (by
      rintro o c rfl
      cases mine
      exact parallel.judged settled apart) observers 0
  have hosted : Call.hosted (.of perform observers r none command :: calls) =
      (command, (perform observers r command).answer []) :: Call.hosted calls := rfl
  obtain ⟨state, replies⟩ := alone_cons k config lone command (requestsOf owner calls)
  refine ⟨parallel.shared.perform observers command, ?_, ?_, ?_⟩
  · rw [requests, state]
    exact parallel.own.perform 0 command
  · rw [requests, state]
    exact kept
  · rw [requests, hosted, List.filter_cons_of_pos, List.reverse_cons, replies, answered,
      parallel.replies]
    exact own

/-- Whoever calls, the owner's shelf stays what it is when the owner is alone. -/
theorem call (parallel : r.Parallel k config lone owner calls) (observers : Nat)
    (caller : Option Nat) (command : RegistryCommand)
    (undisturbed : Undisturbed k config (.of perform observers r caller command :: calls)) :
    (perform observers r command).state.Parallel k config lone owner
      (.of perform observers r caller command :: calls) := by
  cases caller with
  | some id =>
      apply parallel.watched
      exact undisturbed.calm _ List.mem_cons_self nofun
  | none =>
      by_cases own : command.isOf owner = true
      · exact parallel.owned observers own undisturbed.settled undisturbed.apart
      · exact parallel.others observers own

end Parallel

/-! ## On every course -/

variable {catalogue : Catalogue} {config : Config} {graph : Graph}
  {calls : List (Call RegistryCommand RegistryAnswer)}
  {s : Session Registry RegistryCommand RegistryAnswer}
  {tasks : List (Task RegistryCommand RegistryAnswer)}

theorem parallel_of_course
    (course : Course perform (.start (.empty catalogue config graph)) calls s tasks)
    (undisturbed : Undisturbed catalogue config calls) (lone : Graph) (owner : ComponentId) :
    s.state.Parallel catalogue config lone owner calls := by
  revert undisturbed
  apply course.keeps (P := fun calls r => Undisturbed catalogue config calls →
    r.Parallel catalogue config lone owner calls)
  · intro _
    exact .begin
  · intro calls observers r caller command ih undisturbed
    exact (ih undisturbed.tail).call observers caller command undisturbed

/-- **Owners are independent.** Take any course in which the host lets many owners register and
remove, in any order, and nothing is under way at the end. If no object is offered on behalf of two
owners, if no two contracts compete for one expectation under a name, and if observers change
nothing, then all commands of an owner have returned, and each of them just what it returns when the
commands of this owner are carried out alone on a registry of its own, whoever may see whom there;
and the buckets of the owner and its entries are those of that lone registry. -/
theorem owners_independent
    (course : Course perform (.start (.empty catalogue config graph)) calls s [])
    (undisturbed : Undisturbed catalogue config calls) (owner : ComponentId) (lone : Graph) :
    (s.replies.filter (·.1.isOf owner)).map Prod.fst = (requestsOf owner calls).reverse ∧
      s.replies.filter (·.1.isOf owner) =
        (alone catalogue config lone (requestsOf owner calls)).replies ∧
      (∀ contract, s.state.buckets.get? ⟨owner, contract⟩ =
        (alone catalogue config lone (requestsOf owner calls)).state.buckets.get?
          ⟨owner, contract⟩) ∧
      s.state.entries owner =
        (alone catalogue config lone (requestsOf owner calls)).state.entries owner := by
  have parallel := parallel_of_course course undisturbed lone owner
  -- All calls of the host have returned, in the order in which they were made.
  have returned := course.replies_eq perform_uniform rfl
  refine ⟨?_, ?_, ?_, entries_of_shelf parallel.shelf⟩
  · rw [returned, List.filter_reverse, List.map_reverse, requestsOf, Call.requests,
      List.filter_map]
    rfl
  · rw [returned, List.filter_reverse]
    exact parallel.replies
  · intro contract
    exact get?_buckets_of_shelf ⟨owner, contract⟩ parallel.shelf

/-- An observer that looks for a timer when it is called for the first time. -/
def curious : Observer RegistryCommand :=
  ⟨none, [.command (.lookup ⟨2⟩ ⟨1⟩ slow 0)], 1, .success⟩

/-- Two owners take turns with their timers, and somebody watches. -/
def turns : List (Step RegistryCommand) :=
  [.subscribe curious, .command (.register ⟨1⟩ ⟨0, [slow]⟩ slow),
    .command (.register ⟨2⟩ ⟨1, [slow]⟩ slow), .command (.register ⟨1⟩ ⟨0, [slow]⟩ slow),
    .command (.clearOwner ⟨2⟩), .command (.register ⟨1⟩ ⟨2, [slow]⟩ slow)]

/-- Alone, the first owner gets the answers that it gets while the second one comes and goes. -/
theorem owners_independent_in_turns :
    ∃ calls s, Course perform (.start (.empty [] timers .full)) calls s [] ∧
      Undisturbed [] timers calls ∧ calls.length = 6 ∧
      (alone [] timers .isolated (requestsOf ⟨1⟩ calls)).replies =
        [(.register ⟨1⟩ ⟨0, [slow]⟩ slow, .registration (.ok 0)),
          (.register ⟨1⟩ ⟨0, [slow]⟩ slow, .registration (.error (.alreadyRegistered "timer"))),
          (.register ⟨1⟩ ⟨2, [slow]⟩ slow, .registration (.ok 1))] ∧
      (alone [] timers .isolated (requestsOf ⟨2⟩ calls)).replies =
        [(.register ⟨2⟩ ⟨1, [slow]⟩ slow, .registration (.ok 0)),
          (.clearOwner ⟨2⟩, .count 1)] := by
  have course := Course.moment perform (.start (.empty [] timers .full)) turns 21
  have undisturbed : Undisturbed [] timers
      (Session.moment perform (.start (.empty [] timers .full)) turns 21).calls := by
    constructor
    · unfold Apart
      decide
    · unfold Settled
      decide
    · decide
  refine ⟨_, _, course, undisturbed, rfl, ?_, ?_⟩
  · exact (owners_independent course undisturbed ⟨1⟩ .isolated).2.1.symm
  · exact (owners_independent course undisturbed ⟨2⟩ .isolated).2.1.symm

end Registry

end Switchboard
