import Switchboard.Proofs.Registry.Admission
import Switchboard.Proofs.Registry.Ledger
import Switchboard.Proofs.Transcript

/-!
# What a refused registration leaves behind

A registration that is refused puts nothing into a bucket, but it may have claimed the name of its
contract before it failed, and the claim stays (`Registry.perform_refused`):

* **unnoticed** — if it claimed nothing new, whatever is done later goes exactly as if the
  registration had not been tried;
* **noticed** — if it did, another contract of this name is turned away for it
  (`Registry.register_rival_of_pinned`), which otherwise it would not be, for nothing was ever
  registered under the name (`Registry.register_rival_of_unpinned`).

So a new claim is all that anyone can ever notice (`Registry.refusal_unnoticed_iff`).
-/

namespace Switchboard

/-- Another contract that declares the same, for a type that has the same name. -/
def Contract.rival (c : Contract) : Contract :=
  { c with id := ⟨c.id.number + 1, c.id.typeName⟩ }

theorem Contract.rival_id_ne (c : Contract) : c.id ≠ c.rival.id := by
  intro same
  exact Nat.succ_ne_self _ (congrArg ContractId.number same).symm

/-- An object that declares one registrable contract and nothing else may stand for it. -/
theorem Catalogue.validate_singleton {k : Catalogue} {c : Contract}
    (registrable : c.qualify = .ok ()) : k.validate [c] c = .ok () := by
  have proper : c.isRoot = false := by
    unfold Contract.qualify at registrable
    unfold Contract.isRoot
    cases kind : c.kind with
    | root =>
        rw [kind] at registrable
        cases registrable
    | contract => rfl
    | concrete => rfl
  have counted : Contract.counted [c] = [c] := by
    rw [Contract.counted, List.filter_cons_of_pos (by rw [proper]; rfl)]
    rfl
  have single : (k.identities [c]).length ≤ 1 := List.length_filter_le _ [c]
  rw [validate, registrable]
  show k.conform [c] c = .ok ()
  simp only [conform, counted]
  rw [if_neg (by simp [Contract.declaredIn, Contract.same]), if_neg (Nat.not_lt.mpr single)]

namespace Registry

variable {r : Registry} {owner : ComponentId} {o : Object} {c : Contract}
  {cause : RegistrationError}

/-- A refused registration has checked the offer, and done nothing else. -/
theorem perform_refused (refused : (r.register owner o c).2 = .error cause) (observers : Nat) :
    perform observers r (.register owner o c) =
      .logged (r.accept o c).1 (.registration (.error cause)) [refusal owner c cause] := by
  show r.performRegister owner o c = _
  unfold performRegister
  rcases r.register_cases owner o c with ⟨_, _, result⟩ | ⟨_, _, result⟩ | ⟨_, _, result⟩
  · rw [result] at refused ⊢
    cases refused
    rfl
  · rw [result] at refused ⊢
    cases refused
    rfl
  · rw [result] at refused
    cases refused

/-! ## Rivals -/

/-- Who may claim a name may do so for another contract of this name as well. -/
theorem Claiming.rival (claiming : r.Claiming o c) (id : Nat) :
    r.Claiming ⟨id, [c.rival]⟩ c.rival := by
  obtain ⟨valid, expectation, governed⟩ := claiming
  have registrable : c.qualify = .ok () := by
    rcases qualified : c.qualify with fault | ⟨⟩
    · rw [Catalogue.validate, qualified] at valid
      cases valid
    · rfl
  exact ⟨Catalogue.validate_singleton (c := c.rival) registrable, expectation, governed⟩

/-- A contract is turned away if its name was claimed by another. -/
theorem register_rival_of_pinned (claiming : r.Claiming o c)
    (pinned : r.pins.get? c.name = some c.id) (owner : ComponentId) (id : Nat) :
    (r.register owner ⟨id, [c.rival]⟩ c.rival).2 =
      .error (.rejected (.ambiguousName c.name c.id.typeName c.id.typeName)) := by
  have taken : (r.accept ⟨id, [c.rival]⟩ c.rival).2 =
      .error (.ambiguousName c.name c.id.typeName c.id.typeName) :=
    accept_snd_of_taken (claiming.rival id) pinned c.rival_id_ne
  exact register_snd_of_rejected taken owner

/-- No contract is turned away for its name if nobody has claimed it. -/
theorem register_rival_of_unpinned (claiming : r.Claiming o c)
    (unpinned : r.pins.get? c.name = none) (owner : ComponentId) (id : Nat)
    (contract pinned found : String) :
    (r.register owner ⟨id, [c.rival]⟩ c.rival).2 ≠
      .error (.rejected (.ambiguousName contract pinned found)) := by
  obtain ⟨valid, expectation, governed⟩ := claiming.rival id
  have verdict : (r.accept ⟨id, [c.rival]⟩ c.rival).2 = expectation.check c.rival := by
    rw [accept, valid]
    dsimp only
    rw [governed]
    dsimp only
    rw [pinName, show r.pins.get? c.rival.name = none from unpinned]
  intro refused
  rcases r.register_cases owner ⟨id, [c.rival]⟩ c.rival with
    ⟨cause, rejected, result⟩ | ⟨_, _, result⟩ | ⟨_, _, result⟩
  · rw [result] at refused
    cases refused
    exact expectation.check_ne_ambiguousName _ _ _ _ (verdict.symm.trans rejected)
  · rw [result] at refused
    cases refused
  · rw [result] at refused
    cases refused

/-! ## Who notices -/

variable {s : Session Registry RegistryCommand RegistryAnswer}

/-- After a refused registration, the session stands where it stood, but for a claim. -/
theorem afresh_run_refused (refused : (s.state.register owner o c).2 = .error cause)
    (caller : Option Nat) :
    (s.run perform [.run caller (.command (.register owner o c))]).afresh =
      { s with state := (s.state.accept o c).1 }.afresh := by
  have refusal := perform_refused refused s.subscribers.size
  rw [Session.run_unannounced (by rw [refusal]; rfl), refusal]
  rfl

/-- **Refusals leave claims.** A refused registration, whoever tried it, goes unnoticed in all
answers that are ever given later exactly if it was not the first valid offer of a contract that
is governed by its name; and then it goes unnoticed in everything else, too. -/
theorem refusal_unnoticed_iff (refused : (s.state.register owner o c).2 = .error cause)
    (caller : Option Nat) :
    ((∀ agenda, (s.run perform [.run caller (.command (.register owner o c))]).outcomes
        perform agenda = s.outcomes perform agenda) ↔
      ¬ (s.state.Claiming o c ∧ s.state.pins.get? c.name = none)) ∧
    (¬ (s.state.Claiming o c ∧ s.state.pins.get? c.name = none) →
      ∀ agenda, (s.run perform [.run caller (.command (.register owner o c))]).transcript
        perform agenda = s.transcript perform agenda) := by
  have stand := afresh_run_refused refused caller
  have unnoticed : ¬ (s.state.Claiming o c ∧ s.state.pins.get? c.name = none) →
      ∀ agenda, (s.run perform [.run caller (.command (.register owner o c))]).transcript
        perform agenda = s.transcript perform agenda := by
    intro settled agenda
    have unchanged : (s.state.accept o c).1 = s.state :=
      accept_fst_of_not_claiming fun claiming unpinned => settled ⟨claiming, unpinned⟩
    rw [Session.transcript, stand, unchanged]
    rfl
  refine ⟨⟨?_, fun settled agenda => ?_⟩, unnoticed⟩
  · -- The rival of the contract is turned away after the refusal, and only then.
    rintro same ⟨claiming, unpinned⟩
    generalize s.run perform [.run caller (.command (.register owner o c))] = later at same stand
    have state : later.state = { s.state with pins := s.state.pins.put c.name c.id } :=
      (congrArg Session.state stand).trans (accept_fst_of_claiming claiming unpinned)
    have claimed : later.state.Claiming o c := by rwa [state]
    have pinned : later.state.pins.get? c.name = some c.id := by
      rw [state]
      exact (Dictionary.get?_put ..).trans (if_pos rfl)
    have turned := register_rival_of_pinned claimed pinned owner 0
    have after := perform_refused turned later.subscribers.size
    have answered := Session.outcome_mem perform_uniform s (.register owner ⟨0, [c.rival]⟩ c.rival)
    rw [← same, Session.outcomes_unannounced (by rw [after]; rfl), List.mem_singleton,
      answer_register, after] at answered
    have alike : RegistryAnswer.registration _ = .registration (.error (.rejected _)) :=
      (Prod.mk.inj (Prod.mk.inj answered).2).2
    exact register_rival_of_unpinned claiming unpinned owner 0 _ _ _
      (RegistryAnswer.registration.inj alike)
  · rw [Session.outcomes, unnoticed settled agenda]
    rfl

/-- A timer at the second revision of its schema. -/
def secondTimer : Contract :=
  { Contract.capability ⟨2, "SecondTimer"⟩ "timer" .device with schema := 2 }

/-- A registry that expects timers to be at the first revision. -/
def firstTimers : Registry :=
  .empty [] (Config.empty.withExpectation "timer" ⟨some 1, none⟩) .full

/-- A timer at the wrong revision is refused, and somebody will notice. -/
theorem refusal_noticed :
    (firstTimers.register ⟨1⟩ ⟨0, [secondTimer]⟩ secondTimer).2 =
      .error (.rejected (.schemaMismatch "timer" 1 2)) ∧
    ¬ ∀ agenda, ((Session.start firstTimers).run perform
        [.run none (.command (.register ⟨1⟩ ⟨0, [secondTimer]⟩ secondTimer))]).outcomes
          perform agenda = (Session.start firstTimers).outcomes perform agenda := by
  have refused : ((Session.start firstTimers : Session Registry RegistryCommand
      RegistryAnswer).state.register ⟨1⟩ ⟨0, [secondTimer]⟩ secondTimer).2 =
        .error (.rejected (.schemaMismatch "timer" 1 2)) := by rfl
  refine ⟨refused, fun same => ?_⟩
  exact (refusal_unnoticed_iff refused none).1.mp same ⟨⟨rfl, _, rfl⟩, rfl⟩

end Registry

end Switchboard
