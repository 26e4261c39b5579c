import Switchboard.Proofs.Registry.Admission
import Switchboard.Proofs.Registry.Ledger

/-!
# Whose name it is

A valid offer of a contract that is governed by its name lays claim to the name (`Claims`). The
first claim of a history decides whose the name is, for good: nothing that is refused, removed or
cleared later takes it back.

* **pins are first claims** — what a registry remembers of a name is the first contract that
  claimed it, and nothing else (`Registry.Pinned`);
* **rivals** — a registration is refused for its name exactly if the name was first claimed for
  another contract (`Registry.register_snd_ambiguousName_iff`, `Registry.first_claim_lasts`).
-/

namespace Switchboard

/-! ## Claims in a history -/

/-- A valid offer of a contract that is governed by this name. -/
structure Claims (k : Catalogue) (config : Config) (name : String) (o : Object) (c : Contract) :
    Prop where
  named : c.name = name
  governed : config.NameGoverned c
  valid : k.validate o.direct c = .ok ()

/-- Whether nothing is held against an offer. -/
instance (judgement : Except Rejection Unit) : Decidable (judgement = .ok ()) :=
  match judgement with
  | .ok () => isTrue rfl
  | .error _ => isFalse nofun

instance {k : Catalogue} {config : Config} {name : String} {o : Object} {c : Contract} :
    Decidable (Claims k config name o c) :=
  decidable_of_iff (c.name = name ∧ config.NameGoverned c ∧ k.validate o.direct c = .ok ())
    ⟨fun ⟨named, governed, valid⟩ => ⟨named, governed, valid⟩,
      fun claim => ⟨claim.named, claim.governed, claim.valid⟩⟩

namespace RegistryCommand

variable {k : Catalogue} {config : Config} {name : String}

/-- The contract for which a command lays claim to a name. -/
def claim? (k : Catalogue) (config : Config) (name : String) : RegistryCommand → Option Contract
  | register _ o c => if Claims k config name o c then some c else none
  | _ => none

/-- The contracts for which some commands, latest first, lay claim to a name, in order. -/
def claims (k : Catalogue) (config : Config) (name : String) (commands : List RegistryCommand) :
    List Contract :=
  (commands.filterMap (claim? k config name)).reverse

theorem claims_append (later earlier : List RegistryCommand) :
    claims k config name (later ++ earlier) =
      claims k config name earlier ++ claims k config name later := by
  simp [claims]

theorem claims_cons (command : RegistryCommand) (commands : List RegistryCommand) :
    claims k config name (command :: commands) =
      claims k config name commands ++ (command.claim? k config name).toList := by
  cases claim : command.claim? k config name <;> simp [claims, claim]

theorem claim?_of_claims {owner : ComponentId} {o : Object} {c : Contract}
    (claim : Claims k config name o c) : (register owner o c).claim? k config name = some c :=
  if_pos claim

/-- Only registrations claim anything. -/
theorem claim?_of_removal {command : RegistryCommand} {key : BucketKey}
    (removes : command.removal? = some key) : command.claim? k config name = none := by
  cases command <;> first | rfl | cases removes

theorem claim?_of_isQuery {command : RegistryCommand} (query : command.isQuery = true) :
    command.claim? k config name = none := by
  cases command <;> first | rfl | cases query

end RegistryCommand

namespace Registry

variable {r next : Registry} {owner : ComponentId} {o : Object} {c : Contract}
  {command : RegistryCommand} {answer : RegistryAnswer} {change : Option Change}

theorem claiming_iff : r.Claiming o c ↔ Claims r.catalogue r.config c.name o c := by
  rw [Claiming, Config.governance_byName_iff]
  exact ⟨fun ⟨valid, governed⟩ => ⟨rfl, governed, valid⟩, fun claim => ⟨claim.valid, claim.governed⟩⟩

/-! ## Pins -/

/-- Checking an offer pins the name that it claims, unless the name is pinned already. -/
theorem get?_pins_accept (r : Registry) (owner : ComponentId) (o : Object) (c : Contract)
    (name : String) :
    (r.accept o c).1.pins.get? name = (r.pins.get? name).or
      (((RegistryCommand.register owner o c).claim? r.catalogue r.config name).map
        Contract.id) := by
  rw [RegistryCommand.claim?]
  by_cases claim : Claims r.catalogue r.config name o c
  · obtain rfl := claim.named
    rw [if_pos claim]
    cases pinned : r.pins.get? c.name with
    | none =>
        rw [accept_fst_of_claiming (claiming_iff.mpr claim) pinned, Dictionary.get?_put,
          if_pos rfl]
        rfl
    | some id =>
        rw [accept_fst_of_not_claiming (fun _ unpinned => by simp [pinned] at unpinned), pinned]
        rfl
  · rw [if_neg claim, Option.map_none, Option.or_none]
    by_cases fresh : r.Claiming o c ∧ r.pins.get? c.name = none
    · -- It is another name that is claimed.
      rw [accept_fst_of_claiming fresh.1 fresh.2, Dictionary.get?_put, if_neg]
      rintro rfl
      exact claim (claiming_iff.mp fresh.1)
    · rw [accept_fst_of_not_claiming fun claiming unpinned => fresh ⟨claiming, unpinned⟩]

/-- A transition pins a name if the command is the first to claim it, and unpins none. -/
theorem Transition.pins_eq (step : r.Transition command answer change next) (name : String) :
    next.pins.get? name =
      (r.pins.get? name).or ((command.claim? r.catalogue r.config name).map Contract.id) := by
  cases step with
  | @registered owner o c _ _ => exact r.get?_pins_accept owner o c name
  | @refused owner o c _ _ => exact r.get?_pins_accept owner o c name
  | removed removes _ =>
      rw [removeBucket_frame, RegistryCommand.claim?_of_removal removes]
      exact Option.or_none.symm
  | absent removes _ =>
      rw [RegistryCommand.claim?_of_removal removes]
      exact Option.or_none.symm
  | cleared _ =>
      rw [clearOwner_frame]
      exact Option.or_none.symm
  | vacant _ => exact Option.or_none.symm
  | rewired command => exact Option.or_none.symm
  | consulted answer query =>
      rw [RegistryCommand.claim?_of_isQuery query]
      exact Option.or_none.symm

/-- Every name is pinned to the contract that was the first to claim it. -/
structure Pinned (k : Catalogue) (config : Config) (commands : List RegistryCommand)
    (r : Registry) : Prop where
  catalogue : r.catalogue = k
  configured : r.config = config
  pins : ∀ name, r.pins.get? name =
    (RegistryCommand.claims k config name commands).head?.map Contract.id

theorem Pinned.perform {k : Catalogue} {config : Config} {commands : List RegistryCommand}
    (pinned : r.Pinned k config commands) (observers : Nat) (command : RegistryCommand) :
    (perform observers r command).state.Pinned k config (command :: commands) := by
  have step := perform_transition observers r command []
  refine ⟨step.frame.1.trans pinned.catalogue, step.frame.2.trans pinned.configured, ?_⟩
  intro name
  rw [step.pins_eq, pinned.catalogue, pinned.configured, pinned.pins, RegistryCommand.claims_cons,
    List.head?_append, Option.map_or]
  cases command.claim? k config name <;> rfl

theorem Pinned.empty (k : Catalogue) (config : Config) (graph : Graph) :
    (Registry.empty k config graph).Pinned k config [] :=
  ⟨rfl, rfl, fun _ => rfl⟩

/-- A registration is refused for its name if the name is pinned to another contract, and the
refusal names both. -/
theorem register_snd_ambiguousName_iff {contract pinned found : String} :
    (r.register owner o c).2 = .error (.rejected (.ambiguousName contract pinned found)) ↔
      ∃ id, (r.Claiming o c ∧ r.pins.get? c.name = some id ∧ id ≠ c.id) ∧
        contract = c.name ∧ pinned = id.typeName ∧ found = c.id.typeName := by
  constructor
  · intro refused
    rcases r.register_cases owner o c with
      ⟨cause, rejected, result⟩ | ⟨-, -, result⟩ | ⟨-, -, result⟩
    · rw [result] at refused
      cases refused
      rcases r.accept_snd_cases o c with ⟨id, taken, refused⟩ | judged
      · rw [rejected] at refused
        cases refused
        exact ⟨id, taken, rfl, rfl, rfl⟩
      · -- By itself, no offer is refused for a name.
        exact (verdict_ne_ambiguousName _ _ _ _ _ _ _ (judged.symm.trans rejected)).elim
    · rw [result] at refused
      cases refused
    · rw [result] at refused
      cases refused
  · rintro ⟨id, ⟨claiming, pinned, other⟩, rfl, rfl, rfl⟩
    exact register_snd_of_rejected (accept_snd_of_taken claiming pinned other) owner

/-- A claim that is made now is refused exactly if the first one was made for another contract. -/
theorem Pinned.register_ambiguousName_iff {k : Catalogue} {config : Config} {name : String}
    {commands : List RegistryCommand} (pinned : r.Pinned k config commands)
    (claim : Claims k config name o c) (owner : ComponentId) :
    ∃ first, (RegistryCommand.claims k config name
        (.register owner o c :: commands)).head? = some first ∧
      ∀ contract holder found,
        (r.register owner o c).2 = .error (.rejected (.ambiguousName contract holder found)) ↔
          first.id ≠ c.id ∧ contract = name ∧ holder = first.id.typeName ∧
            found = c.id.typeName := by
  obtain rfl := claim.named
  have claiming : r.Claiming o c := by
    rw [claiming_iff, pinned.catalogue, pinned.configured]
    exact claim
  rw [RegistryCommand.claims_cons, RegistryCommand.claim?_of_claims claim, List.head?_append]
  have held := pinned.pins c.name
  cases earlier : (RegistryCommand.claims k config c.name commands).head? with
  | none =>
      -- It is the first claim itself, and nothing is pinned.
      refine ⟨c, rfl, ?_⟩
      intro contract holder found
      rw [earlier, Option.map_none] at held
      simp [register_snd_ambiguousName_iff, held]
  | some first =>
      refine ⟨first, rfl, ?_⟩
      intro contract holder found
      rw [earlier, Option.map_some] at held
      rw [register_snd_ambiguousName_iff, held]
      constructor
      · rintro ⟨id, ⟨-, same, other⟩, texts⟩
        cases same
        exact ⟨other, texts⟩
      · rintro ⟨other, texts⟩
        exact ⟨first.id, ⟨claiming, rfl, other⟩, texts⟩

/-! ## Buckets of governed contracts -/

/-- The contracts of all buckets own their names, if they are governed by them. -/
def Titled (config : Config) (r : Registry) : Prop :=
  ∀ key bucket, r.buckets.get? key = some bucket → config.NameGoverned bucket.contract →
    r.pins.get? bucket.contract.name = some bucket.contract.id

/-- What is accepted owns its name, if it is governed by it. -/
theorem pinned_of_accept (accepted : (r.accept o c).2 = .ok ())
    (governed : r.config.NameGoverned c) : (r.accept o c).1.pins.get? c.name = some c.id := by
  have conforms := conforms_of_accept accepted
  have valid : r.catalogue.validate o.direct c = .ok () :=
    Catalogue.validate_eq_ok_iff.mpr
      ⟨Contract.qualify_eq_ok_iff.mpr ⟨conforms.pure, conforms.tagged⟩, conforms.declared⟩
  have claim : Claims r.catalogue r.config c.name o c := ⟨rfl, governed, valid⟩
  -- Any command will do for the one that offers it.
  rw [r.get?_pins_accept ⟨0⟩, RegistryCommand.claim?_of_claims claim]
  cases pinned : r.pins.get? c.name with
  | none => rfl
  | some id =>
      by_cases own : id = c.id
      · rw [own]
        rfl
      · rw [accept_snd_of_taken (claiming_iff.mpr claim) pinned own] at accepted
        cases accepted

theorem Titled.transition {config : Config} (titled : r.Titled config)
    (configured : r.config = config) (step : r.Transition command answer change next) :
    next.Titled config := by
  intro key bucket found governed
  -- Nobody loses a name.
  have keeps : ∀ name id, r.pins.get? name = some id → next.pins.get? name = some id := by
    intro name id pinned
    rw [step.pins_eq, pinned]
    rfl
  rcases step.bucket_cases found with old | ⟨owner, o, c, rfl, accepted, -, rfl⟩
  · exact keeps _ _ (titled key bucket old governed)
  · rcases r.bucketFor_cases owner c with ⟨-, fresh⟩ | known
    · rw [fresh] at governed ⊢
      rw [step.pins_eq, ← r.get?_pins_accept]
      exact pinned_of_accept accepted (configured ▸ governed)
    · exact keeps _ _ (titled _ (r.bucketFor owner c) known governed)

/-! ## On every course -/

variable {catalogue : Catalogue} {config : Config} {graph : Graph}
  {calls : List (Call RegistryCommand RegistryAnswer)}
  {s : Session Registry RegistryCommand RegistryAnswer}
  {tasks : List (Task RegistryCommand RegistryAnswer)}

theorem pinned_of_course
    (course : Course perform (.start (.empty catalogue config graph)) calls s tasks) :
    s.state.Pinned catalogue config (calls.map Call.command) := by
  apply course.keeps (P := fun calls r => r.Pinned catalogue config (calls.map Call.command))
  · exact .empty catalogue config graph
  · intro calls observers r caller command pinned
    exact pinned.perform observers command

theorem titled_of_course
    (course : Course perform (.start (.empty catalogue config graph)) calls s tasks) :
    s.state.Titled config := by
  refine (course.keeps (P := fun _ r => r.config = config ∧ r.Titled config) ⟨rfl, ?_⟩ ?_).2
  · intro key bucket found
    cases found
  · rintro calls observers r caller command ⟨configured, titled⟩
    have step := perform_transition observers r command []
    exact ⟨step.frame.2.trans configured, titled.transition configured step⟩

/-- **The first claim lasts.** Whatever is asked of a registry and whoever asks: a valid offer of a
contract that is governed by its name is refused for the name exactly if the first claim to the
name, of all that were ever made, was made for another contract, and then the refusal names this one
and the one that was offered. All calls but those still under way have returned, with these
answers. So all buckets, of all owners, whose contracts are governed by the name are buckets of the
contract that claimed it first. -/
theorem first_claim_lasts
    (course : Course perform (.start (.empty catalogue config graph)) calls s tasks)
    (name : String) :
    (∀ caller owner o c answer,
      (caller, .register owner o c, answer) ∈ calls.map Call.outcome →
      Claims catalogue config name o c →
      ∃ first,
        (RegistryCommand.claims catalogue config name (calls.map Call.command)).head? =
          some first ∧
        ((∃ contract pinned found, answer =
            .registration (.error (.rejected (.ambiguousName contract pinned found)))) ↔
          first.id ≠ c.id) ∧
        (first.id ≠ c.id → answer = .registration (.error (.rejected
          (.ambiguousName name first.id.typeName c.id.typeName))))) ∧
    (calls.map Call.outcome).Perm
      (tasks.filterMap Task.outcome? ++ s.history.filterMap Happening.outcome?) ∧
    (∀ key bucket, s.state.buckets.get? key = some bucket →
      config.NameGoverned bucket.contract → bucket.contract.name = name →
      ∃ first,
        (RegistryCommand.claims catalogue config name (calls.map Call.command)).head? =
          some first ∧
        bucket.contract.id = first.id ∧ key.contract = first.id) := by
  refine ⟨?_, course.outcomes_perm perform_uniform rfl, ?_⟩
  · intro caller owner o c answer outcome claim
    -- The call was made on a course, when the earlier claims had been made.
    obtain ⟨call, made, same⟩ := List.mem_map.mp outcome
    obtain ⟨later, earlier, moment, agenda, observers, rfl, before, call_eq⟩ :=
      course.call_made made
    have pinned := pinned_of_course before
    obtain ⟨first, head, refused⟩ := pinned.register_ambiguousName_iff claim owner
    -- What comes later does not change who was first.
    have command : call.command = .register owner o c := congrArg (·.2.1) same
    have given : answer = .registration (moment.state.register owner o c).2 := by
      rw [← answer_register observers moment.state owner o c [], ← command]
      exact (congrArg (·.2.2) same).symm.trans (congrArg (·.answer []) call_eq)
    refine ⟨first, ?_, ?_, ?_⟩
    · rw [List.map_append, List.map_cons, command, RegistryCommand.claims_append,
        List.head?_append, head]
      rfl
    · rw [given]
      simp [refused]
    · intro other
      rw [given, (refused _ _ _).mpr ⟨other, rfl, rfl, rfl⟩]
  · rintro key bucket found governed rfl
    have held := titled_of_course course key bucket found governed
    rw [(pinned_of_course course).pins, Option.map_eq_some_iff] at held
    obtain ⟨first, head, same⟩ := held
    have proper := (coherent_of_course course).proper key bucket found
    exact ⟨first, head, same.symm, proper.identity.symm.trans same.symm⟩

/-- A timer of a revision that nobody expects. -/
def drifting : Contract := timer ⟨3, "Drifting"⟩ 9

/-- An observer that offers a slow timer when it is called for the first time. -/
def steady : Observer RegistryCommand :=
  ⟨none, [.command (.register ⟨1⟩ ⟨2, [slow]⟩ slow)], 1, .success⟩

/-- The slow timer that an observer offers while a fast one is announced is refused, because a
timer of a wrong revision, which was refused itself, was offered before. -/
theorem first_claim_lasts_in_callback :
    ∃ calls s tasks, Course perform (.start (.empty [] timers .full)) calls s tasks ∧
      .returned (some 0) (.command (.register ⟨1⟩ ⟨2, [slow]⟩ slow))
        (.answered (.registration (.error (.rejected
          (.ambiguousName "timer" "Drifting" "Slow"))))) ∈ s.history ∧
      Claims [] timers "timer" ⟨2, [slow]⟩ slow ∧ s.state.size = 1 ∧
      ∃ first,
        (RegistryCommand.claims [] timers "timer" (calls.map Call.command)).head? =
          some first ∧
        first.id ≠ slow.id := by
  have course := Course.moment perform (.start (.empty [] timers .full))
    [.subscribe steady, .command (.register ⟨1⟩ ⟨0, [drifting]⟩ drifting),
      .command (.register ⟨1⟩ ⟨1, [fast]⟩ fast)] 7
  have claim : Claims [] timers "timer" ⟨2, [slow]⟩ slow := by decide
  obtain ⟨decided, -, -⟩ := first_claim_lasts course "timer"
  refine ⟨_, _, _, course, ?_, claim, rfl, ?_⟩
  · exact List.mem_of_getElem? (i := 0) rfl
  · obtain ⟨first, head, refused, -⟩ :=
      decided (some 0) ⟨1⟩ ⟨2, [slow]⟩ slow _ (List.mem_of_getElem? (i := 0) rfl) claim
    exact ⟨first, head, refused.mp ⟨_, _, _, rfl⟩⟩

end Registry

end Switchboard
