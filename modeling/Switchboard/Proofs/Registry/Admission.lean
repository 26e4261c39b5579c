import Switchboard.Proofs.Registry.Coherence

/-!
# Who is admitted

An object conforms to a contract (`Conforms`) if the contract may be registered at all, if the
object may stand for it, and if the contract meets the expectation that governs it
(`Config.Governs`). This says nothing about the state of a registry, and it is all that matters,
apart from an object that is registered already and a name that belongs to another contract:

* **the check** — an offer is refused for its name if another contract has claimed the name
  (`Registry.accept_snd_of_taken`), and otherwise accepted exactly if it conforms
  (`Registry.accept_snd_of_free`, `verdict_eq_ok_iff`);
* **the entries** — whatever is live conforms to the contract of its bucket, and what conforms and
  is free is let in (`Registry.admission_exact`).
-/

namespace Switchboard

/-! ## Governing expectations -/

/-- The expectation that a contract has to meet: one under its type name or, if there is none
that demands anything, one under its name. -/
inductive Config.Governs (config : Config) (c : Contract) : Expectation → Prop
  | byType {e : Expectation} : config.contracts.get? c.id.typeName = some e →
      e.isEmpty = false → Governs config c e
  | byName {e : Expectation} :
      (∀ other, config.contracts.get? c.id.typeName = some other → other.isEmpty = true) →
      config.contracts.get? c.name = some e → e.isEmpty = false → Governs config c e

/-- A contract is governed by its name: something is expected under the name, and nothing under
the type name. -/
structure Config.NameGoverned (config : Config) (c : Contract) : Prop where
  named : ∃ e, config.contracts.get? c.name = some e ∧ e.isEmpty = false
  untyped : ∀ e, config.contracts.get? c.id.typeName = some e → e.isEmpty = true

namespace Config

variable {config : Config} {c : Contract}

theorem expectation?_eq_some_iff {name : String} {e : Expectation} :
    config.expectation? name = some e ↔
      config.contracts.get? name = some e ∧ e.isEmpty = false := by
  simp [expectation?]

theorem expectation?_eq_none_iff {name : String} :
    config.expectation? name = none ↔
      ∀ e, config.contracts.get? name = some e → e.isEmpty = true := by
  simp [expectation?]

theorem nameGoverned_iff :
    config.NameGoverned c ↔
      (config.expectation? c.name).isSome = true ∧ config.expectation? c.id.typeName = none := by
  rw [Option.isSome_iff_exists, expectation?_eq_none_iff]
  simp only [expectation?_eq_some_iff]
  exact ⟨fun governed => ⟨governed.named, governed.untyped⟩, fun governed => ⟨governed.1, governed.2⟩⟩

instance : Decidable (config.NameGoverned c) :=
  decidable_of_iff _ nameGoverned_iff.symm

/-- The governance of a contract is by name exactly if the contract is governed by its name. -/
theorem governance_byName_iff :
    (∃ e, config.governance c = .byName e) ↔ config.NameGoverned c := by
  rw [nameGoverned_iff, governance]
  cases typed : config.expectation? c.id.typeName with
  | some e => simp
  | none => cases named : config.expectation? c.name <;> simp

end Config

/-- The expectation of a governance, if there is one. -/
def Governance.demand : Governance → Option Expectation
  | none => .none
  | byType e => some e
  | byName e => some e

theorem Config.governs_iff {config : Config} {c : Contract} {e : Expectation} :
    config.Governs c e ↔ (config.governance c).demand = some e := by
  constructor
  · intro governs
    cases governs with
    | byType found demanding =>
        rw [governance, expectation?_eq_some_iff.mpr ⟨found, demanding⟩]
        rfl
    | byName untyped found demanding =>
        rw [governance, expectation?_eq_none_iff.mpr untyped,
          expectation?_eq_some_iff.mpr ⟨found, demanding⟩]
        rfl
  · intro demanded
    rw [governance] at demanded
    cases typed : config.expectation? c.id.typeName with
    | some other =>
        rw [typed] at demanded
        cases demanded
        exact .byType (expectation?_eq_some_iff.mp typed).1 (expectation?_eq_some_iff.mp typed).2
    | none =>
        cases named : config.expectation? c.name with
        | some other =>
            rw [typed, named] at demanded
            cases demanded
            obtain ⟨found, demanding⟩ := expectation?_eq_some_iff.mp named
            exact .byName (expectation?_eq_none_iff.mp typed) found demanding
        | none =>
            rw [typed, named] at demanded
            cases demanded

/-! ## Conforming -/

theorem Contract.qualify_eq_ok_iff {c : Contract} :
    c.qualify = .ok () ↔ c.kind = .contract ∧ c.tagged = true := by
  unfold qualify
  cases c.kind <;> cases c.tagged <;> simp

namespace Catalogue

variable {k : Catalogue} {direct : List Contract} {c : Contract}

theorem conform_eq_ok_iff :
    k.conform direct c = .ok () ↔
      c.declaredIn (Contract.counted direct) = true ∧
        (k.identities (Contract.counted direct)).length ≤ 1 := by
  unfold conform
  by_cases declared : c.declaredIn (Contract.counted direct) = true
  · by_cases several : (k.identities (Contract.counted direct)).length > 1
    · simp [declared, several]
    · simp [declared, several, Nat.not_lt.mp several]
  · simp [declared]

/-- Whether an object may stand for a contract is a matter of the contract's identity. -/
theorem conform_congr {other : Contract} (same : c.id = other.id)
    (conforms : k.conform direct c = .ok ()) : k.conform direct other = .ok () := by
  rw [conform_eq_ok_iff] at conforms ⊢
  unfold Contract.declaredIn Contract.same at conforms ⊢
  rwa [← same]

theorem validate_eq_ok_iff :
    k.validate direct c = .ok () ↔ c.qualify = .ok () ∧ k.conform direct c = .ok () := by
  unfold validate
  rcases qualified : c.qualify with cause | ⟨⟩
  · simp [bind, Except.bind]
  · simp [bind, Except.bind]

end Catalogue

/-- An object that may stand for a contract which may be registered and is what is expected. -/
structure Conforms (k : Catalogue) (config : Config) (o : Object) (c : Contract) : Prop where
  /-- The contract is a pure one, and so not the root marker. -/
  pure : c.kind = .contract
  tagged : c.tagged = true
  declared : k.conform o.direct c = .ok ()
  expected : ∀ e, config.Governs c e → e.check c = .ok ()

/-- What the check of an offer comes to if the contract's name is free. -/
def verdict (k : Catalogue) (config : Config) (o : Object) (c : Contract) : Except Rejection Unit :=
  match k.validate o.direct c with
  | .error cause => .error cause
  | .ok () => (config.governance c).demand.elim (.ok ()) (·.check c)

theorem verdict_eq_ok_iff {k : Catalogue} {config : Config} {o : Object} {c : Contract} :
    verdict k config o c = .ok () ↔ Conforms k config o c := by
  have expected : ((config.governance c).demand.elim (.ok ()) (·.check c) = .ok ()) ↔
      ∀ e, config.Governs c e → e.check c = .ok () := by
    simp only [Config.governs_iff]
    cases (config.governance c).demand <;> simp
  unfold verdict
  constructor
  · intro accepted
    split at accepted
    · cases accepted
    · rename_i valid
      obtain ⟨qualified, declared⟩ := Catalogue.validate_eq_ok_iff.mp valid
      obtain ⟨pure, tagged⟩ := Contract.qualify_eq_ok_iff.mp qualified
      exact ⟨pure, tagged, declared, expected.mp accepted⟩
  · intro conforms
    have qualified := Contract.qualify_eq_ok_iff.mpr ⟨conforms.pure, conforms.tagged⟩
    rw [Catalogue.validate_eq_ok_iff.mpr ⟨qualified, conforms.declared⟩]
    exact expected.mpr conforms.expected

/-! ## Judged without regard to names -/

/-- A check against an expectation never complains about names. -/
theorem Expectation.check_ne_ambiguousName (e : Expectation) (c : Contract)
    (contract pinned found : String) :
    e.check c ≠ .error (.ambiguousName contract pinned found) := by
  intro complaint
  rw [check] at complaint
  rcases schema : e.checkSchema c with fault | ⟨⟩
  · -- The schema is at fault, and the complaint is about the schema.
    rw [schema] at complaint
    cases (show Except.error fault = Except.error _ from complaint)
    unfold checkSchema at schema
    split at schema
    · cases schema
    · split at schema <;> cases schema
  · -- The schema is right, and the complaint is about the fingerprint if there is any.
    rw [schema] at complaint
    have fingerprint : e.checkFingerprint c = .error _ := complaint
    unfold checkFingerprint at fingerprint
    split at fingerprint
    · cases fingerprint
    · split at fingerprint <;> cases fingerprint

theorem Catalogue.validate_ne_ambiguousName (k : Catalogue) (direct : List Contract) (c : Contract)
    (contract pinned found : String) :
    k.validate direct c ≠ .error (.ambiguousName contract pinned found) := by
  intro complaint
  unfold validate at complaint
  rcases qualified : c.qualify with cause | ⟨⟩
  · -- The contract itself is at fault.
    rw [qualified] at complaint
    cases (show Except.error cause = Except.error _ from complaint)
    unfold Contract.qualify at qualified
    split at qualified
    · cases qualified
    · cases qualified
    · split at qualified <;> cases qualified
  · rw [qualified] at complaint
    have declared : k.conform direct c = .error _ := complaint
    unfold conform at declared
    dsimp only at declared
    split at declared
    · cases declared
    · split at declared <;> cases declared

/-- Whoever is judged without regard to names is not turned away for one. -/
theorem verdict_ne_ambiguousName (k : Catalogue) (config : Config) (o : Object) (c : Contract)
    (contract pinned found : String) :
    verdict k config o c ≠ .error (.ambiguousName contract pinned found) := by
  unfold verdict
  rcases valid : k.validate o.direct c with cause | ⟨⟩
  · intro complaint
    exact k.validate_ne_ambiguousName o.direct c contract pinned found (valid.trans complaint)
  · dsimp only
    cases (config.governance c).demand with
    | none => exact nofun
    | some e => exact e.check_ne_ambiguousName c contract pinned found

namespace Registry

variable {r next : Registry} {owner : ComponentId} {o : Object} {c : Contract}

/-! ## The check of an offer -/

/-- A name that belongs to another contract is what an offer is refused for. -/
theorem accept_snd_of_taken {id : ContractId} (claiming : r.Claiming o c)
    (pinned : r.pins.get? c.name = some id) (other : id ≠ c.id) :
    (r.accept o c).2 = .error (.ambiguousName c.name id.typeName c.id.typeName) := by
  obtain ⟨valid, expectation, governed⟩ := claiming
  rw [accept, valid]
  dsimp only
  rw [governed]
  dsimp only
  rw [pinName, pinned]
  dsimp only
  rw [if_neg other]

/-- An offer that meets no such obstacle is judged by itself. -/
theorem accept_snd_of_free
    (free : r.Claiming o c → ∀ id, r.pins.get? c.name = some id → id = c.id) :
    (r.accept o c).2 = verdict r.catalogue r.config o c := by
  rcases valid : r.catalogue.validate o.direct c with cause | ⟨⟩
  · rw [accept, verdict, valid]
  · rw [accept, verdict, valid]
    dsimp only
    cases governed : r.config.governance c with
    | none => rfl
    | byType expectation => rfl
    | byName expectation =>
        dsimp only
        -- The name is claimed now, or it was claimed for this very contract before.
        cases pinned : r.pins.get? c.name with
        | none =>
            rw [pinName, pinned]
            rfl
        | some id =>
            rw [pinName, pinned, free ⟨valid, expectation, governed⟩ id pinned]
            dsimp only
            rw [if_pos rfl]
            rfl

theorem accept_snd_cases (r : Registry) (o : Object) (c : Contract) :
    (∃ id, (r.Claiming o c ∧ r.pins.get? c.name = some id ∧ id ≠ c.id) ∧
      (r.accept o c).2 = .error (.ambiguousName c.name id.typeName c.id.typeName)) ∨
    (r.accept o c).2 = verdict r.catalogue r.config o c := by
  by_cases taken : ∃ id, r.Claiming o c ∧ r.pins.get? c.name = some id ∧ id ≠ c.id
  · obtain ⟨id, claiming, pinned, other⟩ := taken
    exact .inl ⟨id, ⟨claiming, pinned, other⟩, accept_snd_of_taken claiming pinned other⟩
  · refine .inr (accept_snd_of_free ?_)
    intro claiming id pinned
    by_cases own : id = c.id
    · exact own
    · exact absurd ⟨id, claiming, pinned, own⟩ taken

/-- Only what conforms is accepted. -/
theorem conforms_of_accept (accepted : (r.accept o c).2 = .ok ()) :
    Conforms r.catalogue r.config o c := by
  rcases r.accept_snd_cases o c with ⟨id, -, refused⟩ | judged
  · rw [refused] at accepted
    cases accepted
  · rw [judged] at accepted
    exact verdict_eq_ok_iff.mp accepted

/-- What the check turns down is not registered. -/
theorem register_snd_of_rejected {cause : Rejection} (rejected : (r.accept o c).2 = .error cause)
    (owner : ComponentId) : (r.register owner o c).2 = .error (.rejected cause) := by
  rw [register_eq, rejected]

/-- An object that is accepted and has no home is registered, behind those in its bucket. -/
theorem register_snd_of_accepted (accepted : (r.accept o c).2 = .ok ())
    (homeless : r.homes.get? o.id = none) (owner : ComponentId) :
    (r.register owner o c).2 = .ok (r.bucketFor owner c).next := by
  rw [register_eq, accepted, homeless]
  rfl

/-! ## Live entries -/

/-- Every object conforms to the contract of the bucket that it is in. -/
def Vetted (k : Catalogue) (config : Config) (r : Registry) : Prop :=
  ∀ key bucket, r.buckets.get? key = some bucket → ∀ slot ∈ bucket.slots,
    Conforms k config slot.object bucket.contract

/-- What is appended conforms to the contract of its bucket, even if it was offered as another
description of the same contract. -/
theorem Vetted.bucketFor {k : Catalogue} {config : Config} (vetted : r.Vetted k config)
    (coherent : r.Coherent) (owner : ComponentId) (conforms : Conforms k config o c) :
    Conforms k config o (r.bucketFor owner c).contract ∧
      ∀ slot ∈ (r.bucketFor owner c).slots,
        Conforms k config slot.object (r.bucketFor owner c).contract := by
  rcases r.bucketFor_cases owner c with ⟨-, fresh⟩ | known
  · rw [fresh]
    exact ⟨conforms, fun slot absent => absurd absent List.not_mem_nil⟩
  · have proper := coherent.proper _ _ known
    obtain ⟨slot, member⟩ := List.exists_mem_of_ne_nil _ proper.inhabited
    -- Whoever is in the bucket already vouches for its contract.
    have resident := vetted _ _ known slot member
    have declared := Catalogue.conform_congr proper.identity.symm conforms.declared
    exact ⟨⟨resident.pure, resident.tagged, declared, resident.expected⟩, vetted _ _ known⟩

theorem Vetted.transition {k : Catalogue} {config : Config} {command : RegistryCommand}
    {answer : RegistryAnswer} {change : Option Change} (vetted : r.Vetted k config)
    (coherent : r.Coherent) (catalogue : r.catalogue = k) (configured : r.config = config)
    (step : r.Transition command answer change next) : next.Vetted k config := by
  intro key bucket found slot member
  rcases step.bucket_cases found with old | ⟨owner, o, c, -, accepted, -, rfl⟩
  · exact vetted key bucket old slot member
  · have conforms := conforms_of_accept accepted
    rw [catalogue, configured] at conforms
    obtain ⟨newcomer, residents⟩ := vetted.bucketFor coherent owner conforms
    rcases List.mem_append.mp member with before | last
    · exact residents slot before
    · rw [List.mem_singleton.mp last]
      exact newcomer

/-! ## On every course -/

variable {catalogue : Catalogue} {config : Config} {graph : Graph}
  {calls : List (Call RegistryCommand RegistryAnswer)}
  {s : Session Registry RegistryCommand RegistryAnswer}
  {tasks : List (Task RegistryCommand RegistryAnswer)}

/-- The contracts of the program and what the host expects of them are those of the start. -/
theorem frame_of_course
    (course : Course perform (.start (.empty catalogue config graph)) calls s tasks) :
    s.state.catalogue = catalogue ∧ s.state.config = config := by
  refine course.keeps (P := fun _ r => r.catalogue = catalogue ∧ r.config = config) ⟨rfl, rfl⟩ ?_
  rintro calls observers r caller command ⟨rfl, rfl⟩
  exact (perform_transition observers r command []).frame

theorem vetted_of_course
    (course : Course perform (.start (.empty catalogue config graph)) calls s tasks) :
    s.state.Vetted catalogue config := by
  refine (course.keeps (P := fun _ r => (r.Coherent ∧ r.catalogue = catalogue ∧
    r.config = config) ∧ r.Vetted catalogue config) ⟨⟨.empty .., rfl, rfl⟩, ?_⟩ ?_).2
  · intro key bucket found
    cases found
  · rintro calls observers r caller command ⟨⟨coherent, same, configured⟩, vetted⟩
    have step := perform_transition observers r command []
    obtain ⟨catalogue', config'⟩ := step.frame
    exact ⟨⟨coherent.transition step, catalogue'.trans same, config'.trans configured⟩,
      vetted.transition coherent same configured step⟩

/-- An entry is live: the object is in the bucket of the owner and the contract, at the index. -/
def Live (r : Registry) (owner : ComponentId) (c : Contract) (index : Nat) (o : Object) : Prop :=
  ∃ bucket, r.buckets.get? ⟨owner, c.id⟩ = some bucket ∧ bucket.contract = c ∧
    (bucket.slots.map Slot.object)[index]? = some o

/-- **Admission is exact.** Whatever is asked of a registry and whoever asks: each live object
conforms to the contract that it is listed under, which is no root marker; and an object that
conforms to a contract and is in no bucket is registered, at the end of its bucket, unless the
contract is governed by its name and the name is pinned to another one. -/
theorem admission_exact
    (course : Course perform (.start (.empty catalogue config graph)) calls s tasks) :
    (∀ owner c index o, s.state.Live owner c index o →
      Conforms catalogue config o c ∧ c.isRoot = false) ∧
    (∀ owner o c, Conforms catalogue config o c → o.id ∉ s.state.ids →
      (config.NameGoverned c → ∀ id, s.state.pins.get? c.name = some id → id = c.id) →
      ∀ observers failures,
        (perform observers s.state (.register owner o c)).answer failures =
          .registration (.ok (.ofNat (s.state.bucketSize owner c)))) := by
  have coherent := coherent_of_course course
  obtain ⟨program, configured⟩ := frame_of_course course
  constructor
  · rintro owner c index o ⟨bucket, found, rfl, held⟩
    obtain ⟨slot, member, rfl⟩ := List.mem_map.mp (List.mem_of_getElem? held)
    have conforms := vetted_of_course course _ bucket found slot member
    refine ⟨conforms, ?_⟩
    rw [Contract.isRoot, conforms.pure]
    rfl
  · intro owner o c conforms absent free observers failures
    have homeless : s.state.homes.get? o.id = none := by
      cases home : s.state.homes.get? o.id with
      | none => rfl
      | some key => exact absurd ((coherent.mem_ids o.id).mpr ⟨key, home⟩) absent
    have accepted : (s.state.accept o c).2 = .ok () := by
      rw [accept_snd_of_free, program, configured]
      · exact verdict_eq_ok_iff.mpr conforms
      · rintro ⟨-, governed⟩
        rw [configured] at governed
        exact free (Config.governance_byName_iff.mp governed)
    rw [answer_register, register_snd_of_accepted accepted homeless, Bucket.next, bucketFor,
      bucketSize, slots]
    cases s.state.buckets.get? ⟨owner, c.id⟩ <;> rfl

/-- A timer at a revision of its schema. -/
def timer (id : ContractId) (schema : UInt32) : Contract :=
  { Contract.capability id "timer" .device with schema := schema }

/-- What a host expects that knows two revisions of a timer, one of them by its type. -/
def timers : Config :=
  (Config.empty.withExpectation "timer" ⟨some 1, none⟩).withExpectation "Fast" ⟨some 2, none⟩

/-- A timer of the revision that is known by its name. -/
def slow : Contract := timer ⟨1, "Slow"⟩ 1

/-- A timer of the revision that is known by its type. -/
def fast : Contract := timer ⟨2, "Fast"⟩ 2

/-- An observer that adds a fast timer when it is called for the first time. -/
def hasty : Observer RegistryCommand :=
  ⟨none, [.command (.register ⟨1⟩ ⟨1, [fast]⟩ fast)], 1, .success⟩

/-- While an observer is called for the fast timer that it has added itself, this timer is
known to conform by its type, and another owner can still add a slow one. -/
theorem admission_exact_in_callback :
    ∃ calls s tasks, Course perform (.start (.empty [] timers .full)) calls s tasks ∧
      (∃ change rest, tasks = .tell 0 change :: rest) ∧
      s.state.Live ⟨1⟩ fast 0 ⟨1, [fast]⟩ ∧ Conforms [] timers ⟨1, [fast]⟩ fast ∧
      timers.Governs fast ⟨some 2, none⟩ ∧
      (perform 1 s.state (.register ⟨2⟩ ⟨2, [slow]⟩ slow)).answer [] =
        .registration (.ok 0) := by
  have course := Course.moment perform (.start (.empty [] timers .full))
    [.subscribe hasty, .command (.register ⟨1⟩ ⟨0, [slow]⟩ slow)] 4
  obtain ⟨conforming, admitted⟩ := admission_exact course
  have live : Live (Session.moment perform (.start (.empty [] timers .full))
      [.subscribe hasty, .command (.register ⟨1⟩ ⟨0, [slow]⟩ slow)] 4).session.state
        ⟨1⟩ fast 0 ⟨1, [fast]⟩ := ⟨_, rfl, rfl, rfl⟩
  refine ⟨_, _, _, course, ⟨_, _, rfl⟩, live, (conforming _ _ _ _ live).1, .byType rfl rfl, ?_⟩
  refine admitted ⟨2⟩ ⟨2, [slow]⟩ slow (verdict_eq_ok_iff.mp rfl) (by decide) ?_ 1 []
  rintro - id pinned
  exact (Option.some.inj pinned).symm

end Registry

end Switchboard
