import Switchboard.Registry.Command

/-!
# What a command does to a registry

Everything that a command can do, once and for all: `Registry.Transition` has one case for each
effect, and carrying out a command is one of them (`Registry.perform_transition`). The operations
behind it are described by what they do to the two maps, key by key:

* **registration** — checking an offer touches the pins and nothing else
  (`Registry.accept_fst`); appending puts one slot and one home (`get?_buckets_append`,
  `get?_homes_append`);
* **removal** — a bucket goes with the homes of what it holds (`get?_buckets_removeBucket`,
  `get?_homes_removeBucket`), and clearing an owner removes the buckets of this owner and no
  others (`get?_buckets_clearOwner`).
-/

namespace Switchboard

/-- The bucket that a command asks to remove. -/
def RegistryCommand.removal? : RegistryCommand → Option BucketKey
  | unregister owner c => some ⟨owner, c.id⟩
  | unregisterType owner c => some ⟨owner, c.id⟩
  | _ => none

/-- Whether a command only asks. -/
def RegistryCommand.isQuery : RegistryCommand → Bool
  | register .. => false
  | unregister .. => false
  | unregisterType .. => false
  | clearOwner _ => false
  | graph _ => false
  | _ => true

namespace Registry

/-- The bucket of an owner and a contract, which is created when it is first needed. -/
def bucketFor (r : Registry) (owner : ComponentId) (c : Contract) : Bucket :=
  (r.buckets.get? ⟨owner, c.id⟩).getD ⟨c, []⟩

/-- It is new and empty, or it is in its place. -/
theorem bucketFor_cases (r : Registry) (owner : ComponentId) (c : Contract) :
    (r.buckets.get? ⟨owner, c.id⟩ = none ∧ r.bucketFor owner c = ⟨c, []⟩) ∨
    r.buckets.get? ⟨owner, c.id⟩ = some (r.bucketFor owner c) := by
  rw [bucketFor]
  cases r.buckets.get? ⟨owner, c.id⟩ with
  | none => exact .inl ⟨rfl, rfl⟩
  | some bucket => exact .inr rfl

/-! ## Checking an offer -/

/-- An offer lays claim to the contract's name if it is valid and the name is what the contract
is governed by. -/
def Claiming (r : Registry) (o : Object) (c : Contract) : Prop :=
  r.catalogue.validate o.direct c = .ok () ∧ ∃ e, r.config.governance c = .byName e

/-- Checking an offer pins a name that is claimed for the first time. -/
theorem accept_fst_of_claiming {r : Registry} {o : Object} {c : Contract}
    (claiming : r.Claiming o c) (unpinned : r.pins.get? c.name = none) :
    (r.accept o c).1 = { r with pins := r.pins.put c.name c.id } := by
  obtain ⟨valid, expectation, governed⟩ := claiming
  rw [accept, valid]
  dsimp only
  rw [governed]
  dsimp only
  rw [pinName, unpinned]

/-- Checking an offer that claims nothing new changes nothing. -/
theorem accept_fst_of_not_claiming {r : Registry} {o : Object} {c : Contract}
    (settled : r.Claiming o c → r.pins.get? c.name ≠ none) : (r.accept o c).1 = r := by
  rw [accept]
  split
  · rfl
  · rename_i valid
    split
    · rfl
    · rfl
    · rename_i expectation governed
      cases pinned : r.pins.get? c.name with
      | none => exact absurd pinned (settled ⟨valid, expectation, governed⟩)
      | some id =>
          -- The name is taken, by this contract or by another one.
          rw [pinName, pinned]
          dsimp only
          by_cases own : id = c.id
          · rw [if_pos own]
          · rw [if_neg own]

/-- Checking an offer touches the pins and nothing else. -/
theorem accept_fst (r : Registry) (o : Object) (c : Contract) :
    (r.accept o c).1 = { r with pins := (r.accept o c).1.pins } := by
  by_cases fresh : r.Claiming o c ∧ r.pins.get? c.name = none
  · rw [accept_fst_of_claiming fresh.1 fresh.2]
  · rw [accept_fst_of_not_claiming fun claiming unpinned => fresh ⟨claiming, unpinned⟩]

theorem homes_accept (r : Registry) (o : Object) (c : Contract) :
    (r.accept o c).1.homes = r.homes := by
  rw [accept_fst]

theorem buckets_accept (r : Registry) (o : Object) (c : Contract) :
    (r.accept o c).1.buckets = r.buckets := by
  rw [accept_fst]

theorem bucketFor_accept (r : Registry) (o : Object) (c other : Contract) (owner : ComponentId) :
    (r.accept o c).1.bucketFor owner other = r.bucketFor owner other := by
  rw [bucketFor, bucketFor, buckets_accept]

/-- A registration checks the offer, then whether the object is registered already, and appends the
object if nothing is held against it. -/
theorem register_eq (r : Registry) (owner : ComponentId) (o : Object) (c : Contract) :
    r.register owner o c =
      match (r.accept o c).2 with
      | .error cause => ((r.accept o c).1, .error (.rejected cause))
      | .ok () =>
        if (r.homes.get? o.id).isSome then
          ((r.accept o c).1, .error (.alreadyRegistered c.name))
        else (((r.accept o c).1.append owner o c).1, .ok (r.bucketFor owner c).next) := by
  -- The maps are looked up after the check, which has not touched them.
  have homes := homes_accept r o c
  have buckets := buckets_accept r o c
  unfold register
  rcases verdict : r.accept o c with ⟨accepted, cause | ⟨⟩⟩
  · rfl
  · rw [verdict] at homes buckets
    dsimp only at homes buckets ⊢
    rw [homes, Dictionary.contains_eq_isSome]
    cases r.homes.get? o.id with
    | some home => rfl
    | none =>
        rw [bucketFor, ← buckets]
        rfl

/-- A registration is refused because of the offer or because the object is registered already,
and otherwise the object is appended. -/
theorem register_cases (r : Registry) (owner : ComponentId) (o : Object) (c : Contract) :
    (∃ cause, (r.accept o c).2 = .error cause ∧
      r.register owner o c = ((r.accept o c).1, .error (.rejected cause))) ∨
    ((r.accept o c).2 = .ok () ∧ (∃ home, r.homes.get? o.id = some home) ∧
      r.register owner o c = ((r.accept o c).1, .error (.alreadyRegistered c.name))) ∨
    ((r.accept o c).2 = .ok () ∧ r.homes.get? o.id = none ∧
      r.register owner o c =
        (((r.accept o c).1.append owner o c).1, .ok (r.bucketFor owner c).next)) := by
  have register := r.register_eq owner o c
  cases verdict : (r.accept o c).2 with
  | error cause =>
      rw [verdict] at register
      exact .inl ⟨cause, rfl, register⟩
  | ok =>
      rw [verdict] at register
      cases known : r.homes.get? o.id with
      | some home =>
          rw [known] at register
          exact .inr (.inl ⟨rfl, ⟨home, rfl⟩, register⟩)
      | none =>
          rw [known] at register
          exact .inr (.inr ⟨rfl, rfl, register⟩)

/-! ## The two maps -/

/-- Appending puts a slot at the end of one bucket. -/
theorem get?_buckets_append (r : Registry) (owner : ComponentId) (o : Object) (c : Contract)
    (key : BucketKey) :
    (r.append owner o c).1.buckets.get? key =
      if ⟨owner, c.id⟩ = key then
        some { r.bucketFor owner c with
          slots := (r.bucketFor owner c).slots ++ [⟨o, c.id⟩] }
      else r.buckets.get? key :=
  Dictionary.get?_put ..

/-- Appending gives the object its home. -/
theorem get?_homes_append (r : Registry) (owner : ComponentId) (o : Object) (c : Contract)
    (id : Nat) :
    (r.append owner o c).1.homes.get? id =
      if o.id = id then some ⟨owner, c.id⟩ else r.homes.get? id :=
  Dictionary.get?_put ..

/-- Removing a bucket leaves all others. -/
theorem get?_buckets_removeBucket (r : Registry) (key other : BucketKey) :
    (r.removeBucket key).buckets.get? other =
      if other = key then none else r.buckets.get? other := by
  rw [removeBucket]
  cases found : r.buckets.get? key with
  | none =>
      dsimp only
      split
      · rename_i same
        rw [same, found]
      · rfl
  | some bucket => exact Dictionary.get?_erase ..

/-- Removing a bucket makes what it holds homeless, and nothing else. -/
theorem get?_homes_removeBucket (r : Registry) (key : BucketKey) (id : Nat) :
    (r.removeBucket key).homes.get? id =
      if (r.buckets.get? key).any (·.holds id) then none else r.homes.get? id := by
  rw [removeBucket]
  cases found : r.buckets.get? key with
  | none => rfl
  | some bucket =>
      refine (Dictionary.get?_filterKeys ..).trans ?_
      cases held : bucket.holds id with
      | true => simp [held]
      | false => simp [held]

/-- Removing buckets touches the two maps and nothing else. -/
theorem removeBucket_frame (r : Registry) (key : BucketKey) :
    r.removeBucket key =
      { r with buckets := (r.removeBucket key).buckets, homes := (r.removeBucket key).homes } := by
  rw [removeBucket]
  cases r.buckets.get? key <;> rfl

theorem get?_buckets_removeAll (keys : List BucketKey) (r : Registry) (other : BucketKey) :
    (keys.foldl removeBucket r).buckets.get? other =
      if other ∈ keys then none else r.buckets.get? other := by
  induction keys generalizing r with
  | nil => rfl
  | cons key rest ih =>
      rw [List.foldl_cons, ih, get?_buckets_removeBucket]
      by_cases later : other ∈ rest
      · rw [if_pos later, if_pos (List.mem_cons_of_mem _ later)]
      · rw [if_neg later]
        by_cases here : other = key
        · rw [if_pos here, if_pos (here ▸ List.mem_cons_self)]
        · rw [if_neg here, if_neg]
          intro member
          exact (List.mem_cons.mp member).elim here later

theorem mem_keysOf {r : Registry} {owner : ComponentId} {key : BucketKey} :
    key ∈ r.keysOf owner ↔ key ∈ r.buckets.keys ∧ key.owner = owner := by
  rw [keysOf, List.mem_filter, beq_iff_eq]

/-- Clearing an owner removes the buckets of this owner and no others. -/
theorem get?_buckets_clearOwner (r : Registry) (owner : ComponentId) (key : BucketKey) :
    (r.clearOwner owner).1.buckets.get? key =
      if key.owner = owner then none else r.buckets.get? key := by
  rw [clearOwner, get?_buckets_removeAll]
  by_cases own : key.owner = owner
  · rw [if_pos own]
    split
    · rfl
    · -- A key of the owner that is not listed has no bucket in the first place.
      rename_i unlisted
      rw [Dictionary.get?_eq_none_iff]
      intro member
      exact unlisted (mem_keysOf.mpr ⟨member, own⟩)
  · rw [if_neg own, if_neg]
    intro listed
    exact own (mem_keysOf.mp listed).2

theorem removeAll_frame (keys : List BucketKey) (r : Registry) :
    keys.foldl removeBucket r =
      { r with
        buckets := (keys.foldl removeBucket r).buckets
        homes := (keys.foldl removeBucket r).homes } := by
  induction keys generalizing r with
  | nil => rfl
  | cons key rest ih =>
      rw [List.foldl_cons, ih (r.removeBucket key)]
      rw [removeBucket_frame]

/-- Clearing an owner touches the two maps and nothing else. -/
theorem clearOwner_frame (r : Registry) (owner : ComponentId) :
    (r.clearOwner owner).1 =
      { r with
        buckets := (r.clearOwner owner).1.buckets
        homes := (r.clearOwner owner).1.homes } :=
  removeAll_frame (r.keysOf owner) r

/-! ## Commands -/

/-- `r.Transition command answer change next`: in the state `r`, the command gives the answer,
makes the change, if any, and leaves the state `next`. -/
inductive Transition (r : Registry) :
    RegistryCommand → RegistryAnswer → Option Change → Registry → Prop
  | registered (owner : ComponentId) {o : Object} (c : Contract) :
      (r.accept o c).2 = .ok () → r.homes.get? o.id = none →
      Transition r (.register owner o c) (.registration (.ok (r.bucketFor owner c).next))
        (some (.registered owner c (r.bucketFor owner c).next))
        ((r.accept o c).1.append owner o c).1
  | refused (owner : ComponentId) {o : Object} {c : Contract} {cause : RegistrationError} :
      (r.register owner o c).2 = .error cause →
      Transition r (.register owner o c) (.registration (.error cause)) none (r.accept o c).1
  | removed {command : RegistryCommand} {key : BucketKey} {bucket : Bucket} :
      command.removal? = some key → r.buckets.get? key = some bucket →
      Transition r command (.flag true)
        (some (.unregistered key.owner bucket.contract bucket.size)) (r.removeBucket key)
  | absent {command : RegistryCommand} {key : BucketKey} :
      command.removal? = some key → r.buckets.get? key = none →
      Transition r command (.flag false) none r
  | cleared {owner : ComponentId} : r.keysOf owner ≠ [] →
      Transition r (.clearOwner owner) (.count (r.keysOf owner).length)
        (some (.ownerCleared owner (r.keysOf owner).length)) (r.clearOwner owner).1
  | vacant {owner : ComponentId} : r.keysOf owner = [] →
      Transition r (.clearOwner owner) (.count 0) none r
  | rewired (command : GraphCommand) :
      Transition r (.graph command) (.graph (command.run r.graph).2) none
        { r with graph := (command.run r.graph).1 }
  | consulted {command : RegistryCommand} (answer : RegistryAnswer) : command.isQuery = true →
      Transition r command answer none r

theorem performRegister_transition (r : Registry) (owner : ComponentId) (o : Object)
    (c : Contract) (failures : List Failure) :
    r.Transition (.register owner o c) ((r.performRegister owner o c).answer failures)
      (r.performRegister owner o c).change (r.performRegister owner o c).state := by
  unfold performRegister
  rcases r.register_cases owner o c with
    ⟨cause, rejected, result⟩ | ⟨accepted, known, result⟩ | ⟨accepted, unknown, result⟩
  · rw [result]
    exact .refused owner (by rw [result])
  · rw [result]
    exact .refused owner (by rw [result])
  · rw [result]
    exact .registered owner c accepted unknown

/-- A registration answers whether it was refused. -/
theorem answer_register (observers : Nat) (r : Registry) (owner : ComponentId) (o : Object)
    (c : Contract) (failures : List Failure) :
    (perform observers r (.register owner o c)).answer failures =
      .registration (r.register owner o c).2 := by
  show (r.performRegister owner o c).answer failures = _
  unfold performRegister
  rcases r.register owner o c with ⟨next, cause | index⟩ <;> rfl

theorem state_register (observers : Nat) (r : Registry) (owner : ComponentId) (o : Object)
    (c : Contract) :
    (perform observers r (.register owner o c)).state = (r.register owner o c).1 := by
  show (r.performRegister owner o c).state = _
  unfold performRegister
  rcases r.register owner o c with ⟨next, cause | index⟩ <;> rfl

/-- A removal answers whether there was a bucket. -/
theorem performUnregister_eq (r : Registry) (owner : ComponentId) (c : Contract)
    (failures : List Failure) :
    (r.performUnregister owner c).answer failures =
        .flag (r.buckets.get? ⟨owner, c.id⟩).isSome ∧
      (r.performUnregister owner c).state = r.removeBucket ⟨owner, c.id⟩ := by
  unfold performUnregister unregister
  dsimp only
  cases r.buckets.get? ⟨owner, c.id⟩ <;> exact ⟨rfl, rfl⟩

/-- Clearing an owner answers how many buckets there were. -/
theorem performClear_eq (r : Registry) (owner : ComponentId) (failures : List Failure) :
    (r.performClear owner).answer failures = .count (r.keysOf owner).length ∧
      (r.performClear owner).state = (r.clearOwner owner).1 := by
  have counted : (r.clearOwner owner).2 = (r.keysOf owner).length := rfl
  rw [← counted]
  unfold performClear
  rcases r.clearOwner owner with ⟨next, _ | count⟩ <;> exact ⟨rfl, rfl⟩

theorem performUnregister_transition {command : RegistryCommand} {owner : ComponentId}
    {c : Contract} (removes : command.removal? = some ⟨owner, c.id⟩) (r : Registry)
    (failures : List Failure) :
    r.Transition command ((r.performUnregister owner c).answer failures)
      (r.performUnregister owner c).change (r.performUnregister owner c).state := by
  unfold performUnregister unregister
  dsimp only
  cases found : r.buckets.get? ⟨owner, c.id⟩ with
  | none =>
      rw [show r.removeBucket ⟨owner, c.id⟩ = r by rw [removeBucket, found]]
      exact .absent removes found
  | some bucket => exact .removed removes found

theorem performClear_transition (r : Registry) (owner : ComponentId) (failures : List Failure) :
    r.Transition (.clearOwner owner) ((r.performClear owner).answer failures)
      (r.performClear owner).change (r.performClear owner).state := by
  unfold performClear
  cases keys : r.keysOf owner with
  | nil =>
      have unchanged : r.clearOwner owner = (r, 0) := by rw [clearOwner, keys]; rfl
      rw [unchanged]
      exact .vacant keys
  | cons key rest =>
      have some : r.keysOf owner ≠ [] := by rw [keys]; exact List.cons_ne_nil _ _
      have result := Transition.cleared some
      have count : r.clearOwner owner = ((r.clearOwner owner).1, rest.length + 1) := by
        rw [clearOwner, keys]
        rfl
      rw [count]
      rwa [keys] at result

/-- Carrying out a command is one of the transitions, however the observers fail. -/
theorem perform_transition (observers : Nat) (r : Registry) (command : RegistryCommand)
    (failures : List Failure) :
    r.Transition command ((perform observers r command).answer failures)
      (perform observers r command).change (perform observers r command).state := by
  cases command with
  | register owner o c => exact r.performRegister_transition owner o c failures
  | unregister owner c => exact performUnregister_transition rfl r failures
  | unregisterType owner c => exact performUnregister_transition rfl r failures
  | clearOwner owner => exact r.performClear_transition owner failures
  | graph command => exact .rewired command
  | _ => exact .consulted _ rfl

/-! ## What a transition leaves -/

variable {r next : Registry} {command : RegistryCommand} {answer : RegistryAnswer}
  {change : Option Change}

/-- No command changes the contracts of the program or what the host expects of them. -/
theorem Transition.frame (step : r.Transition command answer change next) :
    next.catalogue = r.catalogue ∧ next.config = r.config := by
  cases step with
  | @registered owner o c _ _ =>
      show (r.accept o c).1.catalogue = _ ∧ (r.accept o c).1.config = _
      rw [accept_fst]
      exact ⟨rfl, rfl⟩
  | refused owner _ =>
      rw [accept_fst]
      exact ⟨rfl, rfl⟩
  | removed _ _ =>
      rw [removeBucket_frame]
      exact ⟨rfl, rfl⟩
  | absent _ _ => exact ⟨rfl, rfl⟩
  | cleared _ =>
      rw [clearOwner_frame]
      exact ⟨rfl, rfl⟩
  | vacant _ => exact ⟨rfl, rfl⟩
  | rewired command => exact ⟨rfl, rfl⟩
  | consulted answer _ => exact ⟨rfl, rfl⟩

/-- A bucket was there before, or an object that was accepted has just been appended to it. -/
theorem Transition.bucket_cases {key : BucketKey} {bucket : Bucket}
    (step : r.Transition command answer change next)
    (found : next.buckets.get? key = some bucket) :
    r.buckets.get? key = some bucket ∨
    ∃ owner o c, command = .register owner o c ∧ (r.accept o c).2 = .ok () ∧
      key = ⟨owner, c.id⟩ ∧ bucket = { r.bucketFor owner c with
        slots := (r.bucketFor owner c).slots ++ [⟨o, c.id⟩] } := by
  cases step with
  | @registered owner o c accepted _ =>
      rw [get?_buckets_append, bucketFor_accept, buckets_accept] at found
      split at found
      · rename_i here
        exact .inr ⟨owner, o, c, rfl, accepted, here.symm, (Option.some.inj found).symm⟩
      · exact .inl found
  | refused owner _ =>
      left
      rwa [buckets_accept] at found
  | removed _ _ =>
      left
      rw [get?_buckets_removeBucket] at found
      split at found
      · cases found
      · exact found
  | absent _ _ => exact .inl found
  | cleared _ =>
      left
      rw [get?_buckets_clearOwner] at found
      split at found
      · cases found
      · exact found
  | vacant _ => exact .inl found
  | rewired command => exact .inl found
  | consulted answer _ => exact .inl found

end Registry

end Switchboard
