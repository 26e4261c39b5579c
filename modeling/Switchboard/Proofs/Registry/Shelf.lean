import Switchboard.Proofs.Registry.Coherence

/-!
# Shelves

What an owner has registered, bucket by bucket, is its shelf (`Registry.shelf`). An owner's number
of buckets, its entries and whatever is under one of its keys are read off the shelf. Only commands
on behalf of the owner change it (`Registry.Transition.shelf_eq`), and what these do to it and
answer is determined by the shelf alone, but for the judgement on what they offer
(`Registry.perform_own`).
-/

namespace Switchboard

namespace RegistryCommand

/-- The owner on whose behalf a command registers or removes something. -/
def owner? : RegistryCommand → Option ComponentId
  | register owner .. => some owner
  | unregister owner _ => some owner
  | unregisterType owner _ => some owner
  | clearOwner owner => some owner
  | _ => none

/-- Whether a command registers or removes something on behalf of an owner. -/
def isOf (owner : ComponentId) (command : RegistryCommand) : Bool :=
  command.owner? == some owner

end RegistryCommand

namespace Registry

variable {r r' next : Registry} {owner : ComponentId} {command : RegistryCommand}
  {answer : RegistryAnswer} {change : Option Change}

/-- The buckets of an owner, in the order in which they were created. -/
def shelf (r : Registry) (owner : ComponentId) : List (BucketKey × Bucket) :=
  r.buckets.pairs.filter (·.1.owner == owner)

theorem mem_shelf {key : BucketKey} {bucket : Bucket} :
    (key, bucket) ∈ r.shelf key.owner ↔ r.buckets.get? key = some bucket := by
  rw [shelf, List.mem_filter, Dictionary.get?_eq_some_iff]
  simp only [beq_self_eq_true, and_true]

theorem get?_buckets_of_shelf (key : BucketKey) (same : r.shelf key.owner = r'.shelf key.owner) :
    r.buckets.get? key = r'.buckets.get? key := by
  apply Option.ext
  intro bucket
  rw [← mem_shelf, ← mem_shelf, same]

/-- Registries with the same shelf agree on who is at home on it. -/
theorem Coherent.home_of_shelf {key : BucketKey} {id : Nat} (coherent : r.Coherent)
    (coherent' : r'.Coherent) (same : r.shelf key.owner = r'.shelf key.owner)
    (home : r.homes.get? id = some key) : r'.homes.get? id = some key := by
  rw [coherent.home_iff] at home
  rw [coherent'.home_iff, ← get?_buckets_of_shelf key same]
  exact home

theorem keysOf_eq (r : Registry) (owner : ComponentId) :
    r.keysOf owner = (r.shelf owner).map Prod.fst := by
  rw [keysOf, Dictionary.keys, shelf, List.filter_map]
  rfl

theorem entries_of_shelf (same : r.shelf owner = r'.shelf owner) :
    r.entries owner = r'.entries owner := by
  unfold entries
  rw [show r.buckets.pairs.filter _ = r'.buckets.pairs.filter _ from same]

/-! ## What commands do to it -/

theorem shelf_append (r : Registry) (owner : ComponentId) (o : Object) (c : Contract)
    (other : ComponentId) :
    (r.append owner o c).1.shelf other =
      if owner == other then
        Dictionary.putPair ⟨owner, c.id⟩ { r.bucketFor owner c with
          slots := (r.bucketFor owner c).slots ++ [⟨o, c.id⟩] } (r.shelf other)
      else r.shelf other :=
  Dictionary.filter_putPair (fun key : BucketKey => key.owner == other) _ _ _

theorem shelf_removeBucket (r : Registry) (key : BucketKey) (owner : ComponentId) :
    (r.removeBucket key).shelf owner = (r.shelf owner).filter (fun pair => pair.1 ≠ key) := by
  rw [removeBucket]
  cases found : r.buckets.get? key with
  | none =>
      -- There is nothing to be filtered out.
      symm
      apply List.filter_eq_self.mpr
      intro pair member
      apply decide_eq_true
      rintro rfl
      exact Dictionary.get?_eq_none_iff.mp found
        (List.mem_map_of_mem (List.mem_filter.mp member).1)
  | some bucket =>
      show List.filter _ (List.filter _ _) = List.filter _ (List.filter _ _)
      rw [List.filter_filter, List.filter_filter]
      congr 1
      funext pair
      exact Bool.and_comm ..

theorem shelf_removeAll (keys : List BucketKey) (r : Registry) (owner : ComponentId) :
    (keys.foldl removeBucket r).shelf owner =
      (r.shelf owner).filter (fun pair => pair.1 ∉ keys) := by
  induction keys generalizing r with
  | nil => exact (List.filter_eq_self.mpr fun _ _ => rfl).symm
  | cons key rest ih =>
      rw [List.foldl_cons, ih, shelf_removeBucket, List.filter_filter]
      congr 1
      funext pair
      simp [Bool.and_comm]

/-- A cleared owner has an empty shelf. -/
theorem shelf_clearOwner (r : Registry) (owner : ComponentId) :
    (r.clearOwner owner).1.shelf owner = [] := by
  rw [clearOwner, shelf_removeAll, keysOf_eq]
  apply List.filter_eq_nil_iff.mpr
  intro pair member
  simp only [decide_not, Bool.not_eq_true', decide_eq_false_iff_not, Classical.not_not]
  exact List.mem_map_of_mem member

/-- The shelf of an owner is left alone by what is not done on its behalf. -/
theorem Transition.shelf_eq (step : r.Transition command answer change next)
    (foreign : command.owner? ≠ some owner) : next.shelf owner = r.shelf owner := by
  have unlisted : ∀ key : BucketKey, key.owner ≠ owner →
      ∀ pair ∈ r.shelf owner, decide (pair.1 ≠ key) = true := by
    intro key other pair member
    apply decide_eq_true
    rintro rfl
    exact other (beq_iff_eq.mp (List.mem_filter.mp member).2)
  cases step with
  | @registered other o c accepted unknown =>
      have apart : ¬ (other == owner) = true := by
        intro same
        exact foreign (congrArg some (beq_iff_eq.mp same))
      rw [shelf_append, if_neg apart, shelf, buckets_accept]
      rfl
  | refused other _ =>
      rw [shelf, buckets_accept]
      rfl
  | @removed command key bucket removes found =>
      rw [shelf_removeBucket]
      apply List.filter_eq_self.mpr
      apply unlisted
      rintro rfl
      exact foreign (by cases command <;> cases removes <;> rfl)
  | absent _ _ => rfl
  | @cleared other _ =>
      rw [clearOwner, shelf_removeAll]
      apply List.filter_eq_self.mpr
      intro pair member
      apply decide_eq_true
      intro listed
      have own := beq_iff_eq.mp (List.mem_filter.mp member).2
      exact foreign (congrArg some ((mem_keysOf.mp listed).2.symm.trans own))
  | vacant _ => rfl
  | rewired command => rfl
  | consulted answer _ => rfl

/-- What changes nothing leaves all buckets as they are. -/
theorem Transition.buckets_eq (step : r.Transition command answer none next) :
    next.buckets = r.buckets := by
  cases step with
  | refused owner _ => exact buckets_accept r _ _
  | absent _ _ => rfl
  | vacant _ => rfl
  | rewired command => rfl
  | consulted answer _ => rfl

/-! ## Two registries with the same shelf -/

/-- If they judge an offer alike, they register it alike. -/
theorem register_own {o : Object} {c : Contract} (same : r.shelf owner = r'.shelf owner)
    (accepted : (r.accept o c).2 = (r'.accept o c).2)
    (homes : r.homes.get? o.id = r'.homes.get? o.id) :
    (r.register owner o c).2 = (r'.register owner o c).2 ∧
      (r.register owner o c).1.shelf owner = (r'.register owner o c).1.shelf owner := by
  have bucket : r.bucketFor owner c = r'.bucketFor owner c := by
    rw [bucketFor, bucketFor, get?_buckets_of_shelf ⟨owner, c.id⟩ same]
  have checked : (r.accept o c).1.shelf owner = (r'.accept o c).1.shelf owner := by
    rw [shelf, shelf, buckets_accept, buckets_accept]
    exact same
  rw [register_eq, register_eq, ← accepted, ← homes, ← bucket]
  cases (r.accept o c).2 with
  | error cause => exact ⟨rfl, checked⟩
  | ok =>
      cases r.homes.get? o.id with
      | some home => exact ⟨rfl, checked⟩
      | none =>
          refine ⟨rfl, ?_⟩
          show (Registry.append _ owner o c).1.shelf owner =
            (Registry.append _ owner o c).1.shelf owner
          rw [shelf_append, shelf_append, checked, bucketFor_accept, bucketFor_accept, bucket]

theorem performUnregister_own (same : r.shelf owner = r'.shelf owner) (c : Contract) :
    (r.performUnregister owner c).answer [] = (r'.performUnregister owner c).answer [] ∧
      (r.performUnregister owner c).state.shelf owner =
        (r'.performUnregister owner c).state.shelf owner := by
  obtain ⟨answered, left⟩ := r.performUnregister_eq owner c []
  obtain ⟨answered', left'⟩ := r'.performUnregister_eq owner c []
  rw [answered, answered', left, left', get?_buckets_of_shelf ⟨owner, c.id⟩ same,
    shelf_removeBucket, shelf_removeBucket, same]
  exact ⟨rfl, rfl⟩

theorem performClear_own (same : r.shelf owner = r'.shelf owner) :
    (r.performClear owner).answer [] = (r'.performClear owner).answer [] ∧
      (r.performClear owner).state.shelf owner = (r'.performClear owner).state.shelf owner := by
  obtain ⟨answered, left⟩ := r.performClear_eq owner []
  obtain ⟨answered', left'⟩ := r'.performClear_eq owner []
  rw [answered, answered', left, left', keysOf_eq, keysOf_eq, same, shelf_clearOwner,
    shelf_clearOwner]
  exact ⟨rfl, rfl⟩

/-- A command of the owner has the same answer and the same effect on the shelf, if what it offers
is judged alike. -/
theorem perform_own (own : command.owner? = some owner) (same : r.shelf owner = r'.shelf owner)
    (judged : ∀ o c, command = .register owner o c →
      (r.accept o c).2 = (r'.accept o c).2 ∧ r.homes.get? o.id = r'.homes.get? o.id)
    (observers observers' : Nat) :
    (perform observers r command).answer [] = (perform observers' r' command).answer [] ∧
      (perform observers r command).state.shelf owner =
        (perform observers' r' command).state.shelf owner := by
  cases command with
  | register other o c =>
      cases own
      obtain ⟨accepted, homes⟩ := judged o c rfl
      obtain ⟨result, left⟩ := register_own same accepted homes
      rw [answer_register, answer_register, state_register, state_register, result, left]
      exact ⟨rfl, rfl⟩
  | unregister other c =>
      cases own
      exact performUnregister_own same c
  | unregisterType other c =>
      cases own
      exact performUnregister_own same c
  | clearOwner other =>
      cases own
      exact performClear_own same
  | _ => cases own

end Registry

end Switchboard
