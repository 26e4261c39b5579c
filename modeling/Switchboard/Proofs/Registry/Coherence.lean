import Switchboard.Proofs.Course
import Switchboard.Proofs.Registry.Transition

/-!
# The two maps of a registry agree

A registry keeps its objects in buckets and, apart from that, the home of each object. Coherence
(`Registry.Coherent`) says that the two tell the same story, and every transition keeps it
(`Registry.Coherent.transition`). From it follow the facts about the registry as a whole:

* no object occurs twice, whatever the bucket, the owner and the position
  (`Registry.Coherent.nodup_ids`);
* there are as many homes as objects in all buckets (`Registry.Coherent.size_eq_total`), and none
  exactly when there is no bucket (`Registry.Coherent.isEmpty_iff`).

All of this holds between the steps of a host and also whenever an observer is called, at any
depth, whether the registry is asked directly or through a scope, which only passes commands on
(`Registry.books_agree`).
-/

namespace Switchboard

/-- The objects in a bucket, in order, by their ids. -/
def Bucket.ids (bucket : Bucket) : List Nat :=
  bucket.slots.map (·.object.id)

theorem Bucket.holds_iff {bucket : Bucket} {id : Nat} :
    bucket.holds id = true ↔ id ∈ bucket.ids := by
  rw [holds, ids, List.any_eq_true, List.mem_map]
  simp only [beq_iff_eq]

/-- A bucket that is fit to be kept under a key. -/
structure Bucket.Proper (key : BucketKey) (bucket : Bucket) : Prop where
  distinct : bucket.ids.Nodup
  inhabited : bucket.slots ≠ []
  identity : bucket.contract.id = key.contract
  /-- Every slot was offered as the contract of the key. -/
  typed : ∀ slot ∈ bucket.slots, slot.offeredAs = key.contract

namespace Registry

/-- The objects in all positions of all buckets of all owners, by their ids. -/
def ids (r : Registry) : List Nat :=
  r.buckets.values.flatMap Bucket.ids

/-- The buckets and the homes of a registry agree. -/
structure Coherent (r : Registry) : Prop where
  /-- The home of an object is the bucket that it is in. -/
  home_iff : ∀ id key, r.homes.get? id = some key ↔
    ∃ bucket, r.buckets.get? key = some bucket ∧ id ∈ bucket.ids
  proper : ∀ key bucket, r.buckets.get? key = some bucket → bucket.Proper key

namespace Coherent

variable {r : Registry}

theorem empty (catalogue : Catalogue) (config : Config) (graph : Graph) :
    (Registry.empty catalogue config graph).Coherent where
  home_iff id key := by
    constructor
    · intro found
      cases found
    · rintro ⟨bucket, found, -⟩
      cases found
  proper key bucket found := by cases found

/-- Coherence speaks of the two maps only. -/
theorem congr {r' : Registry} (coherent : r.Coherent) (buckets : r'.buckets = r.buckets)
    (homes : r'.homes = r.homes) : r'.Coherent := by
  constructor
  · rw [buckets, homes]
    exact coherent.home_iff
  · rw [buckets]
    exact coherent.proper

/-! ## Registering -/

/-- The bucket that an object is to be appended to holds what is at home there. -/
theorem mem_ids_bucketFor (coherent : r.Coherent) (owner : ComponentId) (c : Contract)
    (id : Nat) :
    id ∈ (r.bucketFor owner c).ids ↔ r.homes.get? id = some ⟨owner, c.id⟩ := by
  rw [coherent.home_iff, bucketFor]
  cases found : r.buckets.get? ⟨owner, c.id⟩ with
  | none => simp [Bucket.ids]
  | some bucket => simp

/-- A bucket stays proper, or becomes so, when an object is appended that it does not hold. -/
theorem proper_append (coherent : r.Coherent) (owner : ComponentId) (c : Contract) {o : Object}
    (absent : o.id ∉ (r.bucketFor owner c).ids) :
    Bucket.Proper ⟨owner, c.id⟩ { r.bucketFor owner c with
      slots := (r.bucketFor owner c).slots ++ [⟨o, c.id⟩] } := by
  have old : (r.bucketFor owner c).ids.Nodup ∧ (r.bucketFor owner c).contract.id = c.id ∧
      ∀ slot ∈ (r.bucketFor owner c).slots, slot.offeredAs = c.id := by
    rcases r.bucketFor_cases owner c with ⟨-, fresh⟩ | known
    · rw [fresh]
      exact ⟨.nil, rfl, fun slot absent => absurd absent List.not_mem_nil⟩
    · have proper := coherent.proper _ _ known
      exact ⟨proper.distinct, proper.identity, proper.typed⟩
  obtain ⟨distinct, identity, typed⟩ := old
  refine ⟨?_, List.append_ne_nil_of_right_ne_nil _ (List.cons_ne_nil _ _), identity, ?_⟩
  · show (((r.bucketFor owner c).slots ++ [_]).map _).Nodup
    rw [List.map_append, List.nodup_append]
    refine ⟨distinct, by simp, ?_⟩
    intro id before last new same
    apply absent
    rwa [← show last = o.id from List.mem_singleton.mp new, ← same]
  · intro slot member
    rcases List.mem_append.mp member with before | last
    · exact typed slot before
    · rw [List.mem_singleton.mp last]

/-- Appending an object that has no home keeps the maps in agreement. -/
theorem append (coherent : r.Coherent) (owner : ComponentId) (c : Contract) {o : Object}
    (unknown : r.homes.get? o.id = none) : (r.append owner o c).1.Coherent := by
  have absent : o.id ∉ (r.bucketFor owner c).ids := by
    rw [coherent.mem_ids_bucketFor, unknown]
    exact nofun
  constructor
  · intro id key
    rw [get?_homes_append, get?_buckets_append]
    by_cases here : (⟨owner, c.id⟩ : BucketKey) = key
    · -- In the bucket itself the object is new, and all others are at home as before.
      subst here
      have appended : id ∈ Bucket.ids { r.bucketFor owner c with
          slots := (r.bucketFor owner c).slots ++ [⟨o, c.id⟩] } ↔
          id ∈ (r.bucketFor owner c).ids ∨ id = o.id := by
        simp [Bucket.ids]
      simp only [if_true, Option.some.injEq, exists_eq_left', appended,
        coherent.mem_ids_bucketFor]
      by_cases new : o.id = id
      · simp [new]
      · simp [new, Ne.symm new]
    · -- The object had no home, so it is in no other bucket.
      rw [if_neg here, ← coherent.home_iff]
      by_cases new : o.id = id
      · rw [if_pos new, ← new, unknown]
        simp [here]
      · rw [if_neg new]
  · intro key bucket found
    rw [get?_buckets_append] at found
    split at found
    · rename_i same
      cases found
      rw [← same]
      exact coherent.proper_append owner c absent
    · exact coherent.proper key bucket found

/-! ## Removing -/

/-- Removing a bucket makes those homeless that are at home in it. -/
theorem get?_homes_removeBucket (coherent : r.Coherent) (key : BucketKey) (id : Nat) :
    (r.removeBucket key).homes.get? id =
      if r.homes.get? id = some key then none else r.homes.get? id := by
  rw [Registry.get?_homes_removeBucket]
  have held : (r.buckets.get? key).any (·.holds id) = true ↔ r.homes.get? id = some key := by
    rw [coherent.home_iff, Option.any_eq_true]
    simp only [Bucket.holds_iff]
  simp only [held]

theorem removeBucket (coherent : r.Coherent) (key : BucketKey) :
    (r.removeBucket key).Coherent := by
  constructor
  · intro id other
    rw [coherent.get?_homes_removeBucket, get?_buckets_removeBucket]
    by_cases here : other = key
    · -- Nobody is at home in the bucket that is removed.
      subst here
      by_cases home : r.homes.get? id = some other
      · simp [home]
      · simp [home]
    · -- Whoever is at home elsewhere stays there.
      rw [if_neg here, ← coherent.home_iff]
      by_cases home : r.homes.get? id = some key
      · rw [if_pos home, home]
        simp [Ne.symm here]
      · rw [if_neg home]
  · intro other bucket found
    rw [get?_buckets_removeBucket] at found
    split at found
    · cases found
    · exact coherent.proper other bucket found

theorem clearOwner (coherent : r.Coherent) (owner : ComponentId) :
    (r.clearOwner owner).1.Coherent := by
  show ((r.keysOf owner).foldl Registry.removeBucket r).Coherent
  generalize r.keysOf owner = keys
  induction keys generalizing r with
  | nil => exact coherent
  | cons key rest ih => exact ih (coherent.removeBucket key)

/-- Every transition keeps the two maps in agreement. -/
theorem transition (coherent : r.Coherent) {command : RegistryCommand} {answer : RegistryAnswer}
    {change : Option Change} {next : Registry}
    (step : r.Transition command answer change next) : next.Coherent := by
  cases step with
  | @registered owner o c accepted unknown =>
      -- Checking the offer touches neither map, and then the object is appended.
      have checked : (r.accept o c).1.Coherent :=
        coherent.congr (buckets_accept r o c) (homes_accept r o c)
      refine checked.append owner c ?_
      rwa [homes_accept]
  | refused owner _ => exact coherent.congr (buckets_accept r _ _) (homes_accept r _ _)
  | removed _ _ => exact coherent.removeBucket _
  | absent _ _ => exact coherent
  | cleared _ => exact coherent.clearOwner _
  | vacant _ => exact coherent
  | rewired command => exact coherent.congr rfl rfl
  | consulted answer _ => exact coherent

/-! ## The registry as a whole -/

theorem mem_ids (coherent : r.Coherent) (id : Nat) :
    id ∈ r.ids ↔ ∃ key, r.homes.get? id = some key := by
  rw [ids, List.mem_flatMap]
  simp only [Dictionary.mem_values_iff, coherent.home_iff]
  constructor
  · rintro ⟨bucket, ⟨key, found⟩, member⟩
    exact ⟨key, bucket, found, member⟩
  · rintro ⟨key, bucket, found, member⟩
    exact ⟨bucket, ⟨key, found⟩, member⟩

/-- No object occurs in two places. -/
theorem nodup_ids (coherent : r.Coherent) : r.ids.Nodup := by
  rw [ids, List.Nodup, List.pairwise_flatMap]
  constructor
  · intro bucket member
    obtain ⟨key, found⟩ := Dictionary.mem_values_iff.mp member
    exact (coherent.proper key bucket found).distinct
  · -- An object in two buckets would have both as its home, so their keys were equal.
    rw [Dictionary.values, List.pairwise_map]
    have apart := List.pairwise_map.mp r.buckets.distinct
    apply apart.imp_of_mem
    intro first second here there different id held id' held'
    rintro rfl
    have home := (coherent.home_iff id first.1).mpr
      ⟨first.2, Dictionary.get?_eq_some_iff.mpr here, held⟩
    have home' := (coherent.home_iff id second.1).mpr
      ⟨second.2, Dictionary.get?_eq_some_iff.mpr there, held'⟩
    rw [home] at home'
    exact different (Option.some.inj home')

theorem length_ids (r : Registry) : r.ids.length = total Bucket.size r.buckets.values := by
  rw [ids]
  induction r.buckets.values with
  | nil => rfl
  | cons bucket rest ih =>
      rw [List.flatMap_cons, List.length_append, ih, total_cons]
      exact congrArg (· + _) (List.length_map _)

/-- There are as many homes as objects in all buckets. -/
theorem size_eq_total (coherent : r.Coherent) :
    r.size = total Bucket.size r.buckets.values := by
  -- Homes and slots are the same ids, without repetition on either side.
  have same : r.homes.keys.Perm r.ids := by
    apply (List.perm_ext_iff_of_nodup r.homes.distinct coherent.nodup_ids).mpr
    intro id
    rw [coherent.mem_ids, ← Dictionary.mem_keys_iff]
    rfl
  rw [← length_ids, ← same.length_eq]
  exact (List.length_map _).symm

/-- There is no home exactly when there is no bucket. -/
theorem isEmpty_iff (coherent : r.Coherent) :
    r.isEmpty = true ↔ r.buckets.isEmpty = true := by
  rw [isEmpty, Dictionary.isEmpty_iff, Dictionary.isEmpty_iff]
  constructor
  · intro homeless key
    cases found : r.buckets.get? key with
    | none => rfl
    | some bucket =>
        -- A bucket has a first slot, and its object would have a home.
        obtain ⟨slot, member⟩ :=
          List.exists_mem_of_ne_nil _ (coherent.proper key bucket found).inhabited
        have home := (coherent.home_iff slot.object.id key).mpr
          ⟨bucket, found, List.mem_map_of_mem member⟩
        rw [homeless] at home
        cases home
  · intro nothing id
    cases home : r.homes.get? id with
    | none => rfl
    | some key =>
        obtain ⟨bucket, found, -⟩ := (coherent.home_iff id key).mp home
        rw [nothing] at found
        cases found

end Coherent

theorem bucketSize_of_found {r : Registry} {owner : ComponentId} {c : Contract} {bucket : Bucket}
    (found : r.buckets.get? ⟨owner, c.id⟩ = some bucket) :
    r.bucketSize owner c = bucket.size := by
  simp [bucketSize, slots, found, Bucket.size]

theorem bucketSize_of_absent {r : Registry} {owner : ComponentId} {c : Contract}
    (absent : r.buckets.get? ⟨owner, c.id⟩ = none) : r.bucketSize owner c = 0 := by
  simp [bucketSize, slots, absent]

/-- A bucket is no larger than the largest. -/
theorem bucketSize_lt {r : Registry} {limit : Nat} (positive : 0 < limit)
    (small : (r.buckets.values.all fun bucket => decide (bucket.size < limit)) = true)
    (owner : ComponentId) (c : Contract) : r.bucketSize owner c < limit := by
  rw [bucketSize, slots]
  split
  · rename_i bucket found
    exact of_decide_eq_true
      (List.all_eq_true.mp small bucket (Dictionary.mem_values_iff.mpr ⟨_, found⟩))
  · exact positive

/-! ## On every course -/

variable {catalogue : Catalogue} {config : Config} {graph : Graph}
  {calls : List (Call RegistryCommand RegistryAnswer)}
  {s : Session Registry RegistryCommand RegistryAnswer}
  {tasks : List (Task RegistryCommand RegistryAnswer)}

/-- The two maps agree on every course from a registry without buckets. -/
theorem coherent_of_course
    (course : Course perform (.start (.empty catalogue config graph)) calls s tasks) :
    s.state.Coherent := by
  refine course.keeps (P := fun _ r => r.Coherent) (.empty catalogue config graph) ?_
  intro calls observers r caller command coherent
  exact coherent.transition (perform_transition observers r command [])

/-- **The books agree.** Whatever is asked of a registry and whoever asks, between two steps and
whenever an observer is called: an object is at home in a bucket exactly if it is in one of its
slots; no object is in two places; there is no empty bucket; a bucket is kept under the identity
of its own contract; and the number of registered objects is that of all slots. -/
theorem books_agree
    (course : Course perform (.start (.empty catalogue config graph)) calls s tasks) :
    (∀ id owner contract, s.state.homes.get? id = some ⟨owner, contract⟩ ↔
      ∃ bucket, s.state.buckets.get? ⟨owner, contract⟩ = some bucket ∧
        ∃ slot ∈ bucket.slots, slot.object.id = id) ∧
    s.state.ids.Nodup ∧
    (∀ key bucket, s.state.buckets.get? key = some bucket →
      bucket.slots ≠ [] ∧ bucket.contract.id = key.contract) ∧
    s.state.size = total Bucket.size s.state.buckets.values ∧
    (s.state.isEmpty = true ↔ s.state.buckets.isEmpty = true) := by
  have coherent := coherent_of_course course
  refine ⟨?_, coherent.nodup_ids, ?_, coherent.size_eq_total, coherent.isEmpty_iff⟩
  · intro id owner contract
    simp only [coherent.home_iff, Bucket.ids, List.mem_map]
  · intro key bucket found
    have proper := coherent.proper key bucket found
    exact ⟨proper.inhabited, proper.identity⟩

/-- An observer that adds a second line to a desk when it is called for the first time. -/
def echo : Observer RegistryCommand :=
  ⟨none, [.command (.register ⟨1⟩ ⟨1, [.cpu ⟨0, "Line"⟩]⟩ (.cpu ⟨0, "Line"⟩))], 1, .success⟩

/-- The first line of the desk. -/
def firstLine : RegistryCommand :=
  .register ⟨1⟩ ⟨0, [.cpu ⟨0, "Line"⟩]⟩ (.cpu ⟨0, "Line"⟩)

/-- The books agree while an observer is called for the line that it has added itself. -/
theorem books_agree_in_callback :
    ∃ calls s tasks, Course perform (.start (.empty [] .empty .full)) calls s tasks ∧
      (∃ change rest, tasks = .tell 0 change :: rest) ∧ s.state.size = 2 ∧
      s.state.ids.Nodup ∧ s.state.size = total Bucket.size s.state.buckets.values := by
  have course := Course.moment perform (.start (.empty [] .empty .full))
    [.subscribe echo, .command firstLine] 4
  have agree := books_agree course
  exact ⟨_, _, _, course, ⟨_, _, rfl⟩, rfl, agree.2.1, agree.2.2.2.1⟩

end Registry

end Switchboard
