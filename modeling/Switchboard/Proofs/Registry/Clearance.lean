import Switchboard.Proofs.Registry.Admission
import Switchboard.Proofs.Registry.EventStream
import Switchboard.Proofs.Registry.Isolation

/-!
# Clearing an owner

An owner can be cleared at once or bucket by bucket, and it comes to the same
(`Registry.clearing_is_unregistering`):

* **removal** — removing a bucket takes from a registry what is in it and nothing else, so buckets
  can be removed in any order (`Registry.removeAll_perm`), and the registry gets smaller by their
  sizes (`Registry.Coherent.size_removeAll`);
* **calm observers** — if observers leave the registry as it is (`Registry.Calm`), the calls of the
  host act on it one after the other, and only they announce changes
  (`Registry.attended_of_calm`);
* **two services** — removing the buckets of an owner one by one and clearing it are followed call
  by call (`Registry.Serves.unregister`, `Registry.Serves.clear`).
-/

namespace Switchboard

/-- The number of objects that a change lets go of, if it says so. -/
def Change.released : Change → Nat
  | unregistered _ _ count => count
  | _ => 0

namespace Registry

variable {r last : Registry} {owner : ComponentId} {c : Contract}

/-! ## Removing buckets in any order -/

theorem removeBucket_of_absent {key : BucketKey} (absent : r.buckets.get? key = none) :
    r.removeBucket key = r := by
  rw [removeBucket, absent]

theorem removeBucket_of_found {key : BucketKey} {bucket : Bucket}
    (found : r.buckets.get? key = some bucket) :
    r.removeBucket key =
      { r with
        buckets := r.buckets.erase key
        homes := r.homes.filterKeys (!bucket.holds ·) } := by
  rw [removeBucket, found]

theorem removeBucket_comm (r : Registry) (key other : BucketKey) :
    (r.removeBucket key).removeBucket other = (r.removeBucket other).removeBucket key := by
  by_cases same : key = other
  · rw [same]
  have left : (r.removeBucket key).buckets.get? other = r.buckets.get? other := by
    rw [get?_buckets_removeBucket, if_neg (Ne.symm same)]
  have left' : (r.removeBucket other).buckets.get? key = r.buckets.get? key := by
    rw [get?_buckets_removeBucket, if_neg same]
  cases found : r.buckets.get? key with
  | none =>
      rw [removeBucket_of_absent found, removeBucket_of_absent (left'.trans found)]
  | some bucket =>
      cases found' : r.buckets.get? other with
      | none =>
          rw [removeBucket_of_absent found', removeBucket_of_absent (left.trans found')]
      | some bucket' =>
          rw [removeBucket_of_found (left.trans found'), removeBucket_of_found (left'.trans found),
            removeBucket_of_found found, removeBucket_of_found found']
          simp only [Dictionary.erase, Dictionary.filterKeys_comm]

/-- It does not matter in which order buckets are removed. -/
theorem removeAll_perm {keys keys' : List BucketKey} (perm : keys.Perm keys') (r : Registry) :
    keys.foldl removeBucket r = keys'.foldl removeBucket r := by
  apply perm.foldl_eq'
  intro key _ other _ now
  exact now.removeBucket_comm key other

/-- A registry gets smaller by the size of the bucket that is removed. -/
theorem Coherent.size_removeBucket (coherent : r.Coherent) (owner : ComponentId) (c : Contract) :
    r.bucketSize owner c + (r.removeBucket ⟨owner, c.id⟩).size = r.size := by
  cases found : r.buckets.get? ⟨owner, c.id⟩ with
  | none => rw [removeBucket_of_absent found, bucketSize_of_absent found, Nat.zero_add]
  | some bucket =>
      -- Those who are at home in the bucket are those who are in it.
      have released : (r.homes.keys.filter bucket.holds).Perm bucket.ids := by
        have known : r.homes.keys.Nodup := r.homes.distinct
        apply (List.perm_ext_iff_of_nodup (known.filter _)
          (coherent.proper _ bucket found).distinct).mpr
        intro id
        rw [List.mem_filter, Bucket.holds_iff, Dictionary.mem_keys_iff]
        refine ⟨And.right, fun held => ⟨⟨⟨owner, c.id⟩, ?_⟩, held⟩⟩
        exact (coherent.home_iff id _).mpr ⟨bucket, found, held⟩
      have count : (r.homes.pairs.filter (bucket.holds ·.1)).length = bucket.size := by
        have same := released.length_eq
        rw [Dictionary.keys, List.filter_map, List.length_map, Bucket.ids, List.length_map] at same
        exact same
      rw [bucketSize_of_found found, removeBucket_of_found found, ← count]
      symm
      exact List.length_eq_length_filter_add fun pair : Nat × BucketKey => bucket.holds pair.1

theorem bucketSize_removeBucket {d : Contract} (other : d.id ≠ c.id) :
    (r.removeBucket ⟨owner, c.id⟩).bucketSize owner d = r.bucketSize owner d := by
  rw [bucketSize, bucketSize, slots, slots, get?_buckets_removeBucket, if_neg (by simp [other])]

theorem bucketFor_removeBucket {d : Contract} (other : d.id ≠ c.id) :
    (r.removeBucket ⟨owner, c.id⟩).bucketFor owner d = r.bucketFor owner d := by
  rw [bucketFor, bucketFor, get?_buckets_removeBucket, if_neg (by simp [other])]

/-- A registry gets smaller by the sizes of all buckets that are removed. -/
theorem Coherent.size_removeAll (coherent : r.Coherent) (owner : ComponentId)
    {contracts : List Contract} (distinct : (contracts.map Contract.id).Nodup) :
    total (r.bucketSize owner) contracts +
      ((contracts.map fun c => ⟨owner, c.id⟩).foldl Registry.removeBucket r).size = r.size := by
  induction contracts generalizing r with
  | nil => exact Nat.zero_add _
  | cons c rest ih =>
      obtain ⟨first, distinct⟩ := List.nodup_cons.mp distinct
      have later : total ((r.removeBucket ⟨owner, c.id⟩).bucketSize owner) rest =
          total (r.bucketSize owner) rest := by
        apply total_congr
        intro d member
        apply bucketSize_removeBucket
        intro same
        exact first (List.mem_map.mpr ⟨d, member, same⟩)
      have removed := coherent.size_removeBucket owner c
      have remaining := ih (coherent.removeBucket ⟨owner, c.id⟩) distinct
      rw [List.map_cons, List.foldl_cons, total_cons]
      omega

/-! ## Clearing -/

/-- Whoever was at home with an owner has no home after the owner is cleared. -/
theorem Coherent.homeless_of_cleared (coherent : r.Coherent) {id : Nat} {key : BucketKey}
    (home : r.homes.get? id = some key) : (r.clearOwner key.owner).1.homes.get? id = none := by
  have cleared := coherent.clearOwner key.owner
  cases left : (r.clearOwner key.owner).1.homes.get? id with
  | none => rfl
  | some other =>
      -- A home that is left is a bucket that is left, and this was the home before.
      obtain ⟨bucket, found, held⟩ := (cleared.home_iff id other).mp left
      rw [get?_buckets_clearOwner] at found
      split at found
      · cases found
      · rename_i foreign
        have same := (coherent.home_iff id other).mpr ⟨bucket, found, held⟩
        rw [home, Option.some.injEq] at same
        exact absurd (congrArg BucketKey.owner same.symm) foreign

variable {other requester : ComponentId} {index : UInt32}

/-- What others have is found as before. -/
theorem find_clearOwner (foreign : other ≠ owner) :
    (r.clearOwner owner).1.find requester other c index = r.find requester other c index := by
  have slots : (r.clearOwner owner).1.slots other c = r.slots other c := by
    rw [Registry.slots, Registry.slots, get?_buckets_clearOwner, if_neg foreign]
  have sight : (r.clearOwner owner).1.isVisible requester other = r.isVisible requester other := by
    rw [clearOwner_frame]
    rfl
  rw [find, find, slots, sight]

theorem lookup_clearOwner (foreign : other ≠ owner) :
    (r.clearOwner owner).1.lookup requester other c index = r.lookup requester other c index := by
  rw [lookup, lookup, find_clearOwner foreign]

theorem lookupContext_clearOwner (foreign : other ≠ owner) :
    (r.clearOwner owner).1.lookupContext requester other c index =
      r.lookupContext requester other c index := by
  rw [lookupContext, lookupContext, find_clearOwner foreign]

theorem lookupFamily_clearOwner (foreign : other ≠ owner) (family : Family) :
    (r.clearOwner owner).1.lookupFamily family requester other c index =
      r.lookupFamily family requester other c index := by
  rw [lookupFamily, lookupFamily, lookup_clearOwner foreign]

/-- What conforms is accepted, unless its name is taken. -/
theorem accept_of_conforming {o : Object} (conforms : Conforms r.catalogue r.config o c)
    (free : r.config.NameGoverned c → ∀ id, r.pins.get? c.name = some id → id = c.id) :
    (r.accept o c).2 = .ok () := by
  rw [accept_snd_of_free]
  · exact verdict_eq_ok_iff.mpr conforms
  · intro claiming
    exact free (Config.governance_byName_iff.mp claiming.2)

theorem next_bucketFor (r : Registry) (owner : ComponentId) (c : Contract) :
    (r.bucketFor owner c).next = .ofNat (r.bucketSize owner c) := by
  rw [Bucket.next, bucketFor, bucketSize, slots]
  cases r.buckets.get? ⟨owner, c.id⟩ <;> rfl

/-- An object of an owner that is cleared may be registered again, by anyone, as whatever it
conforms to. -/
theorem Coherent.register_released (coherent : r.Coherent) {key : BucketKey} {o : Object}
    (home : r.homes.get? o.id = some key) (conforms : Conforms r.catalogue r.config o c)
    (free : r.config.NameGoverned c → ∀ id, r.pins.get? c.name = some id → id = c.id)
    (owner : ComponentId) :
    ((r.clearOwner key.owner).1.register owner o c).2 =
      .ok (.ofNat ((r.clearOwner key.owner).1.bucketSize owner c)) := by
  have accepted : ((r.clearOwner key.owner).1.accept o c).2 = .ok () := by
    apply accept_of_conforming
    · rw [clearOwner_frame]
      exact conforms
    · rw [clearOwner_frame]
      exact free
  rw [← next_bucketFor]
  exact register_snd_of_accepted accepted (coherent.homeless_of_cleared home) owner

end Registry

/-! ## Calm observers -/

/-- The calls of the host among some calls, latest first, in the order they were made in. -/
def Call.ofHost {κ ρ : Type} (calls : List (Call κ ρ)) : List (Call κ ρ) :=
  (calls.filter (·.caller.isNone)).reverse

theorem Call.hosted_eq_ofHost {κ ρ : Type} (calls : List (Call κ ρ)) :
    (hosted calls).reverse = (ofHost calls).map fun call => (call.command, call.answer []) := by
  rw [hosted, ofHost, List.map_reverse]
  congr 1
  induction calls with
  | nil => rfl
  | cons call earlier ih =>
      cases caller : call.caller with
      | none => simp [outcome, Switchboard.hosted, caller, ← ih]
      | some id =>
          have foreign : Switchboard.hosted call.outcome = none := by
            rw [outcome, caller]
            rfl
          rw [List.map_cons, List.filterMap_cons_none foreign, ih]
          simp [caller]

theorem Call.requests_eq_ofHost {κ ρ : Type} (calls : List (Call κ ρ)) :
    (requests calls).reverse = (ofHost calls).map Call.command := by
  rw [requests, ← List.map_reverse, hosted_eq_ofHost, List.map_map]
  rfl

namespace Registry

/-- A registry after some calls, latest first. -/
def after (r : Registry) (calls : List (Call RegistryCommand RegistryAnswer)) : Registry :=
  calls.foldr (fun call now => (perform 0 now call.command).state) r

/-- Of these calls, latest first, those that observers made left the registry as it was. -/
def Calm (r : Registry) : List (Call RegistryCommand RegistryAnswer) → Prop
  | [] => True
  | call :: earlier =>
    (call.caller = none ∨ r.after (call :: earlier) = r.after earlier) ∧ r.Calm earlier

/-- By these calls, one after the other, a registry becomes another one. -/
inductive Serves : Registry → List (Call RegistryCommand RegistryAnswer) → Registry → Prop
  | done {r : Registry} : Serves r [] r
  | call {r next last : Registry} {call : Call RegistryCommand RegistryAnswer}
      {rest : List (Call RegistryCommand RegistryAnswer)} :
      r.Transition call.command (call.answer []) call.change next → Serves next rest last →
      Serves r (call :: rest) last

variable {r now next last : Registry} {owner : ComponentId}
  {call : Call RegistryCommand RegistryAnswer}
  {calls : List (Call RegistryCommand RegistryAnswer)}

theorem Serves.concat (serves : r.Serves calls now)
    (step : now.Transition call.command (call.answer []) call.change next) :
    r.Serves (calls ++ [call]) next := by
  induction serves with
  | done => exact .call step .done
  | call first _ ih => exact .call first (ih step)

/-- What leaves a registry as it is announces nothing. -/
theorem Transition.change_eq_none {command : RegistryCommand} {answer : RegistryAnswer}
    {change : Option Change} (step : r.Transition command answer change next)
    (same : next = r) : change = none := by
  cases step with
  | @registered owner o c accepted unknown =>
      -- The object has a home now.
      have home := (r.accept o c).1.get?_homes_append owner o c o.id
      rw [same, unknown] at home
      simp at home
  | @removed command key bucket removes found =>
      have gone := r.get?_buckets_removeBucket key key
      rw [same, found] at gone
      simp at gone
  | @cleared owner occupied =>
      obtain ⟨key, member⟩ := List.exists_mem_of_ne_nil _ occupied
      obtain ⟨kept, own⟩ := mem_keysOf.mp member
      have gone := r.get?_buckets_clearOwner owner key
      rw [same, if_pos own] at gone
      exact absurd kept (Dictionary.get?_eq_none_iff.mp gone)
  | refused owner _ => rfl
  | absent _ _ => rfl
  | vacant _ => rfl
  | rewired command => rfl
  | consulted answer _ => rfl

/-- What some calls, latest first, come to if only those of the host count. -/
structure Attended (r : Registry) (calls : List (Call RegistryCommand RegistryAnswer))
    (now : Registry) : Prop where
  serves : r.Serves (Call.ofHost calls) now
  changes : Call.changes calls = (Call.ofHost calls).filterMap Call.change

/-- A call of the host counts. -/
theorem Attended.host (attended : r.Attended calls now) (host : call.caller = none)
    (step : now.Transition call.command (call.answer []) call.change next) :
    r.Attended (call :: calls) next := by
  have calls_eq : Call.ofHost (call :: calls) = Call.ofHost calls ++ [call] := by
    simp [Call.ofHost, host]
  constructor
  · rw [calls_eq]
    exact attended.serves.concat step
  · rw [calls_eq, List.filterMap_append, ← attended.changes, ← List.singleton_append,
      Call.changes_append, Call.changes_singleton]
    cases change : call.change <;> simp [change]

/-- A call of an observer that leaves the registry as it is does not. -/
theorem Attended.observer (attended : r.Attended calls now) (observer : call.caller ≠ none)
    (step : now.Transition call.command (call.answer []) call.change now) :
    r.Attended (call :: calls) now := by
  have quiet := step.change_eq_none rfl
  have calls_eq : Call.ofHost (call :: calls) = Call.ofHost calls := by
    simp [Call.ofHost, observer]
  constructor
  · rw [calls_eq]
    exact attended.serves
  · rw [calls_eq, ← attended.changes]
    simp [Call.changes, quiet]

variable {start s : Session Registry RegistryCommand RegistryAnswer}
  {tasks : List (Task RegistryCommand RegistryAnswer)}

/-- While observers are calm, only the calls of the host count. -/
theorem attended_of_calm (course : Course perform start calls s tasks)
    (calm : start.state.Calm calls) : start.state.Attended calls s.state := by
  refine (course.keeps (P := fun calls now => now = start.state.after calls ∧
    (start.state.Calm calls → start.state.Attended calls now)) ⟨rfl, ?_⟩ ?_).2 calm
  · intro _
    exact ⟨.done, rfl⟩
  · rintro calls observers now caller command ⟨reached, ih⟩
    have moved : (perform observers now command).state =
        start.state.after (.of perform observers now caller command :: calls) := by
      rw [(perform_observers observers now command).1, reached]
      rfl
    refine ⟨moved, ?_⟩
    rintro ⟨calm, earlier⟩
    have step := perform_transition observers now command []
    rcases caller with _ | id
    · exact (ih earlier).host rfl step
    · have same : (perform observers now command).state = now := by
        rw [moved, reached]
        exact calm.resolve_left nofun
      rw [same] at step ⊢
      exact (ih earlier).observer nofun step

/-! ## Two services -/

/-- Removing a bucket that is there. -/
theorem Transition.unregistered {c : Contract} {bucket : Bucket} {answer : RegistryAnswer}
    {change : Option Change} (found : r.buckets.get? ⟨owner, c.id⟩ = some bucket)
    (step : r.Transition (.unregisterType owner c) answer change next) :
    answer = .flag true ∧ change = some (.unregistered owner bucket.contract bucket.size) ∧
      next = r.removeBucket ⟨owner, c.id⟩ := by
  cases step with
  | removed removes held =>
      cases removes
      rw [found, Option.some.injEq] at held
      subst held
      exact ⟨rfl, rfl, rfl⟩
  | absent removes missing =>
      cases removes
      rw [found] at missing
      cases missing
  | consulted answer query => cases query

/-- Clearing an owner that may have buckets or not. -/
theorem Transition.cleared_or_vacant {answer : RegistryAnswer} {change : Option Change}
    (step : r.Transition (.clearOwner owner) answer change next) :
    answer = .count (r.keysOf owner).length ∧ next = (r.clearOwner owner).1 ∧
      change = if r.keysOf owner = [] then none
        else some (.ownerCleared owner (r.keysOf owner).length) := by
  cases step with
  | cleared occupied => exact ⟨rfl, rfl, (if_neg occupied).symm⟩
  | vacant unoccupied => simp [clearOwner, unoccupied]
  | removed removes _ => cases removes
  | absent removes _ => cases removes
  | consulted answer query => cases query

/-- Buckets that are removed one by one are all there when it is their turn. -/
theorem Serves.unregister {contracts : List Contract} (serves : r.Serves calls last)
    (asked : calls.map Call.command = contracts.map (.unregisterType owner ·))
    (distinct : (contracts.map Contract.id).Nodup)
    (kept : ∀ c ∈ contracts, ∃ bucket, r.buckets.get? ⟨owner, c.id⟩ = some bucket) :
    last = (contracts.map fun c => ⟨owner, c.id⟩).foldl removeBucket r ∧
    calls.map (fun call => (call.command, call.answer [])) =
      contracts.map (fun c => (.unregisterType owner c, .flag true)) ∧
    calls.filterMap Call.change = contracts.map fun c =>
      .unregistered owner (r.bucketFor owner c).contract (r.bucketSize owner c) := by
  induction contracts generalizing r calls with
  | nil =>
      rw [List.map_nil, List.map_eq_nil_iff] at asked
      subst asked
      cases serves
      exact ⟨rfl, rfl, rfl⟩
  | cons c contracts ih =>
      cases serves with
      | done => cases asked
      | @call _ next _ call rest step serves =>
          obtain ⟨command, asked⟩ := List.cons.inj asked
          obtain ⟨first, distinct⟩ := List.nodup_cons.mp distinct
          obtain ⟨bucket, found⟩ := kept c List.mem_cons_self
          rw [command] at step
          obtain ⟨answer, change, rfl⟩ := step.unregistered found
          have others : ∀ d ∈ contracts, d.id ≠ c.id := by
            intro d member same
            exact first (List.mem_map.mpr ⟨d, member, same⟩)
          obtain ⟨state, answers, changes⟩ := ih serves asked distinct (by
            intro d member
            obtain ⟨bucket, found⟩ := kept d (List.mem_cons_of_mem _ member)
            refine ⟨bucket, ?_⟩
            rwa [get?_buckets_removeBucket, if_neg (by simp [others d member])])
          have same : (r.bucketFor owner c) = bucket := by rw [bucketFor, found, Option.getD_some]
          refine ⟨state, ?_, ?_⟩
          · rw [List.map_cons, List.map_cons, answers, command, answer]
          · rw [List.filterMap_cons_some change, changes, List.map_cons, same,
              bucketSize_of_found found]
            congr 1
            apply List.map_congr_left
            intro d member
            rw [bucketFor_removeBucket (others d member), bucketSize_removeBucket (others d member)]

theorem Serves.clear (serves : r.Serves calls last)
    (asked : calls.map Call.command = [.clearOwner owner]) :
    last = (r.clearOwner owner).1 ∧
    calls.map (fun call => (call.command, call.answer [])) =
      [(.clearOwner owner, .count (r.keysOf owner).length)] ∧
    calls.filterMap Call.change =
      if r.keysOf owner = [] then [] else [.ownerCleared owner (r.keysOf owner).length] := by
  cases serves with
  | done => cases asked
  | @call _ next _ call rest step serves =>
      obtain ⟨command, nothing⟩ := List.cons.inj asked
      rw [List.map_eq_nil_iff] at nothing
      subst nothing
      cases serves
      rw [command] at step
      obtain ⟨answer, rfl, change⟩ := step.cleared_or_vacant
      refine ⟨rfl, by rw [List.map_singleton, command, answer], ?_⟩
      rw [List.filterMap_cons, change]
      by_cases unoccupied : r.keysOf owner = []
      · simp [unoccupied]
      · simp [unoccupied]

/-! ## On every course -/

/-- The keys of an owner's buckets, as some contracts in any order name them, name each contract
once. -/
theorem nodup_of_keys {contracts : List Contract}
    (kept : (contracts.map fun c => (⟨owner, c.id⟩ : BucketKey)).Perm (r.keysOf owner)) :
    (contracts.map Contract.id).Nodup ∧
      ∀ c ∈ contracts, ∃ bucket, r.buckets.get? ⟨owner, c.id⟩ = some bucket := by
  constructor
  · have distinct : (r.keysOf owner).Nodup := r.buckets.distinct.filter _
    rw [← kept.nodup_iff, List.Nodup, List.pairwise_map] at distinct
    rw [List.Nodup, List.pairwise_map]
    refine distinct.imp fun other same => other ?_
    rw [same]
  · intro c member
    have listed := kept.mem_iff.mp (List.mem_map.mpr ⟨c, member, rfl⟩)
    exact Dictionary.mem_keys_iff.mp (mem_keysOf.mp listed).1

variable {catalogue : Catalogue} {config : Config} {graph : Graph}
  {before calls' : List (Call RegistryCommand RegistryAnswer)}
  {t t' : Session Registry RegistryCommand RegistryAnswer}

/-- **Clearing is unregistering.** From any state that a registry can be in, an owner is cleared by
a single command, or its buckets are removed one by one, in whatever order, while observers leave
the registry as it is. Each removal answers that there was a bucket, and both ways end in the same
state. The single command answers how many buckets there were and announces just this, if there were
any; the removals announce each bucket with its size, and the sizes add up to what the registry gets
smaller by. What others have stays where it is and is found as before. Every object that was let go
of can be registered again by anyone, as any contract that it conforms to, unless the name is
taken. -/
theorem clearing_is_unregistering
    (reached : Course perform (.start (.empty catalogue config graph)) before s [])
    (owner : ComponentId) (contracts : List Contract)
    (kept : (contracts.map fun c => (⟨owner, c.id⟩ : BucketKey)).Perm (s.state.keysOf owner))
    (removals : Course perform s calls t [])
    (asked : (Call.requests calls).reverse = contracts.map (.unregisterType owner ·))
    (calm : s.state.Calm calls)
    (clearing : Course perform s calls' t' [])
    (asked' : Call.requests calls' = [.clearOwner owner])
    (calm' : s.state.Calm calls') :
    t.state = t'.state ∧
    t.replies = s.replies ++ contracts.map (fun c => (.unregisterType owner c, .flag true)) ∧
    t'.replies = s.replies ++ [(.clearOwner owner, .count contracts.length)] ∧
    Call.changes calls' =
      (if contracts = [] then [] else [.ownerCleared owner contracts.length]) ∧
    Call.changes calls = contracts.map (fun c =>
      .unregistered owner (s.state.bucketFor owner c).contract (s.state.bucketSize owner c)) ∧
    total Change.released (Call.changes calls) + t'.state.size = s.state.size ∧
    (∀ other, other ≠ owner → ∀ c,
      t'.state.buckets.get? ⟨other, c.id⟩ = s.state.buckets.get? ⟨other, c.id⟩ ∧
      ∀ requester index,
        t'.state.lookup requester other c index = s.state.lookup requester other c index ∧
        t'.state.lookupContext requester other c index =
          s.state.lookupContext requester other c index ∧
        ∀ family, t'.state.lookupFamily family requester other c index =
          s.state.lookupFamily family requester other c index) ∧
    (∀ key bucket, s.state.buckets.get? key = some bucket → key.owner = owner →
      ∀ slot ∈ bucket.slots, ∀ other c, Conforms catalogue config slot.object c →
        (config.NameGoverned c → ∀ id, s.state.pins.get? c.name = some id → id = c.id) →
        ∀ observers failures,
          (perform observers t'.state (.register other slot.object c)).answer failures =
            .registration (.ok (.ofNat (t'.state.bucketSize other c)))) := by
  have coherent := coherent_of_course reached
  obtain ⟨program, configured⟩ := frame_of_course reached
  obtain ⟨distinct, present⟩ := nodup_of_keys kept
  -- Both ways, call by call.
  have attended := attended_of_calm removals calm
  rw [Call.requests_eq_ofHost] at asked
  obtain ⟨state, answers, changes⟩ := attended.serves.unregister asked distinct present
  have attended' := attended_of_calm clearing calm'
  have asked' : (Call.ofHost calls').map Call.command = [.clearOwner owner] := by
    rw [← Call.requests_eq_ofHost, asked']
    rfl
  obtain ⟨state', answers', changes'⟩ := attended'.serves.clear asked'
  have count : (s.state.keysOf owner).length = contracts.length := by
    rw [← kept.length_eq, List.length_map]
  have empty : s.state.keysOf owner = [] ↔ contracts = [] := by
    rw [← List.length_eq_zero_iff, count, List.length_eq_zero_iff]
  have same : t.state = t'.state := by
    rw [state, state', removeAll_perm kept]
    rfl
  refine ⟨same, ?_, ?_, ?_, attended.changes.trans changes, ?_, ?_, ?_⟩
  · rw [reached.replies_trans perform_uniform rfl removals, Call.hosted_eq_ofHost, answers]
  · rw [reached.replies_trans perform_uniform rfl clearing, Call.hosted_eq_ofHost, answers', count]
  · rw [attended'.changes, changes', count]
    simp only [empty]
  · rw [attended.changes, changes, total_map, ← same, state]
    exact coherent.size_removeAll owner distinct
  · intro other foreign c
    rw [state', get?_buckets_clearOwner, if_neg foreign]
    refine ⟨rfl, fun requester index => ?_⟩
    exact ⟨lookup_clearOwner foreign, lookupContext_clearOwner foreign,
      lookupFamily_clearOwner foreign⟩
  · rintro key bucket found rfl slot member other c conforms free observers failures
    have home : s.state.homes.get? slot.object.id = some key :=
      (coherent.home_iff _ key).mpr ⟨bucket, found, List.mem_map.mpr ⟨slot, member, rfl⟩⟩
    rw [answer_register, state']
    refine congrArg RegistryAnswer.registration (coherent.register_released home ?_ ?_ other)
    · rw [program, configured]
      exact conforms
    · rw [configured]
      exact free

/-- Someone has a memory and a line, someone else has another line, and an observer is there that
only looks. -/
def furnished : Moment Registry RegistryCommand RegistryAnswer :=
  (Session.start (.empty [] .empty .full)).moment perform
    [.command (.register ⟨1⟩ ⟨2, [.memory ⟨1, "Ram"⟩]⟩ (.memory ⟨1, "Ram"⟩)), .command firstLine,
      .command (.register ⟨2⟩ ⟨3, [.cpu ⟨0, "Line"⟩]⟩ (.cpu ⟨0, "Line"⟩)), .subscribe looker] 7

/-- The one with two buckets gives up the line and then the memory. -/
def vacated : Moment Registry RegistryCommand RegistryAnswer :=
  furnished.session.moment perform
    [.command (.unregisterType ⟨1⟩ (.cpu ⟨0, "Line"⟩)),
      .command (.unregisterType ⟨1⟩ (.memory ⟨1, "Ram"⟩))] 10

/-- The one with two buckets is cleared. -/
def cleared : Moment Registry RegistryCommand RegistryAnswer :=
  furnished.session.moment perform [.command (.clearOwner ⟨1⟩)] 6

/-- Giving up a line and a memory is to be cleared, and the other one may have the line next. -/
theorem clearing_is_unregistering_at_desk :
    Course perform (.start (.empty [] .empty .full)) furnished.calls furnished.session [] ∧
    Course perform furnished.session vacated.calls vacated.session [] ∧
    Course perform furnished.session cleared.calls cleared.session [] ∧
    furnished.session.state.Calm vacated.calls ∧ furnished.session.state.Calm cleared.calls ∧
    vacated.session.state = cleared.session.state ∧
    Call.changes cleared.calls = [.ownerCleared ⟨1⟩ 2] ∧
    total Change.released (Call.changes vacated.calls) + cleared.session.state.size = 3 ∧
    (perform 1 cleared.session.state
      (.register ⟨2⟩ ⟨0, [.cpu ⟨0, "Line"⟩]⟩ (.cpu ⟨0, "Line"⟩))).answer [] =
        .registration (.ok 1) := by
  have reached : Course perform (.start (.empty [] .empty .full)) furnished.calls
      furnished.session [] := Course.moment perform _ _ 7
  have removals : Course perform furnished.session vacated.calls vacated.session [] :=
    Course.moment perform _ _ 10
  have clearing : Course perform furnished.session cleared.calls cleared.session [] :=
    Course.moment perform _ _ 6
  have calm : furnished.session.state.Calm vacated.calls :=
    ⟨.inl rfl, .inr rfl, .inl rfl, trivial⟩
  have calm' : furnished.session.state.Calm cleared.calls :=
    ⟨.inr rfl, .inl rfl, trivial⟩
  obtain ⟨same, -, -, announced, -, sizes, -, again⟩ :=
    clearing_is_unregistering reached ⟨1⟩ [.cpu ⟨0, "Line"⟩, .memory ⟨1, "Ram"⟩] (by decide)
      removals rfl calm clearing rfl calm'
  refine ⟨reached, removals, clearing, calm, calm', same, announced, sizes, ?_⟩
  exact again ⟨⟨1⟩, ⟨0, "Line"⟩⟩ _ rfl rfl _ List.mem_cons_self ⟨2⟩ (.cpu ⟨0, "Line"⟩)
    (verdict_eq_ok_iff.mp rfl) (fun governed => absurd governed (by decide)) 1 []

end Registry

end Switchboard
