import Switchboard.Proofs.Registry.Coherence

/-!
# A registry as its history

What a registry holds can be told from the calls made on it, the latest first: the deposits in a
bucket (`Call.deposits`) are the registrations that succeeded since a call last emptied it, and
the graph is the first one with every edit since (`Call.rewire`). No other memory is needed:

* **one call at a time** — a transition empties a bucket, adds one deposit to it or leaves it
  as it was (`Registry.Transition.objects_eq`), and this is what the calls record
  (`Registry.Recorded`);
* **answers** — what a bucket holds, which index each object got and what every lookup gives are
  functions of the history (`Registry.history_decides`).
-/

namespace Switchboard

/-! ## What calls record -/

/-- An object in a bucket, with the index that was given for it. -/
structure Deposit where
  object : Object
  index : UInt32
deriving DecidableEq

/-- The deposit that a command made in the bucket under a key, if this was its answer. -/
def RegistryCommand.deposit? (key : BucketKey) (command : RegistryCommand)
    (answer : RegistryAnswer) : Option Deposit :=
  match answer, command with
  | .registration (.ok index), .register owner o c =>
    if (⟨owner, c.id⟩ : BucketKey) = key then some ⟨o, index⟩ else none
  | _, _ => none

/-- Whether a command that gave this answer removed the bucket under a key if there was one. -/
def RegistryCommand.empties (key : BucketKey) (command : RegistryCommand)
    (answer : RegistryAnswer) : Bool :=
  match answer with
  | .flag true => decide (command.removal? = some key)
  | .count (_ + 1) => decide (command = .clearOwner key.owner)
  | _ => false

/-- The deposits that some calls, latest first, left in the bucket under a key: those made since
the bucket was last removed, in the order they were made in. -/
def Call.deposits (key : BucketKey) (calls : List (Call RegistryCommand RegistryAnswer)) :
    List Deposit :=
  ((calls.takeWhile fun call => !call.command.empties key (call.answer [])).filterMap
    fun call => call.command.deposit? key (call.answer [])).reverse

/-- A graph after a command. -/
def RegistryCommand.rewire (graph : Graph) : RegistryCommand → Graph
  | .graph command => (command.run graph).1
  | _ => graph

/-- A graph after some calls, latest first. -/
def Call.rewire (graph : Graph) (calls : List (Call RegistryCommand RegistryAnswer)) : Graph :=
  calls.foldr (fun call graph => call.command.rewire graph) graph

/-- What some calls on a registry with this graph, latest first, have a lookup under a key give:
the object at the index, if the requester is the owner or connected to it. -/
def Call.resolve (graph : Graph) (calls : List (Call RegistryCommand RegistryAnswer))
    (requester : ComponentId) (key : BucketKey) (index : UInt32) : Except LookupError Object :=
  if requester = key.owner ∨ (rewire graph calls).connects requester key.owner = true then
    (((deposits key calls).map Deposit.object)[index.toNat]?).elim (.error .notFound) .ok
  else .error .notFound

theorem Call.deposits_cons (key : BucketKey) (call : Call RegistryCommand RegistryAnswer)
    (calls : List (Call RegistryCommand RegistryAnswer)) :
    deposits key (call :: calls) =
      if call.command.empties key (call.answer []) then []
      else deposits key calls ++ (call.command.deposit? key (call.answer [])).toList := by
  unfold deposits
  cases emptied : call.command.empties key (call.answer []) with
  | true => simp [emptied]
  | false => cases made : call.command.deposit? key (call.answer []) <;> simp [emptied, made]

theorem RegistryCommand.not_empties_of_isQuery {command : RegistryCommand}
    (query : command.isQuery = true) (key : BucketKey) (answer : RegistryAnswer) :
    command.empties key answer = false := by
  have keeps : command.removal? = none := by cases command <;> first | rfl | cases query
  have spares : ¬ command = .clearOwner key.owner := by
    rintro rfl
    cases query
  unfold empties
  split
  · simp [keeps]
  · simp [spares]
  · rfl

theorem RegistryCommand.deposit?_of_isQuery {command : RegistryCommand}
    (query : command.isQuery = true) (key : BucketKey) (answer : RegistryAnswer) :
    command.deposit? key answer = none := by
  unfold deposit?
  split
  · cases query
  · rfl

namespace Registry

/-- The objects under a key, in order. -/
def objects (r : Registry) (key : BucketKey) : List Object :=
  match r.buckets.get? key with
  | some bucket => bucket.slots.map Slot.object
  | none => []

theorem objects_eq_slots (r : Registry) (owner : ComponentId) (c : Contract) :
    r.objects ⟨owner, c.id⟩ = (r.slots owner c).map Slot.object := by
  unfold objects slots
  cases r.buckets.get? ⟨owner, c.id⟩ <;> rfl

theorem objects_congr {r r' : Registry} {key : BucketKey}
    (same : r'.buckets.get? key = r.buckets.get? key) : r'.objects key = r.objects key := by
  unfold objects
  rw [same]

theorem map_object_bucketFor (r : Registry) (owner : ComponentId) (c : Contract) :
    (r.bucketFor owner c).slots.map Slot.object = r.objects ⟨owner, c.id⟩ := by
  unfold objects bucketFor
  cases r.buckets.get? ⟨owner, c.id⟩ <;> rfl

/-- Registering an object puts it behind the others in its bucket. -/
theorem objects_append (r : Registry) (owner : ComponentId) (o : Object) (c : Contract)
    (key : BucketKey) :
    (r.append owner o c).1.objects key =
      r.objects key ++ if (⟨owner, c.id⟩ : BucketKey) = key then [o] else [] := by
  by_cases here : (⟨owner, c.id⟩ : BucketKey) = key
  · subst here
    rw [if_pos rfl, objects, get?_buckets_append, if_pos rfl, ← map_object_bucketFor]
    exact List.map_append
  · rw [if_neg here, List.append_nil]
    exact objects_congr (by rw [get?_buckets_append, if_neg here])

theorem objects_removeBucket (r : Registry) (key other : BucketKey) :
    (r.removeBucket key).objects other = if other = key then [] else r.objects other := by
  by_cases here : other = key
  · rw [if_pos here, objects, get?_buckets_removeBucket, if_pos here]
  · rw [if_neg here]
    exact objects_congr (by rw [get?_buckets_removeBucket, if_neg here])

theorem objects_clearOwner (r : Registry) (owner : ComponentId) (key : BucketKey) :
    (r.clearOwner owner).1.objects key = if key.owner = owner then [] else r.objects key := by
  by_cases own : key.owner = owner
  · rw [if_pos own, objects, get?_buckets_clearOwner, if_pos own]
  · rw [if_neg own]
    exact objects_congr (by rw [get?_buckets_clearOwner, if_neg own])

/-- A transition empties a bucket, adds a deposit to it, or leaves it as it was. -/
theorem Transition.objects_eq {r next : Registry} {command : RegistryCommand}
    {answer : RegistryAnswer} {change : Option Change}
    (step : r.Transition command answer change next) (key : BucketKey) :
    next.objects key =
      if command.empties key answer then []
      else r.objects key ++ ((command.deposit? key answer).map Deposit.object).toList := by
  cases step with
  | @registered owner o c accepted unknown =>
      -- Checking the offer leaves the buckets, and appending adds what the answer stands for.
      rw [objects_append, objects_congr (r := r) (by rw [buckets_accept])]
      simp only [RegistryCommand.empties, RegistryCommand.deposit?]
      split <;> rfl
  | refused owner _ =>
      rw [objects_congr (r := r) (by rw [buckets_accept])]
      exact (List.append_nil _).symm
  | @removed command removed bucket removes found =>
      rw [objects_removeBucket, RegistryCommand.empties, removes]
      by_cases here : key = removed
      · simp [here]
      · simp [here, Ne.symm here, RegistryCommand.deposit?]
  | absent _ _ => exact (List.append_nil _).symm
  | @cleared owner occupied =>
      -- The answer is not zero, so this counts as having emptied every bucket of the owner.
      obtain ⟨count, counted⟩ : ∃ count, (r.keysOf owner).length = count + 1 :=
        Nat.exists_eq_add_one.mpr (List.length_pos_iff.mpr occupied)
      rw [objects_clearOwner, counted, RegistryCommand.empties]
      by_cases own : key.owner = owner
      · simp [own]
      · simp [own, Ne.symm own, RegistryCommand.deposit?]
  | vacant _ => exact (List.append_nil _).symm
  | rewired command => exact (List.append_nil _).symm
  | consulted answer query =>
      rw [RegistryCommand.not_empties_of_isQuery query, RegistryCommand.deposit?_of_isQuery query]
      exact (List.append_nil _).symm

/-- A deposit is given the number of objects before it. -/
theorem Transition.index_eq {r next : Registry} {command : RegistryCommand}
    {answer : RegistryAnswer} {change : Option Change} {key : BucketKey} {deposit : Deposit}
    (step : r.Transition command answer change next)
    (made : command.deposit? key answer = some deposit) :
    deposit.index = .ofNat (r.objects key).length := by
  cases step with
  | @registered owner o c accepted unknown =>
      simp only [RegistryCommand.deposit?] at made
      split at made
      · rename_i here
        cases made
        subst here
        rw [← map_object_bucketFor, List.length_map]
        rfl
      · cases made
  | refused owner _ => cases made
  | removed _ _ => cases made
  | absent _ _ => cases made
  | cleared _ => cases made
  | vacant _ => cases made
  | rewired command => cases made
  | consulted answer query =>
      rw [RegistryCommand.deposit?_of_isQuery query] at made
      cases made

/-- A transition does to the graph what the command asks for. -/
theorem Transition.graph_eq {r next : Registry} {command : RegistryCommand}
    {answer : RegistryAnswer} {change : Option Change}
    (step : r.Transition command answer change next) : next.graph = command.rewire r.graph := by
  cases step with
  | registered owner c _ _ =>
      show (r.accept _ c).1.graph = r.graph
      rw [accept_fst]
  | refused owner _ =>
      rw [accept_fst]
      rfl
  | @removed command _ _ removes _ =>
      rw [removeBucket_frame]
      cases command <;> first | rfl | cases removes
  | @absent command _ removes _ => cases command <;> first | rfl | cases removes
  | cleared _ =>
      rw [clearOwner_frame]
      rfl
  | vacant _ => rfl
  | rewired command => rfl
  | @consulted command _ query => cases command <;> first | rfl | cases query

/-! ## On every course -/

/-- What a registry holds, and who may see whom, is what the calls record. -/
structure Recorded (graph : Graph) (calls : List (Call RegistryCommand RegistryAnswer))
    (r : Registry) : Prop where
  objects : ∀ key, r.objects key = (Call.deposits key calls).map Deposit.object
  indices : ∀ key, (Call.deposits key calls).map Deposit.index =
    (List.range (Call.deposits key calls).length).map UInt32.ofNat
  graph : r.graph = Call.rewire graph calls

theorem Recorded.call {graph : Graph} {calls : List (Call RegistryCommand RegistryAnswer)}
    {r : Registry} (recorded : r.Recorded graph calls) (observers : Nat) (caller : Option Nat)
    (command : RegistryCommand) :
    (perform observers r command).state.Recorded graph
      (.of perform observers r caller command :: calls) := by
  have step := perform_transition observers r command []
  have grown (key : BucketKey) :
      Call.deposits key (.of perform observers r caller command :: calls) =
        if command.empties key ((perform observers r command).answer []) then []
        else Call.deposits key calls ++
          (command.deposit? key ((perform observers r command).answer [])).toList :=
    Call.deposits_cons key _ calls
  constructor
  · intro key
    rw [step.objects_eq, grown, recorded.objects]
    split
    · rfl
    · rw [List.map_append]
      cases command.deposit? key ((perform observers r command).answer []) <;> rfl
  · intro key
    rw [grown]
    split
    · rfl
    · cases made : command.deposit? key ((perform observers r command).answer []) with
      | none =>
          rw [Option.toList_none, List.append_nil]
          exact recorded.indices key
      | some deposit =>
          -- The new deposit stands behind as many as its index says.
          have index := step.index_eq made
          rw [recorded.objects, List.length_map] at index
          rw [Option.toList_some, List.map_append, recorded.indices, List.length_append,
            List.length_singleton, List.range_succ, List.map_append, List.map_singleton,
            List.map_singleton, index]
  · rw [step.graph_eq, recorded.graph]
    rfl

variable {catalogue : Catalogue} {config : Config} {graph : Graph}
  {calls : List (Call RegistryCommand RegistryAnswer)}
  {s : Session Registry RegistryCommand RegistryAnswer}
  {tasks : List (Task RegistryCommand RegistryAnswer)}

theorem recorded_of_course
    (course : Course perform (.start (.empty catalogue config graph)) calls s tasks) :
    s.state.Recorded graph calls := by
  apply course.keeps (P := fun calls r => r.Recorded graph calls)
  · exact ⟨fun key => rfl, fun key => rfl, rfl⟩
  · intro calls observers r caller command recorded
    exact recorded.call observers caller command

/-! ## Answers -/

/-- The answers of a registry do not depend on how observers fail. -/
theorem perform_uniform : System.Uniform perform := by
  intro observers r command failures
  cases command with
  | register owner o c =>
      show (r.performRegister owner o c).answer failures = (r.performRegister owner o c).answer []
      unfold performRegister
      split <;> rfl
  | unregister owner c | unregisterType owner c =>
      show (r.performUnregister owner c).answer failures = (r.performUnregister owner c).answer []
      unfold performUnregister
      split <;> rfl
  | clearOwner owner =>
      show (r.performClear owner).answer failures = (r.performClear owner).answer []
      unfold performClear
      split <;> rfl
  | _ => rfl

/-- A bare lookup gives the object at an index, if the owner is in sight. -/
theorem lookupContext_eq (r : Registry) (requester owner : ComponentId) (c : Contract)
    (index : UInt32) :
    r.lookupContext requester owner c index =
      if requester = owner ∨ r.graph.connects requester owner = true then
        ((r.objects ⟨owner, c.id⟩)[index.toNat]?).elim (.error .notFound) .ok
      else .error .notFound := by
  have sight : r.isVisible requester owner = true ↔
      requester = owner ∨ r.graph.connects requester owner = true := by
    rw [isVisible, Bool.or_eq_true, beq_iff_eq]
  rw [lookupContext, find, objects_eq_slots, List.getElem?_map]
  by_cases visible : requester = owner ∨ r.graph.connects requester owner = true
  · rw [if_pos (sight.mpr visible), if_pos visible]
    cases (r.slots owner c)[index.toNat]? <;> rfl
  · rw [if_neg (visible ∘ sight.mp), if_neg visible]
    rfl

/-- Every slot of a bucket was offered as the contract that it is looked up as. -/
theorem Coherent.lookup_eq {r : Registry} (coherent : r.Coherent) (requester owner : ComponentId)
    (c : Contract) (index : UInt32) :
    r.lookup requester owner c index = r.lookupContext requester owner c index := by
  have typed : ∀ slot ∈ r.slots owner c, slot.object? c = some slot.object := by
    intro slot member
    unfold slots at member
    split at member
    · rename_i bucket found
      exact if_pos ((coherent.proper _ bucket found).typed slot member)
    · exact absurd member List.not_mem_nil
  rw [lookup, lookupContext]
  cases answer : r.find requester owner c index with
  | error cause => rfl
  | ok slot =>
      have member : slot ∈ r.slots owner c := by
        unfold find at answer
        split at answer
        · split at answer
          · rename_i held
            cases answer
            exact List.mem_of_getElem? held
          · cases answer
        · cases answer
      dsimp only
      rw [typed slot member]
      rfl

/-- **History decides.** Whatever was asked of a registry, by the host and from within callbacks:
the bucket of an owner and a contract holds, in order, the objects of the registrations that
succeeded since it was last removed; each was given the number of those before it; a lookup made
now, typed or bare, gives the object at the index if there is one and the requester is the owner
or connected to it by the graph with all its edits so far, and is not found otherwise. All calls
but those still under way have returned, with these answers. -/
theorem history_decides
    (course : Course perform (.start (.empty catalogue config graph)) calls s tasks)
    (owner : ComponentId) (c : Contract) (few : s.state.bucketSize owner c < UInt32.size) :
    (s.state.slots owner c).map Slot.object =
      (Call.deposits ⟨owner, c.id⟩ calls).map Deposit.object ∧
    (Call.deposits ⟨owner, c.id⟩ calls).map (·.index.toNat) =
      List.range (Call.deposits ⟨owner, c.id⟩ calls).length ∧
    (∀ observers requester index failures,
      (perform observers s.state (.lookup requester owner c index)).answer failures =
          .found (Call.resolve graph calls requester ⟨owner, c.id⟩ index) ∧
        (perform observers s.state (.lookupContext requester owner c index)).answer failures =
          .context (Call.resolve graph calls requester ⟨owner, c.id⟩ index)) ∧
    (calls.map Call.outcome).Perm
      (tasks.filterMap Task.outcome? ++ s.history.filterMap Happening.outcome?) := by
  have recorded := recorded_of_course course
  have held := recorded.objects ⟨owner, c.id⟩
  refine ⟨by rw [← objects_eq_slots, held], ?_, ?_, course.outcomes_perm perform_uniform rfl⟩
  · have size : (Call.deposits ⟨owner, c.id⟩ calls).length < UInt32.size := by
      rw [objects_eq_slots] at held
      rwa [← List.length_map Deposit.object, ← held, List.length_map]
    calc
      (Call.deposits ⟨owner, c.id⟩ calls).map (·.index.toNat)
        = ((Call.deposits ⟨owner, c.id⟩ calls).map Deposit.index).map UInt32.toNat := by
          rw [List.map_map]
          rfl
      _ = (List.range (Call.deposits ⟨owner, c.id⟩ calls).length).map
            (UInt32.toNat ∘ UInt32.ofNat) := by rw [recorded.indices, List.map_map]
      _ = List.range (Call.deposits ⟨owner, c.id⟩ calls).length := by
          refine (List.map_congr_left fun place before => ?_).trans (List.map_id _)
          exact UInt32.toNat_ofNat_of_lt' (Nat.lt_trans (List.mem_range.mp before) size)
  · intro observers requester index failures
    have bare : s.state.lookupContext requester owner c index =
        Call.resolve graph calls requester ⟨owner, c.id⟩ index := by
      rw [lookupContext_eq, held, recorded.graph]
      rfl
    refine ⟨congrArg RegistryAnswer.found ?_, congrArg RegistryAnswer.context bare⟩
    rw [(coherent_of_course course).lookup_eq]
    exact bare

/-- A line that was added from within a callback is found there, behind the first. -/
theorem history_decides_in_callback :
    ∃ calls s tasks, Course perform (.start (.empty [] .empty .isolated)) calls s tasks ∧
      (∃ change rest, tasks = .tell 0 change :: rest) ∧
      s.state.bucketSize ⟨1⟩ (.cpu ⟨0, "Line"⟩) < UInt32.size ∧
      (Call.deposits ⟨⟨1⟩, ⟨0, "Line"⟩⟩ calls).map (·.object.id) = [0, 1] ∧
      (Call.resolve .isolated calls ⟨1⟩ ⟨⟨1⟩, ⟨0, "Line"⟩⟩ 1).map Object.id = .ok 1 ∧
      Call.resolve .isolated calls ⟨2⟩ ⟨⟨1⟩, ⟨0, "Line"⟩⟩ 1 = .error .notFound := by
  have course := Course.moment perform (.start (.empty [] .empty .isolated))
    [.subscribe echo, .command firstLine] 4
  obtain ⟨held, -, found, -⟩ :=
    history_decides course ⟨1⟩ (.cpu ⟨0, "Line"⟩) (by decide)
  have ids := congrArg (List.map Object.id) held
  rw [List.map_map, List.map_map] at ids
  refine ⟨_, _, _, course, ⟨_, _, rfl⟩, by decide, ids.symm, ?_, ?_⟩
  · have own := RegistryAnswer.found.inj (found 0 ⟨1⟩ 1 []).1
    exact (congrArg (Except.map Object.id) own).symm
  · exact (RegistryAnswer.found.inj (found 0 ⟨2⟩ 1 []).1).symm

end Registry

end Switchboard
