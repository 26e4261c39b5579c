import Mathlib.Data.List.Forall2
import Switchboard.Proofs.Delivery
import Switchboard.Proofs.Registry.Coherence

/-!
# The changes tell the sizes

An observer that keeps a tally of the changes it hears of — one more under a key, a key dropped,
all keys of an owner dropped (`Change.note`) — knows the size of every bucket:

* **tally** — a transition does to the sizes what its change does to a tally, and the index or the
  count in the change is what the tally had before (`Registry.Transition.tally_eq`,
  `Registry.Transition.fits`);
* **occasion** — a transition makes a change exactly if the answer says that something was put or
  removed (`Registry.Transition.reports`);
* **delivery** — an observer that nobody ahead of it forestalls has heard of everything up to the
  very change it is called for, so that its tally is exact each time it is called
  (`Registry.stream_replays`).
-/

namespace Switchboard

/-! ## Tallies -/

/-- How many objects someone who goes by the changes takes each bucket to hold. -/
abbrev Tally := Dictionary BucketKey Nat

/-- The number under a key; a key that is not there counts as zero. -/
def Tally.count (tally : Tally) (key : BucketKey) : Nat :=
  (tally.get? key).getD 0

/-- Whether every number in a tally is one that an index can have. -/
def Tally.Small (tally : Tally) : Prop :=
  ∀ key, tally.count key < UInt32.size

namespace Change

/-- Take note of a change in a tally. -/
def note (change : Change) (tally : Tally) : Tally :=
  match change with
  | registered owner c _ => tally.put ⟨owner, c.id⟩ (tally.count ⟨owner, c.id⟩ + 1)
  | unregistered owner c _ => tally.erase ⟨owner, c.id⟩
  | ownerCleared owner _ => tally.filterKeys fun key => !(key.owner == owner)

/-- The tally of some changes, in order. -/
def replay (changes : List Change) : Tally :=
  changes.foldl (fun tally change => change.note tally) .empty

/-- Whether the number in a change is what a tally has: the count before an object was added, the
size of the bucket that was removed, and how many keys the owner had that was cleared. -/
def Fits (tally : Tally) : Change → Prop
  | registered owner c index => index.toNat = tally.count ⟨owner, c.id⟩
  | unregistered owner c count => tally.get? ⟨owner, c.id⟩ = some count
  | ownerCleared owner buckets => (tally.keys.filter (·.owner == owner)).length = buckets

theorem replay_concat (changes : List Change) (change : Change) :
    replay (changes ++ [change]) = change.note (replay changes) :=
  List.foldl_concat ..

/-- A change that reports what a command did, going by the answer that it gave. -/
inductive Reports : Change → RegistryCommand → RegistryAnswer → Prop
  | registered (owner : ComponentId) (o : Object) (c : Contract) (index : UInt32) :
      Reports (.registered owner c index) (.register owner o c) (.registration (.ok index))
  | unregistered {command : RegistryCommand} (owner : ComponentId) (c : Contract) (count : Nat) :
      command.removal? = some ⟨owner, c.id⟩ →
      Reports (.unregistered owner c count) command (.flag true)
  | ownerCleared (owner : ComponentId) (buckets : Nat) :
      Reports (.ownerCleared owner buckets) (.clearOwner owner) (.count buckets)

end Change

/-- Whether a command that gave this answer put or removed anything. -/
def RegistryCommand.commits (command : RegistryCommand) (answer : RegistryAnswer) : Bool :=
  match command, answer with
  | .register .., .registration (.ok _) => true
  | .unregister .., .flag removed => removed
  | .unregisterType .., .flag removed => removed
  | .clearOwner _, .count buckets => buckets != 0
  | _, _ => false

theorem RegistryCommand.commits_of_removal {command : RegistryCommand} {key : BucketKey}
    (removes : command.removal? = some key) (removed : Bool) :
    command.commits (.flag removed) = removed := by
  cases command <;> first | rfl | cases removes

theorem RegistryCommand.not_commits_of_isQuery {command : RegistryCommand}
    (query : command.isQuery = true) (answer : RegistryAnswer) :
    command.commits answer = false := by
  cases command <;> first | rfl | cases query

namespace Registry

/-- A tally that has the size of every bucket. -/
def Tallied (tally : Tally) (r : Registry) : Prop :=
  ∀ key, tally.get? key = (r.buckets.get? key).map Bucket.size

variable {r next : Registry} {tally : Tally} {command : RegistryCommand}
  {answer : RegistryAnswer} {change : Option Change}

theorem Tallied.congr (tallied : r.Tallied tally) (same : next.buckets = r.buckets) :
    next.Tallied tally := by
  intro key
  rw [same]
  exact tallied key

theorem Tallied.count_eq (tallied : r.Tallied tally) (owner : ComponentId) (c : Contract) :
    tally.count ⟨owner, c.id⟩ = r.bucketSize owner c := by
  rw [Tally.count, tallied, bucketSize, slots]
  cases r.buckets.get? ⟨owner, c.id⟩ <;> rfl

theorem Tallied.count_bucketFor (tallied : r.Tallied tally) (owner : ComponentId)
    (c : Contract) : tally.count ⟨owner, c.id⟩ = (r.bucketFor owner c).size := by
  rw [Tally.count, tallied, bucketFor]
  cases r.buckets.get? ⟨owner, c.id⟩ <;> rfl

theorem Tallied.mem_keys (tallied : r.Tallied tally) (key : BucketKey) :
    key ∈ tally.keys ↔ key ∈ r.buckets.keys := by
  simp only [Dictionary.mem_keys_iff, tallied key, Option.map_eq_some_iff]
  constructor
  · rintro ⟨_, bucket, found, -⟩
    exact ⟨bucket, found⟩
  · rintro ⟨bucket, found⟩
    exact ⟨_, bucket, found, rfl⟩

/-- A tally has as many keys of an owner as the registry has buckets of it. -/
theorem Tallied.length_keysOf (tallied : r.Tallied tally) (owner : ComponentId) :
    (tally.keys.filter (·.owner == owner)).length = (r.keysOf owner).length := by
  have listed : tally.keys.Nodup := tally.distinct
  have stored : r.buckets.keys.Nodup := r.buckets.distinct
  apply List.Perm.length_eq
  apply (List.perm_ext_iff_of_nodup (listed.filter _) (stored.filter _)).mpr
  intro key
  rw [List.mem_filter, List.mem_filter, tallied.mem_keys]

/-- A transition does to the sizes what its change does to a tally. -/
theorem Transition.tally_eq (step : r.Transition command answer change next)
    (coherent : r.Coherent) (tallied : r.Tallied tally) :
    next.Tallied (change.elim tally (·.note tally)) := by
  cases step with
  | @registered owner o c accepted unknown =>
      -- One more under the key of the bucket that the object is appended to.
      intro key
      show (tally.put _ _).get? key = _
      rw [Dictionary.get?_put, get?_buckets_append, bucketFor_accept, buckets_accept]
      by_cases here : (⟨owner, c.id⟩ : BucketKey) = key
      · rw [if_pos here, if_pos here, tallied.count_bucketFor, Option.map_some, Bucket.size,
          Bucket.size, List.length_append]
        rfl
      · rw [if_neg here, if_neg here, tallied]
  | refused owner _ => exact tallied.congr (buckets_accept r _ _)
  | @removed command key bucket removes found =>
      intro other
      -- The change names the contract that the bucket was created for.
      have identity := (coherent.proper key bucket found).identity
      show (tally.erase ⟨key.owner, bucket.contract.id⟩).get? other = _
      rw [identity, Dictionary.get?_erase, get?_buckets_removeBucket]
      split
      · rfl
      · exact tallied other
  | absent _ _ => exact tallied
  | @cleared owner occupied =>
      intro key
      show (tally.filterKeys fun key => !(key.owner == owner)).get? key = _
      rw [Dictionary.get?_filterKeys, get?_buckets_clearOwner, tallied]
      by_cases own : key.owner = owner
      · simp [own]
      · simp [own]
  | vacant _ => exact tallied
  | rewired command => exact tallied.congr rfl
  | consulted answer _ => exact tallied

/-- The number in a change is what a tally had before, if the bucket is not too large. -/
theorem Transition.fits {made : Change} (step : r.Transition command answer (some made) next)
    (coherent : r.Coherent) (tallied : r.Tallied tally) (small : (made.note tally).Small) :
    made.Fits tally := by
  cases step with
  | @registered owner o c accepted unknown =>
      have size := small ⟨owner, c.id⟩
      rw [Tally.count, Change.note, Dictionary.get?_put, if_pos rfl] at size
      show (UInt32.ofNat (r.bucketFor owner c).size).toNat = _
      rw [← tallied.count_bucketFor]
      exact UInt32.toNat_ofNat_of_lt' (Nat.lt_of_succ_lt size)
  | @removed command key bucket removes found =>
      show tally.get? ⟨key.owner, bucket.contract.id⟩ = some bucket.size
      rw [(coherent.proper key bucket found).identity, tallied, found]
      rfl
  | cleared _ => exact tallied.length_keysOf _

/-- A transition makes a change if the answer says that it has done something, and then the
change says what. -/
theorem Transition.reports (step : r.Transition command answer change next)
    (coherent : r.Coherent) :
    (∃ made, change = some made ∧ command.commits answer = true ∧ made.Reports command answer) ∨
    (change = none ∧ command.commits answer = false) := by
  cases step with
  | registered owner c _ _ => exact .inl ⟨_, rfl, rfl, .registered owner _ c _⟩
  | refused owner _ => exact .inr ⟨rfl, rfl⟩
  | @removed command key bucket removes found =>
      refine .inl ⟨_, rfl, RegistryCommand.commits_of_removal removes true, .unregistered _ _ _ ?_⟩
      rw [removes, (coherent.proper key bucket found).identity]
  | absent removes _ => exact .inr ⟨rfl, RegistryCommand.commits_of_removal removes false⟩
  | @cleared owner occupied =>
      refine .inl ⟨_, rfl, ?_, .ownerCleared owner _⟩
      exact bne_iff_ne.mpr (mt List.length_eq_zero_iff.mp occupied)
  | vacant _ => exact .inr ⟨rfl, rfl⟩
  | rewired command => exact .inr ⟨rfl, rfl⟩
  | consulted answer query => exact .inr ⟨rfl, RegistryCommand.not_commits_of_isQuery query answer⟩

/-! ## On every course -/

/-- The calls that put or removed something. -/
def committing (calls : List (Call RegistryCommand RegistryAnswer)) :
    List (Call RegistryCommand RegistryAnswer) :=
  calls.filter fun call => call.command.commits (call.answer [])

/-- The changes that some calls made, latest first, tell what has become of a registry. -/
structure Narrated (calls : List (Call RegistryCommand RegistryAnswer)) (r : Registry) : Prop where
  coherent : r.Coherent
  tallied : r.Tallied (Change.replay (Call.changes calls))
  fits : ∀ earlier change, Call.changes calls = earlier ++ [change] →
    (Change.replay (earlier ++ [change])).Small → change.Fits (Change.replay earlier)
  reported : List.Forall₂ (fun call change => change.Reports call.command (call.answer []))
    (committing calls).reverse (Call.changes calls)

theorem Narrated.call {calls : List (Call RegistryCommand RegistryAnswer)}
    (narrated : r.Narrated calls) (observers : Nat) (caller : Option Nat)
    (command : RegistryCommand) :
    (perform observers r command).state.Narrated
      (.of perform observers r caller command :: calls) := by
  have step := perform_transition observers r command []
  have coherent := narrated.coherent.transition step
  have tallied := step.tally_eq narrated.coherent narrated.tallied
  have grown : Call.changes (.of perform observers r caller command :: calls) =
      Call.changes calls ++ (perform observers r command).change.toList := by
    rw [← List.singleton_append, Call.changes_append, Call.changes_singleton]
    rfl
  rcases step.reports narrated.coherent with ⟨made, change, commits, reports⟩ | ⟨change, idle⟩
  · -- The call and its change are the last on either side.
    rw [change] at step tallied grown
    refine ⟨coherent, ?_, ?_, ?_⟩
    · rw [grown, Option.toList_some, Change.replay_concat]
      exact tallied
    · intro earlier last split small
      rw [grown] at split
      obtain ⟨rfl, same⟩ := List.append_inj' split rfl
      cases same
      rw [Change.replay_concat] at small
      exact step.fits narrated.coherent narrated.tallied small
    · have chosen : committing (.of perform observers r caller command :: calls) =
          .of perform observers r caller command :: committing calls :=
        List.filter_cons_of_pos commits
      rw [grown, chosen, List.reverse_cons]
      exact List.rel_append narrated.reported (.cons reports .nil)
  · -- Neither side has grown.
    rw [change] at tallied grown
    rw [Option.toList_none, List.append_nil] at grown
    refine ⟨coherent, ?_, ?_, ?_⟩
    · rw [grown]
      exact tallied
    · rw [grown]
      exact narrated.fits
    · have passed : committing (.of perform observers r caller command :: calls) =
          committing calls := List.filter_cons_of_neg (Bool.eq_false_iff.mp idle)
      rw [grown, passed]
      exact narrated.reported

variable {catalogue : Catalogue} {config : Config} {graph : Graph}
  {calls before : List (Call RegistryCommand RegistryAnswer)}
  {start s : Session Registry RegistryCommand RegistryAnswer}
  {tasks : List (Task RegistryCommand RegistryAnswer)}

theorem narrated_of_course (first : start.state.Narrated [])
    (course : Course perform start calls s tasks) : s.state.Narrated calls := by
  apply course.keeps (P := fun calls r => r.Narrated calls) first
  intro calls observers r caller command narrated
  exact narrated.call observers caller command

/-- Before the first change there is nothing to tell. -/
theorem Narrated.nil (coherent : r.Coherent) (tallied : r.Tallied .empty) : r.Narrated [] where
  coherent := coherent
  tallied := tallied
  fits _ _ split := absurd split.symm (List.append_ne_nil_of_right_ne_nil _ nofun)
  reported := .nil

/-- A registry in which nothing was changed is as good as new. -/
theorem narrated_of_fresh
    (course : Course perform (.start (.empty catalogue config graph)) before s tasks)
    (fresh : ∀ call ∈ before, call.change = none) : s.state.Narrated [] := by
  have new : (Registry.empty catalogue config graph).Narrated [] :=
    .nil (.empty catalogue config graph) fun _ => rfl
  have narrated := narrated_of_course new course
  have tallied := narrated.tallied
  rw [Call.changes_eq_nil fresh] at tallied
  exact .nil narrated.coherent tallied

/-- **The stream replays.** An observer is subscribed before anything is registered, and stays.
Whatever then happens, as long as no observer ahead of it makes a change while it is called: the
changes that it has heard of and has still to hear of are those of the calls that put or removed
something, one for each, in the order of the calls. Each time it is called, this is the last one
outstanding; its tally, with this change, has the size of every bucket; and the change fits the
tally that it had before. -/
theorem stream_replays {id : Nat}
    (opening : Course perform (.start (.empty catalogue config graph)) before start [])
    (fresh : ∀ call ∈ before, call.change = none) (subscribed : id ∈ start.subscribers.active)
    (course : Course perform start calls s tasks) (stays : id ∈ s.subscribers.active)
    (calm : ∀ call ∈ calls, ∀ other, call.caller = some other → other < id → call.change = none)
    (few : ∀ owner c, s.state.bucketSize owner c < UInt32.size) :
    List.Forall₂ (fun call change => change.Reports call.command (call.answer []))
      (committing calls).reverse (s.heard id ++ Task.awaiting id tasks) ∧
    ∀ change rest, tasks = .tell id change :: rest →
      Task.awaiting id rest = [] ∧
      (∀ owner c, (Change.replay (s.heard id ++ [change])).count ⟨owner, c.id⟩ =
        s.state.bucketSize owner c) ∧
      change.Fits (Change.replay (s.heard id)) := by
  have narrated := narrated_of_course (narrated_of_fresh opening fresh) course
  obtain ⟨prompt, heard⟩ := course.heard_append_awaiting
    (opening.ordered .empty) subscribed stays calm
  rw [(opening.heard_eq_nil rfl fresh id).1, List.nil_append] at heard
  constructor
  · rw [heard]
    exact narrated.reported
  · -- What the observer has heard and what it is called for are all changes so far.
    rintro change rest rfl
    have later : Task.awaiting id rest = [] := prompt.alone
    have awaited : Task.awaiting id (.tell id change :: rest) = [change] := by
      rw [Task.awaiting_cons, later, List.append_nil]
      exact Task.awaiting_tell id change
    rw [awaited] at heard
    have tallied := narrated.tallied
    rw [← heard] at tallied
    refine ⟨later, tallied.count_eq, ?_⟩
    apply narrated.fits _ _ heard.symm
    intro key
    -- Every key is that of some contract.
    show (Change.replay _).count ⟨key.owner, (Contract.cpu key.contract).id⟩ < _
    rw [tallied.count_eq]
    exact few key.owner (.cpu key.contract)

/-- An observer that looks for the first line of the desk when it is called for the first time. -/
def looker : Observer RegistryCommand :=
  ⟨none, [.command (.lookup ⟨1⟩ ⟨1⟩ (.cpu ⟨0, "Line"⟩) 0)], 1, .success⟩

/-- A new registry with two observers, of which the second echoes. -/
def staffed : Session Registry RegistryCommand RegistryAnswer :=
  ((Session.start (.empty [] .empty .full)).moment perform
    [.subscribe looker, .subscribe echo] 2).session

/-- The second observer is about to be called for the line that it has added while it was called
for the first one. -/
def echoed : Moment Registry RegistryCommand RegistryAnswer :=
  staffed.moment perform [.command firstLine] 9

/-- An observer that adds a line while it is called is told of it behind one that only looks. -/
theorem stream_replays_in_callback :
    ∃ change rest, Course perform (.start (.empty [] .empty .full)) [] staffed [] ∧
      1 ∈ staffed.subscribers.active ∧
      Course perform staffed echoed.calls echoed.session (.tell 1 change :: rest) ∧
      1 ∈ echoed.session.subscribers.active ∧
      (∀ call ∈ echoed.calls, ∀ other, call.caller = some other → other < 1 →
        call.change = none) ∧
      (∀ owner c, echoed.session.state.bucketSize owner c < UInt32.size) ∧
      (echoed.session.heard 1).length = 1 ∧
      change.Fits (Change.replay (echoed.session.heard 1)) := by
  have opening : Course perform (.start (.empty [] .empty .full)) [] staffed [] :=
    Course.moment perform _ [.subscribe looker, .subscribe echo] 2
  have course : Course perform staffed echoed.calls echoed.session echoed.agenda :=
    Course.moment perform staffed [.command firstLine] 9
  obtain ⟨change, rest, agenda⟩ : ∃ change rest, echoed.agenda = .tell 1 change :: rest :=
    ⟨_, _, rfl⟩
  rw [agenda] at course
  have stays : 1 ∈ echoed.session.subscribers.active := by decide
  have calm : ∀ call ∈ echoed.calls, ∀ other, call.caller = some other → other < 1 →
      call.change = none := by
    have quiet : (echoed.calls.all fun call =>
        call.caller != some 0 || call.change.isNone) = true := rfl
    intro call made other caller ahead
    have idle := List.all_eq_true.mp quiet call made
    rw [caller, Nat.lt_one_iff.mp ahead] at idle
    exact Option.isNone_iff_eq_none.mp idle
  have few : ∀ owner c, echoed.session.state.bucketSize owner c < UInt32.size :=
    bucketSize_lt (by decide) rfl
  have replays := stream_replays opening (fun _ absent => absurd absent List.not_mem_nil)
    (by decide) course stays calm few
  exact ⟨change, rest, opening, by decide, course, stays, calm, few, rfl,
    (replays.2 change rest rfl).2.2⟩

end Registry

end Switchboard
