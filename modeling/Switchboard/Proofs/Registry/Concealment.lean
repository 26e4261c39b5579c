import Switchboard.Proofs.Registry.Ledger
import Switchboard.Proofs.Transcript
import Switchboard.Registry.Scope

/-!
# What a lookup conceals

An object of another owner is out of reach (`Registry.Hidden`) if the owner is out of sight, if
there is no such bucket, or if the index is too large. A lookup does not tell which:

* **one question** — every lookup, whichever way it is made (`RegistryCommand.Seeks`), learns no
  more of a registry than what slot there is to be found (`RegistryCommand.Seeks.answer_congr`);
* **one answer** — there is none exactly if the object is out of reach
  (`Registry.find_eq_notFound_iff`), so all registries in which it is are alike to whoever asks
  (`Registry.lookups_do_not_leak`).
-/

namespace Switchboard

variable {requester owner : ComponentId} {c : Contract} {index : UInt32}

/-- The commands by which a requester looks up what an owner offers under a contract at an
index. -/
inductive RegistryCommand.Seeks (requester owner : ComponentId) (c : Contract) (index : UInt32) :
    RegistryCommand → Prop
  | lookup : Seeks requester owner c index (.lookup requester owner c index)
  | lookupContext : Seeks requester owner c index (.lookupContext requester owner c index)
  | indexed (family : Family) :
      Seeks requester owner c index (.lookupFamily family requester owner c (some index))
  | first (family : Family) : index = 0 →
      Seeks requester owner c index (.lookupFamily family requester owner c none)
  | interruptSupport (processor : ContractId) : c = .cpu processor → index = 0 →
      Seeks requester owner c index (.interruptSupport requester owner processor)

/-- The same through the scope of the requester. -/
inductive ScopeCommand.Seeks (owner : ComponentId) (c : Contract) (index : UInt32) :
    ScopeCommand → Prop
  | lookup : Seeks owner c index (.lookup owner c index)
  | lookupContext : Seeks owner c index (.lookupContext owner c index)
  | indexed (family : Family) : Seeks owner c index (.lookupFamily family owner c (some index))
  | first (family : Family) : index = 0 → Seeks owner c index (.lookupFamily family owner c none)

theorem ScopeCommand.Seeks.bind {command : ScopeCommand} (seeks : command.Seeks owner c index)
    (requester : ComponentId) : (command.bind requester).Seeks requester owner c index := by
  cases seeks with
  | lookup => exact .lookup
  | lookupContext => exact .lookupContext
  | indexed family => exact .indexed family
  | first family zero => exact .first family zero

namespace Registry

variable {r r' : Registry}

/-- What an owner offers under a contract at an index is out of reach of a requester. -/
inductive Hidden (r : Registry) (requester owner : ComponentId) (c : Contract) (index : UInt32) :
    Prop
  | unseen : r.graph.connects requester owner = false → Hidden r requester owner c index
  | unstocked : r.buckets.get? ⟨owner, c.id⟩ = none → Hidden r requester owner c index
  | beyond {bucket : Bucket} : r.buckets.get? ⟨owner, c.id⟩ = some bucket →
      bucket.size ≤ index.toNat → Hidden r requester owner c index

theorem find_eq_notFound_iff (apart : requester ≠ owner) :
    r.find requester owner c index = .error .notFound ↔ r.Hidden requester owner c index := by
  have sight : r.isVisible requester owner = r.graph.connects requester owner := by
    rw [isVisible, beq_eq_false_iff_ne.mpr apart, Bool.false_or]
  rw [find, sight]
  constructor
  · intro missed
    cases seen : r.graph.connects requester owner with
    | false => exact .unseen seen
    | true =>
        rw [seen, if_pos rfl] at missed
        cases found : r.buckets.get? ⟨owner, c.id⟩ with
        | none => exact .unstocked found
        | some bucket =>
            apply Hidden.beyond found
            rw [slots, found] at missed
            dsimp only at missed
            split at missed
            · cases missed
            · rename_i outside
              exact List.getElem?_eq_none_iff.mp outside
  · intro hidden
    cases hidden with
    | unseen denied => rw [denied, if_neg Bool.false_ne_true]
    | unstocked absent =>
        rw [slots, absent]
        exact ite_self _
    | beyond found few =>
        rw [slots, found]
        dsimp only
        rw [List.getElem?_eq_none few]
        exact ite_self _

/-- There is but one way for a lookup to fail. -/
theorem lookup_eq_error {cause : LookupError}
    (failed : r.lookup requester owner c index = .error cause) : cause = .notFound := by
  rw [lookup, find] at failed
  split at failed
  · rename_i missed
    cases failed
    split at missed
    · split at missed
      · cases missed
      · cases missed
        rfl
    · cases missed
      rfl
  · split at failed
    · cases failed
    · cases failed
      rfl

end Registry

open Registry (perform)

variable {r r' : Registry}

theorem RegistryCommand.Seeks.change_eq {command : RegistryCommand}
    (seeks : command.Seeks requester owner c index) (observers : Nat) :
    (perform observers r command).change = none := by
  cases seeks <;> rfl

/-- Registries in which the same slot is found, or none, are alike to whoever looks for it. -/
theorem RegistryCommand.Seeks.answer_congr {command : RegistryCommand}
    (seeks : command.Seeks requester owner c index)
    (same : r.find requester owner c index = r'.find requester owner c index)
    (observers observers' : Nat) :
    (perform observers r command).answer = (perform observers' r' command).answer ∧
      (perform observers r command).records = (perform observers' r' command).records := by
  have typed : r.lookup requester owner c index = r'.lookup requester owner c index := by
    rw [Registry.lookup, Registry.lookup, same]
  have bare : r.lookupContext requester owner c index =
      r'.lookupContext requester owner c index := by
    rw [Registry.lookupContext, Registry.lookupContext, same]
  have missed : r.misses requester owner c index = r'.misses requester owner c index := by
    rw [Registry.misses, Registry.misses, same]
  have family (family : Family) (answer : Except LookupError Object → RegistryAnswer) :
      (r.performLookupFamily family requester owner c index answer).answer =
          (r'.performLookupFamily family requester owner c index answer).answer ∧
        (r.performLookupFamily family requester owner c index answer).records =
          (r'.performLookupFamily family requester owner c index answer).records := by
    simp only [Registry.performLookupFamily, Effect.logged, Registry.lookupFamily, typed, missed,
      and_self]
  cases seeks with
  | lookup =>
      simp only [perform, Effect.logged, typed, missed, and_self]
  | lookupContext =>
      simp only [perform, Effect.logged, bare, missed, and_self]
  | indexed expected => exact family expected .found
  | first expected zero =>
      subst zero
      exact family expected .found
  | interruptSupport processor processing zero =>
      subst processing zero
      exact family .cpu _

namespace Registry

/-! ## Families -/

/-- A lookup under a contract of another family is refused for that. -/
theorem answer_lookupFamily_of_ne {family : Family} (other : c.family ≠ family) (observers : Nat)
    (r : Registry) (requester owner : ComponentId) (place : Option UInt32)
    (failures : List Failure) :
    (perform observers r (.lookupFamily family requester owner c place)).answer failures =
      .found (.error (.rejected (.familyMismatch c.name family c.family))) := by
  show RegistryAnswer.found (r.lookupFamily family requester owner c (place.getD 0)) = _
  rw [lookupFamily, if_neg other]

/-- Any other is a lookup. -/
theorem perform_lookupFamily_of_eq {family : Family} (same : c.family = family) (observers : Nat)
    (r : Registry) (requester owner : ComponentId) (place : Option UInt32) :
    perform observers r (.lookupFamily family requester owner c place) =
      perform observers r (.lookup requester owner c (place.getD 0)) := by
  show r.performLookupFamily family requester owner c (place.getD 0) .found = _
  rw [performLookupFamily, lookupFamily, if_pos same, if_pos same]
  rfl

theorem familyMismatch_iff {family : Family} {observers : Nat} {r : Registry}
    {requester owner : ComponentId} {place : Option UInt32} {failures : List Failure} :
    (∃ contract expected found,
      (perform observers r (.lookupFamily family requester owner c place)).answer failures =
        .found (.error (.rejected (.familyMismatch contract expected found)))) ↔
      c.family ≠ family := by
  constructor
  · rintro ⟨contract, expected, found, mismatch⟩ same
    rw [perform_lookupFamily_of_eq same] at mismatch
    have failed : r.lookup requester owner c (place.getD 0) = .error (.rejected _) :=
      RegistryAnswer.found.inj mismatch
    cases lookup_eq_error failed
  · intro other
    exact ⟨_, _, _, answer_lookupFamily_of_ne other observers r requester owner place failures⟩

/-! ## On all courses -/

variable {catalogue catalogue' : Catalogue} {config config' : Config} {graph graph' : Graph}
  {calls calls' : List (Call RegistryCommand RegistryAnswer)}
  {s s' : Session Registry RegistryCommand RegistryAnswer}
  {tasks tasks' : List (Task RegistryCommand RegistryAnswer)}

/-- In all sessions in which an object is out of reach, a lookup for it goes the same way. -/
theorem transcript_of_hidden (apart : requester ≠ owner)
    (hidden : s.state.Hidden requester owner c index)
    (hidden' : s'.state.Hidden requester owner c index) {command : RegistryCommand}
    (seeks : command.Seeks requester owner c index) (caller : Option Nat) :
    s.transcript perform [.run caller (.command command)] =
      s'.transcript perform [.run caller (.command command)] := by
  have same : s.state.find requester owner c index = s'.state.find requester owner c index := by
    rw [(find_eq_notFound_iff apart).mpr hidden, (find_eq_notFound_iff apart).mpr hidden']
  obtain ⟨answer, records⟩ := seeks.answer_congr same s.subscribers.size s'.subscribers.size
  rw [Session.transcript_unannounced (seeks.change_eq _),
    Session.transcript_unannounced (seeks.change_eq _), answer, records]

/-- A lookup in the name of another component fails exactly if the object is out of reach. -/
theorem Coherent.lookup_eq_notFound_iff (coherent : r.Coherent) (apart : requester ≠ owner) :
    r.lookup requester owner c index = .error .notFound ↔ r.Hidden requester owner c index := by
  rw [coherent.lookup_eq, ← find_eq_notFound_iff apart, lookupContext]
  cases r.find requester owner c index with
  | error cause => simp [Except.map]
  | ok slot => simp [Except.map]

/-- **Lookups do not leak.** Take any two registries, whatever was asked of them and by whom. If in
both of them what another owner offers under a contract at an index is out of reach of a requester,
be it for different reasons, then every lookup for it, made directly or through the requester's
scope, goes the same way in both: it writes the same records and gets the same answer. In either of
them, a lookup finds nothing exactly if it is out of reach. And in any registry, a lookup under a
contract of a certain family is refused for the family exactly if the contract is of another one,
and is a plain lookup otherwise. -/
theorem lookups_do_not_leak
    (course : Course perform (.start (.empty catalogue config graph)) calls s tasks)
    (course' : Course perform (.start (.empty catalogue' config' graph')) calls' s' tasks')
    (requester owner : ComponentId) (c : Contract) (index : UInt32) :
    (requester ≠ owner → s.state.Hidden requester owner c index →
      s'.state.Hidden requester owner c index → ∀ caller,
        (∀ command : RegistryCommand, command.Seeks requester owner c index →
          s.transcript perform [.run caller (.command command)] =
            s'.transcript perform [.run caller (.command command)]) ∧
        (∀ command : ScopeCommand, command.Seeks owner c index →
          s.transcript perform [.run caller (.command (command.bind requester))] =
            s'.transcript perform [.run caller (.command (command.bind requester))])) ∧
    (requester ≠ owner → ∀ r, r = s.state ∨ r = s'.state → ∀ observers failures,
      ((perform observers r (.lookup requester owner c index)).answer failures =
          .found (.error .notFound) ↔ r.Hidden requester owner c index) ∧
        ((perform observers r (.lookupContext requester owner c index)).answer failures =
          .context (.error .notFound) ↔ r.Hidden requester owner c index)) ∧
    (∀ r family place observers failures,
      ((∃ contract expected found,
          (perform observers r (.lookupFamily family requester owner c place)).answer failures =
            .found (.error (.rejected (.familyMismatch contract expected found)))) ↔
          c.family ≠ family) ∧
        (c.family = family →
          perform observers r (.lookupFamily family requester owner c place) =
            perform observers r (.lookup requester owner c (place.getD 0)))) := by
  refine ⟨?_, ?_, ?_⟩
  · -- Whatever is out of reach is not found, and this is all that a lookup learns.
    intro apart hidden hidden' caller
    constructor
    · intro command seeks
      exact transcript_of_hidden apart hidden hidden' seeks caller
    · intro command seeks
      exact transcript_of_hidden apart hidden hidden' (seeks.bind requester) caller
  · intro apart r either observers failures
    have coherent : r.Coherent := by
      rcases either with rfl | rfl
      · exact coherent_of_course course
      · exact coherent_of_course course'
    show (RegistryAnswer.found _ = .found _ ↔ _) ∧ (RegistryAnswer.context _ = .context _ ↔ _)
    rw [RegistryAnswer.found.injEq, RegistryAnswer.context.injEq, ← coherent.lookup_eq]
    exact ⟨coherent.lookup_eq_notFound_iff apart, coherent.lookup_eq_notFound_iff apart⟩
  · intro r family place observers failures
    exact ⟨familyMismatch_iff, fun same =>
      perform_lookupFamily_of_eq same observers r requester owner place⟩

/-- A second line that is out of sight, while an observer is told of it, cannot be told from one
that does not exist. -/
theorem lookups_do_not_leak_in_callback :
    ∃ calls s tasks calls' s' tasks',
      Course perform (.start (.empty [] .empty .isolated)) calls s tasks ∧
      Course perform (.start (.empty [] .empty .full)) calls' s' tasks' ∧
      (∃ change rest, tasks = .tell 0 change :: rest) ∧ s.state.size = 2 ∧ s'.state.size = 1 ∧
      s.transcript perform [.run none (.command (.lookup ⟨2⟩ ⟨1⟩ (.cpu ⟨0, "Line"⟩) 1))] =
        s'.transcript perform [.run none (.command (.lookup ⟨2⟩ ⟨1⟩ (.cpu ⟨0, "Line"⟩) 1))] := by
  have course := Course.moment perform (.start (.empty [] .empty .isolated))
    [.subscribe echo, .command firstLine] 4
  have course' := Course.moment perform (.start (.empty [] .empty .full)) [.command firstLine] 1
  obtain ⟨alike, -, -⟩ :=
    lookups_do_not_leak course course' ⟨2⟩ ⟨1⟩ (.cpu ⟨0, "Line"⟩) 1
  have same := (alike (by decide) (.unseen rfl) (.beyond rfl (by decide)) none).1 _ .lookup
  exact ⟨_, _, _, _, _, _, course, course', ⟨_, _, rfl⟩, rfl, rfl, same⟩

end Registry

end Switchboard
