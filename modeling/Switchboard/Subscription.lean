import Switchboard.Observer
import Switchboard.Total

/-!
# Subscriptions

Observers subscribe to a list and are told of changes in the order in which they
subscribed. The list numbers its subscribers from zero and never uses a number
again: an observer's id is its place in the roster of all who ever subscribed
(`subscribe_id`), and unsubscribing only strikes the id from those in force.
-/

namespace Switchboard

/-- An observer that subscribed, and how often its script has been started. -/
structure Subscriber (κ : Type) where
  observer : Observer κ
  runs : Nat

/-- Observers, each with an id. -/
structure Subscribers (κ : Type) where
  /-- Everyone who ever subscribed, in order. -/
  roster : List (Subscriber κ)
  /-- The ids of those who are still subscribed, in order. -/
  active : List Nat

variable {κ : Type}

namespace Subscriber

/-- Whether the script is run when the subscriber is told of a change now. -/
def ready (s : Subscriber κ) : Bool :=
  !s.observer.steps.isEmpty && decide (s.runs < s.observer.times)

/-- A subscriber whose script has been started once more. -/
def started (s : Subscriber κ) : Subscriber κ :=
  { s with runs := s.runs + 1 }

/-- The number of steps that a subscriber can still cause, and one for each run. -/
def weight (s : Subscriber κ) : Nat :=
  (s.observer.times - s.runs) * (1 + Step.weights s.observer.steps)

/-- A run that is started is paid for by what the subscriber can still cause. -/
theorem weight_started {s : Subscriber κ} (h : s.ready = true) :
    s.started.weight + (1 + Step.weights s.observer.steps) = s.weight := by
  simp only [ready, Bool.and_eq_true, decide_eq_true_eq] at h
  have left : s.observer.times - s.runs = (s.observer.times - (s.runs + 1)) + 1 := by omega
  simp only [weight, started]
  rw [left, Nat.add_mul, Nat.one_mul]

end Subscriber

namespace Subscribers

/-- No observers. -/
def empty : Subscribers κ where
  roster := []
  active := []

/-- Add an observer behind all others, and give its id. -/
def subscribe (l : Subscribers κ) (o : Observer κ) : Subscribers κ × Nat :=
  (⟨l.roster ++ [⟨o, 0⟩], l.active ++ [l.roster.length]⟩, l.roster.length)

/-- Remove an observer, and say whether it was there. -/
def unsubscribe (l : Subscribers κ) (id : Nat) : Subscribers κ × Bool :=
  ({ l with active := l.active.filter (· != id) }, l.active.contains id)

/-- How many observers there are. -/
def size (l : Subscribers κ) : Nat :=
  l.active.length

/-- Whether there are no observers. -/
def isEmpty (l : Subscribers κ) : Bool :=
  l.active.isEmpty

/-- The name that an observer, present or past, has in reports. -/
def label (l : Subscribers κ) (id : Nat) : Option String :=
  (l.roster[id]?).map (·.observer.label)

/-- How an observer, present or past, ends by its script. -/
def outcome (l : Subscribers κ) (id : Nat) : Option Outcome :=
  (l.roster[id]?).map (·.observer.outcome)

/-- Count one more start of a script. -/
def start (l : Subscribers κ) (id : Nat) : Subscribers κ :=
  { l with roster := l.roster.modify id Subscriber.started }

/-- The number of steps that all subscribers can still cause. -/
def weight (l : Subscribers κ) : Nat :=
  total Subscriber.weight l.roster

/-- The text that shows a list of some observers. -/
def details (observers : Nat) : String :=
  "ObserverList \x7b len: " ++ Text.Numeral.text observers ++ ", .. \x7d"

/-- The text that shows an id. -/
def idDetails (id : Nat) : String :=
  "ObserverId(" ++ Text.Numeral.text id ++ ")"

/-! ## Who is subscribed -/

/-- Nobody goes with a number that nobody has. -/
theorem filter_bne_of_absent {ids : List Nat} {id : Nat} (absent : id ∉ ids) :
    ids.filter (· != id) = ids := by
  refine List.filter_eq_self.mpr fun other present => bne_iff_ne.mpr ?_
  rintro rfl
  exact absent present

/-- Removing an observer that is not subscribed changes nothing. -/
theorem unsubscribe_of_absent {l : Subscribers κ} {id : Nat} (absent : id ∉ l.active) :
    l.unsubscribe id = (l, false) := by
  have unknown : l.active.contains id = false := by
    rw [Bool.eq_false_iff]
    exact fun found => absent (List.contains_iff_mem.mp found)
  rw [unsubscribe, filter_bne_of_absent absent, unknown]

/-! ## Weights -/

theorem weight_subscribe (l : Subscribers κ) (o : Observer κ) :
    (l.subscribe o).1.weight = l.weight + o.weight := by
  rw [weight, subscribe, total_append, total_cons, total_nil, weight, Observer.weight_eq]
  rfl

theorem weight_unsubscribe (l : Subscribers κ) (id : Nat) :
    (l.unsubscribe id).1.weight = l.weight := rfl

/-- Starting a script takes from the weight what the script's steps weigh, and one. -/
theorem weight_start {l : Subscribers κ} {id : Nat} {s : Subscriber κ}
    (found : l.roster[id]? = some s) (ready : s.ready = true) :
    (l.start id).weight + (1 + Step.weights s.observer.steps) = l.weight := by
  have traded := total_modify Subscriber.weight Subscriber.started found
  have paid := Subscriber.weight_started ready
  simp only [weight, start]
  omega

end Subscribers

end Switchboard
