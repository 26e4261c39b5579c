import Switchboard.Change

/-!
# Observers

An observer is told of every change and reacts by a script: some steps, which it
runs the first few times it is told anything, and an outcome. A step is a command
of the system under observation or a change to the list of observers, so a script
may subscribe observers with scripts of their own.

Every script is finite and runs a bounded number of times; `Observer.weight` bounds
the number of steps that an observer can ever cause by itself.
-/

namespace Switchboard

/-- How an observer ends when it has been told of a change. -/
inductive Outcome where
  | success
  | error (text : String)
  | panic (text : String)
  /-- It breaks off and leaves no text. -/
  | wordlessPanic
deriving DecidableEq

/-- The cause that is reported for an observer that breaks off without a text. -/
def FailureCause.wordless : FailureCause :=
  .panic "non-string panic payload"

/-- The failure that an outcome amounts to. -/
def Outcome.failure? : Outcome → Option FailureCause
  | success => none
  | error text => some (.error text)
  | panic text => some (.panic text)
  | wordlessPanic => some .wordless

mutual

/-- One step of a script, over the commands of the system under observation. -/
inductive Step (κ : Type) where
  | command (command : κ)
  | subscribe (observer : Observer κ)
  | unsubscribe (id : Nat)

/-- An observer, by its name and its script. -/
structure Observer (κ : Type) where
  name : Option String
  steps : List (Step κ)
  /-- How often the steps are run. -/
  times : Nat
  outcome : Outcome

end

variable {κ : Type}

mutual

/-- The number of steps that a step can cause, with itself. -/
def Step.weight : Step κ → Nat
  | .command _ => 1
  | .subscribe observer => 1 + observer.weight
  | .unsubscribe _ => 1

/-- The number of steps that an observer can cause, and one for each run. -/
def Observer.weight : Observer κ → Nat
  | ⟨_, steps, times, _⟩ => times * (1 + Step.weights steps)

/-- The number of steps that some steps can cause, with themselves. -/
def Step.weights : List (Step κ) → Nat
  | [] => 0
  | step :: rest => step.weight + Step.weights rest

end

/-- The name of an observer in reports; an observer need not have one of its own. -/
def Observer.label (o : Observer κ) : String :=
  o.name.getD "observer"

/-- A report that an observer failed. -/
def Observer.failure (o : Observer κ) (cause : FailureCause) : Failure :=
  ⟨o.label, cause⟩

theorem Observer.weight_eq (o : Observer κ) :
    o.weight = o.times * (1 + Step.weights o.steps) := by
  cases o
  simp [Observer.weight]

theorem Step.weights_append (a b : List (Step κ)) :
    Step.weights (a ++ b) = Step.weights a + Step.weights b := by
  induction a with
  | nil => simp [Step.weights]
  | cons step rest ih => simp [Step.weights, ih, Nat.add_assoc]

end Switchboard
