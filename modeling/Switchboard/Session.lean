import Switchboard.Subscription

/-!
# Sessions

A session runs steps on a system and its observers. A command may commit a change;
then everyone subscribed at that moment is told of it, in order, before the command
answers, and what an observer does while it is told happens in between. So a
session works on an agenda of tasks, and carrying out a task may put further tasks
in front of the rest (`Session.advance`).

The agenda always runs out: a step weighs more than the tasks it leaves behind, and
a script that is started is taken from the weight of its subscriber
(`Session.advance_decreases`). A run over two agendas in a row is the run over the
second from where the first ended (`Session.run_append`).
-/

namespace Switchboard

/-- What comes of a command. The answer may tell how the observers failed that were
told of the change. -/
structure Effect (σ ρ : Type) where
  state : σ
  answer : List Failure → ρ
  records : List LogRecord
  change : Option Change

/-- A system takes commands in a state. A command may ask how many observers there
are, but does not change them. -/
abbrev System (σ κ ρ : Type) := (observers : Nat) → σ → κ → Effect σ ρ

/-- What a step answers. -/
inductive Reply (ρ : Type) where
  | answered (answer : ρ)
  | subscribed (id : Nat)
  | unsubscribed (found : Bool)
deriving DecidableEq

/-- Something that happened in a session. Observers are known by their ids; a step
is run by an observer or, without a caller, by the host. A step takes effect when it
is started, and what it causes happens before it returns. -/
inductive Happening (κ ρ : Type) where
  | started (caller : Option Nat) (step : Step κ)
  | recorded (record : LogRecord)
  | told (observer : Nat) (change : Change)
  | returned (caller : Option Nat) (step : Step κ) (reply : Reply ρ)

/-- A task on the agenda. -/
inductive Task (κ ρ : Type) where
  /-- Run a step. -/
  | run (caller : Option Nat) (step : Step κ)
  /-- Tell an observer of a change. -/
  | tell (observer : Nat) (change : Change)
  /-- Let an observer that has been told end as it does. -/
  | conclude (observer : Nat)
  /-- Let a command answer after everyone has been told. -/
  | reply (caller : Option Nat) (command : κ) (answer : List Failure → ρ)

/-- The state of a session. -/
structure Session (σ κ ρ : Type) where
  state : σ
  subscribers : Subscribers κ
  /-- The failures so far, for each command that has not answered yet, innermost first. -/
  reports : List (List Failure)
  /-- What has happened, latest first. -/
  history : List (Happening κ ρ)

variable {σ κ ρ : Type}

/-! ## Weights -/

namespace Task

/-- The number of steps that a task can cause. -/
def weight : Task κ ρ → Nat
  | run _ step => step.weight
  | _ => 0

/-- The number of tasks that a task amounts to if it causes no step. -/
def rank : Task κ ρ → Nat
  | tell .. => 2
  | _ => 1

/-- The number of steps that an agenda can cause. -/
def weights (tasks : List (Task κ ρ)) : Nat :=
  total weight tasks

/-- The number of tasks in an agenda that causes no step. -/
def ranks (tasks : List (Task κ ρ)) : Nat :=
  total rank tasks

/-- Tell some observers of a change. -/
def tellAll (observers : List Nat) : Option Change → List (Task κ ρ)
  | none => []
  | some change => observers.map (tell · change)

/-- Run the steps of a caller. -/
def runAll (caller : Option Nat) (steps : List (Step κ)) : List (Task κ ρ) :=
  steps.map (run caller)

theorem weights_cons (task : Task κ ρ) (tasks : List (Task κ ρ)) :
    weights (task :: tasks) = task.weight + weights tasks := rfl

theorem ranks_cons (task : Task κ ρ) (tasks : List (Task κ ρ)) :
    ranks (task :: tasks) = task.rank + ranks tasks := rfl

theorem weights_append (a b : List (Task κ ρ)) : weights (a ++ b) = weights a + weights b :=
  total_append weight a b

theorem ranks_append (a b : List (Task κ ρ)) : ranks (a ++ b) = ranks a + ranks b :=
  total_append rank a b

theorem weights_tellAll (observers : List Nat) (change : Option Change) :
    weights (tellAll observers change : List (Task κ ρ)) = 0 := by
  refine total_eq_zero weight _ fun task told => ?_
  cases change with
  | none => exact absurd told List.not_mem_nil
  | some change =>
    obtain ⟨observer, _, rfl⟩ := List.mem_map.mp told
    rfl

theorem weights_runAll (caller : Option Nat) (steps : List (Step κ)) :
    weights (runAll caller steps : List (Task κ ρ)) = Step.weights steps := by
  induction steps with
  | nil => rw [Step.weights]; rfl
  | cons step rest ih =>
    rw [Step.weights, ← ih]
    rfl

end Task

namespace Session

/-- A session in which nothing has happened. -/
def start (state : σ) : Session σ κ ρ where
  state := state
  subscribers := .empty
  reports := []
  history := []

/-- Note that something happened. -/
def note (s : Session σ κ ρ) (h : Happening κ ρ) : Session σ κ ρ :=
  { s with history := h :: s.history }

/-- Write records to the log, in order. -/
def record (s : Session σ κ ρ) (records : List LogRecord) : Session σ κ ρ :=
  { s with history := (records.map .recorded).reverse ++ s.history }

/-- Open a report for the failures of the observers that a command tells. -/
def openReport (s : Session σ κ ρ) : Session σ κ ρ :=
  { s with reports := [] :: s.reports }

/-- The failures in the innermost report. -/
def report (s : Session σ κ ρ) : List Failure :=
  s.reports.headD []

/-- Add a failure to the innermost report, and write it to the log. -/
def reportFailure (s : Session σ κ ρ) (failure : Failure) : Session σ κ ρ :=
  { s.record [.observerFailed failure] with
    reports := (s.report ++ [failure]) :: s.reports.tail }

/-- Carry out a command, up to the observers that have to be told. -/
def runCommand (system : System σ κ ρ) (s : Session σ κ ρ) (caller : Option Nat) (command : κ) :
    Session σ κ ρ × List (Task κ ρ) :=
  let effect := system s.subscribers.size s.state command
  -- Everyone who is subscribed now is told, even if they are no longer when it is their turn.
  ({ s.record effect.records with state := effect.state }.openReport,
    Task.tellAll s.subscribers.active effect.change ++ [.reply caller command effect.answer])

/-- Start a step. -/
def runStep (system : System σ κ ρ) (s : Session σ κ ρ) (caller : Option Nat) (step : Step κ) :
    Session σ κ ρ × List (Task κ ρ) :=
  let s := s.note (.started caller step)
  match step with
  | .command command => s.runCommand system caller command
  | .subscribe observer =>
    let (subscribers, id) := s.subscribers.subscribe observer
    ({ s with subscribers := subscribers }.note (.returned caller step (.subscribed id)), [])
  | .unsubscribe id =>
    let (subscribers, found) := s.subscribers.unsubscribe id
    ({ s with subscribers := subscribers }.note (.returned caller step (.unsubscribed found)), [])

/-- Tell an observer of a change; if its script is due, the steps come next. -/
def tell (s : Session σ κ ρ) (id : Nat) (change : Change) : Session σ κ ρ × List (Task κ ρ) :=
  let s := s.note (.told id change)
  match s.subscribers.roster[id]? with
  | none => (s, [.conclude id])
  | some subscriber =>
    if subscriber.ready then
      ({ s with subscribers := s.subscribers.start id },
        Task.runAll (some id) subscriber.observer.steps ++ [.conclude id])
    else (s, [.conclude id])

/-- Let an observer end in some way, and report it if it fails. -/
def concludeAs (s : Session σ κ ρ) (id : Nat) (outcome : Outcome) : Session σ κ ρ :=
  match s.subscribers.roster[id]? with
  | none => s
  | some subscriber =>
    match outcome.failure? with
    | none => s
    | some cause => s.reportFailure (subscriber.observer.failure cause)

/-- Let an observer end as its script has it. -/
def conclude (s : Session σ κ ρ) (id : Nat) : Session σ κ ρ :=
  match s.subscribers.outcome id with
  | none => s
  | some outcome => s.concludeAs id outcome

/-- Let a command answer, and close its report. -/
def reply (s : Session σ κ ρ) (caller : Option Nat) (command : κ)
    (answer : List Failure → ρ) : Session σ κ ρ :=
  { s.note (.returned caller (.command command) (.answered (answer s.report))) with
    reports := s.reports.tail }

/-- Carry out a task, and give the tasks that come before the rest of the agenda. -/
def advance (system : System σ κ ρ) (s : Session σ κ ρ) :
    Task κ ρ → Session σ κ ρ × List (Task κ ρ)
  | .run caller step => s.runStep system caller step
  | .tell id change => s.tell id change
  | .conclude id => (s.conclude id, [])
  | .reply caller command answer => (s.reply caller command answer, [])

/-- The number of steps that a session with an agenda can still take. -/
def weight (s : Session σ κ ρ) (tasks : List (Task κ ρ)) : Nat :=
  s.subscribers.weight + Task.weights tasks

/-- Session and agenda get smaller: in the steps that can be taken or, with the same
number of these, in the tasks that are left. -/
def Decreases (before after : Nat × Nat) : Prop :=
  Prod.Lex (· < ·) (· < ·) after before

/-- An observer that ends has its failure reported, if it fails. -/
theorem concludeAs_cases (s : Session σ κ ρ) (id : Nat) (outcome : Outcome) :
    s.concludeAs id outcome = s ∨
      ∃ failure, s.concludeAs id outcome = s.reportFailure failure := by
  unfold concludeAs
  split
  · exact .inl rfl
  · split
    · exact .inl rfl
    · exact .inr ⟨_, rfl⟩

theorem conclude_cases (s : Session σ κ ρ) (id : Nat) :
    s.conclude id = s ∨ ∃ failure, s.conclude id = s.reportFailure failure := by
  unfold conclude
  split
  · exact .inl rfl
  · exact s.concludeAs_cases id _

theorem subscribers_conclude (s : Session σ κ ρ) (id : Nat) :
    (s.conclude id).subscribers = s.subscribers := by
  rcases s.conclude_cases id with same | ⟨failure, reported⟩
  · rw [same]
  · rw [reported]
    rfl

/-- There is less to do if a task is replaced by tasks that can cause fewer steps. -/
theorem decreases_of_weight {s next : Session σ κ ρ} {task : Task κ ρ} {first : List (Task κ ρ)}
    (less : next.subscribers.weight + Task.weights first < s.subscribers.weight + task.weight)
    (rest : List (Task κ ρ)) :
    Decreases (s.weight (task :: rest), Task.ranks (task :: rest))
      (next.weight (first ++ rest), Task.ranks (first ++ rest)) := by
  refine Prod.Lex.left _ _ ?_
  rw [weight, weight, Task.weights_append, Task.weights_cons]
  omega

/-- There is less to do if a task is replaced by fewer tasks that can cause as much. -/
theorem decreases_of_rank {s next : Session σ κ ρ} {task : Task κ ρ} {first : List (Task κ ρ)}
    (same : next.subscribers = s.subscribers) (equal : Task.weights first = task.weight)
    (fewer : Task.ranks first < task.rank) (rest : List (Task κ ρ)) :
    Decreases (s.weight (task :: rest), Task.ranks (task :: rest))
      (next.weight (first ++ rest), Task.ranks (first ++ rest)) := by
  refine Prod.lex_def.mpr (.inr ⟨?_, ?_⟩)
  · show next.weight (first ++ rest) = s.weight (task :: rest)
    rw [weight, weight, same, Task.weights_append, Task.weights_cons, equal]
  · show Task.ranks (first ++ rest) < Task.ranks (task :: rest)
    rw [Task.ranks_append, Task.ranks_cons]
    omega

theorem runStep_decreases (system : System σ κ ρ) (s : Session σ κ ρ) (caller : Option Nat)
    (step : Step κ) (rest : List (Task κ ρ)) :
    Decreases (s.weight (.run caller step :: rest), Task.ranks (.run caller step :: rest))
      ((s.runStep system caller step).1.weight ((s.runStep system caller step).2 ++ rest),
        Task.ranks ((s.runStep system caller step).2 ++ rest)) := by
  refine decreases_of_weight ?_ rest
  cases step with
  | command command =>
    show s.subscribers.weight + Task.weights (_ ++ [_]) < s.subscribers.weight + 1
    rw [Task.weights_append, Task.weights_tellAll]
    exact Nat.lt_succ_self _
  | subscribe observer =>
    show (s.subscribers.subscribe observer).1.weight + 0 <
      s.subscribers.weight + (1 + observer.weight)
    rw [Subscribers.weight_subscribe]
    omega
  | unsubscribe id =>
    show (s.subscribers.unsubscribe id).1.weight + 0 < s.subscribers.weight + 1
    rw [Subscribers.weight_unsubscribe]
    omega

theorem tell_decreases (s : Session σ κ ρ) (id : Nat) (change : Change)
    (rest : List (Task κ ρ)) :
    Decreases (s.weight (.tell id change :: rest), Task.ranks (.tell id change :: rest))
      ((s.tell id change).1.weight ((s.tell id change).2 ++ rest),
        Task.ranks ((s.tell id change).2 ++ rest)) := by
  have fewer : Task.ranks [(.conclude id : Task κ ρ)] < Task.rank (.tell id change : Task κ ρ) :=
    Nat.lt_succ_self 1
  unfold tell
  dsimp only
  split
  · exact decreases_of_rank rfl rfl fewer rest
  · rename_i subscriber found
    split
    -- A script that is started is paid for by its subscriber.
    · rename_i due
      refine decreases_of_weight ?_ rest
      have paid := Subscribers.weight_start found due
      show (s.subscribers.start id).weight + Task.weights (_ ++ [_]) < s.subscribers.weight + 0
      rw [Task.weights_append, Task.weights_runAll]
      show _ + (_ + 0) < _
      simp only [note] at paid
      omega
    · exact decreases_of_rank rfl rfl fewer rest

/-- Every task leaves less to do than there was. -/
theorem advance_decreases (system : System σ κ ρ) (s : Session σ κ ρ) (task : Task κ ρ)
    (rest : List (Task κ ρ)) :
    Decreases (s.weight (task :: rest), Task.ranks (task :: rest))
      ((s.advance system task).1.weight ((s.advance system task).2 ++ rest),
        Task.ranks ((s.advance system task).2 ++ rest)) := by
  cases task with
  | run caller step => exact runStep_decreases system s caller step rest
  | tell id change => exact tell_decreases s id change rest
  | conclude id =>
    have fewer : Task.ranks ([] : List (Task κ ρ)) < Task.rank (.conclude id : Task κ ρ) :=
      Nat.one_pos
    exact decreases_of_rank (subscribers_conclude s id) rfl fewer rest
  | reply caller command answer =>
    have fewer : Task.ranks ([] : List (Task κ ρ)) < Task.rank (.reply caller command answer) :=
      Nat.one_pos
    exact decreases_of_rank rfl rfl fewer rest

/-- Carry out an agenda. -/
def run (system : System σ κ ρ) (s : Session σ κ ρ) : List (Task κ ρ) → Session σ κ ρ
  | [] => s
  | task :: rest =>
    match _step : s.advance system task with
    | (next, first) => run system next (first ++ rest)
termination_by tasks => (s.weight tasks, Task.ranks tasks)
decreasing_by
  have smaller := advance_decreases system s task rest
  rw [_step] at smaller
  exact smaller

theorem run_nil (system : System σ κ ρ) (s : Session σ κ ρ) : s.run system [] = s := by
  rw [run]

theorem run_cons (system : System σ κ ρ) (s : Session σ κ ρ) (task : Task κ ρ)
    (rest : List (Task κ ρ)) :
    s.run system (task :: rest) =
      (s.advance system task).1.run system ((s.advance system task).2 ++ rest) := by
  rw [run]

/-- Carrying out two agendas in a row. -/
theorem run_append (system : System σ κ ρ) (s : Session σ κ ρ) (first second : List (Task κ ρ)) :
    s.run system (first ++ second) = (s.run system first).run system second := by
  fun_induction run system s first with
  | case1 s => rfl
  | case2 s task rest next more h ih =>
    rw [List.cons_append, run_cons, h, ← List.append_assoc]
    exact ih

/-- Run the steps of a host. -/
def play (system : System σ κ ρ) (s : Session σ κ ρ) (steps : List (Step κ)) : Session σ κ ρ :=
  s.run system (Task.runAll none steps)

end Session

/-! ## What the host sees -/

/-- A step of the host with its answer and all that happened until it answered. -/
structure Episode (κ ρ : Type) where
  reply : Reply ρ
  trace : List (Happening κ ρ)

namespace Episode

/-- Cut what happened, in order, into episodes; `trace` has what happened, latest
first, since the host last got an answer. -/
def cut (trace : List (Happening κ ρ)) : List (Happening κ ρ) → List (Episode κ ρ)
  | [] => []
  | .returned none _ reply :: rest => ⟨reply, trace.reverse⟩ :: cut [] rest
  | happening :: rest => cut (happening :: trace) rest

end Episode

/-- The episodes of a session, in order. -/
def Session.episodes (s : Session σ κ ρ) : List (Episode κ ρ) :=
  Episode.cut [] s.history.reverse

end Switchboard
