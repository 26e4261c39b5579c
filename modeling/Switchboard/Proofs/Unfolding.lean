import Switchboard.Proofs.Delivery
import Switchboard.Proofs.Transcript

/-!
# Unfolding sessions

A script fixes what an observer does when it is told of a change, and how it ends. Here both are
open: whoever has the word may decide on any further step, as on a course, and an observer may end
in any way each time it is called. `Unfolds` is this relation, with all that can be seen on the way
(`Sight`): what happens, and how observers end.

* **scripts are one way** — a task is carried out with the end that the script has
  (`Session.advance_eq`). So courses unfold (`Course.unfolds`), and so do runs, which come to their
  end (`Unfolds.run`); on both, everyone is seen to end by the script (`Sight.Scripted`);
* **what is seen is what happens** — the history grows by what is seen to happen
  (`Unfolds.history_eq`), and in a run by what is shown of it (`Session.history_run`);
* **moves** — a session unfolds as moves lead on, one at a time, and what comes of moves can be
  computed (`View.follow`, `Unfolds.follow`);
* **the roll** — two steps change who is subscribed (`Session.enrolment_cases`), and it can be told
  from what was seen: everyone who was given an id and has not been taken off since, in the order of
  subscription, and no id is given twice (`Unfolds.roll`); observers stay (`Unfolds.keeps`).
-/

namespace Switchboard

variable {σ κ ρ : Type}

/-- What can be seen of a session: what happens in it, and how observers end. -/
inductive Sight (κ ρ : Type) where
  | happened (happening : Happening κ ρ)
  | ended (observer : Nat) (outcome : Outcome)

/-- What happened, if this is what was seen. -/
def Sight.happening? : Sight κ ρ → Option (Happening κ ρ)
  | .happened happening => some happening
  | .ended .. => none

/-- The records that were written, as they are seen. -/
def Sight.records (records : List LogRecord) : List (Sight κ ρ) :=
  records.map fun record => .happened (.recorded record)

/-! ## Open ends -/

/-- How an observer ends, if the task lets one end. -/
def Task.ending (outcome : Outcome) : Task κ ρ → List (Sight κ ρ)
  | .conclude id => [.ended id outcome]
  | _ => []

/-- How an observer ends by its script, if the task lets one end. -/
def Task.scripted (l : Subscribers κ) : Task κ ρ → Outcome
  | .conclude id => (l.outcome id).getD .success
  | _ => .success

namespace Session

/-- Carry out a task; an observer that ends does so in the given way. -/
def advanceAs (system : System σ κ ρ) (outcome : Outcome) (s : Session σ κ ρ) :
    Task κ ρ → Session σ κ ρ × List (Task κ ρ)
  | .conclude id => (s.concludeAs id outcome, [])
  | task => s.advance system task

/-- All that is seen of a task, in order. -/
def sights (system : System σ κ ρ) (outcome : Outcome) (s : Session σ κ ρ) (task : Task κ ρ) :
    List (Sight κ ρ) :=
  task.ending outcome ++ (s.afresh.advanceAs system outcome task).1.history.reverse.map .happened

/-- A task is carried out with the end that the script has. -/
theorem advance_eq (system : System σ κ ρ) (s : Session σ κ ρ) (task : Task κ ρ) :
    s.advance system task = s.advanceAs system (task.scripted s.subscribers) task := by
  cases task with
  | conclude id =>
      rw [advance, advanceAs, conclude, Task.scripted]
      cases scripted : s.subscribers.outcome id with
      | some outcome => rfl
      | none =>
          -- Nobody ends that is not on the roster.
          rw [concludeAs, Option.map_eq_none_iff.mp scripted]
  | _ => rfl

/-- How an observer ends has no influence on what is left to do. -/
theorem tasks_advanceAs (system : System σ κ ρ) (outcome : Outcome) (s : Session σ κ ρ)
    (task : Task κ ρ) : (s.advanceAs system outcome task).2 = (s.advance system task).2 := by
  cases task <;> rfl

/-- An observer that is known is reported by its name if it fails. -/
theorem concludeAs_of_label {s : Session σ κ ρ} {id : Nat} {name : String}
    (known : s.subscribers.label id = some name) (outcome : Outcome) :
    s.concludeAs id outcome =
      match outcome.failure? with
      | none => s
      | some cause => s.reportFailure ⟨name, cause⟩ := by
  obtain ⟨subscriber, found, rfl⟩ := Option.map_eq_some_iff.mp known
  rw [concludeAs, found]
  rfl

/-- If an observer that is known fails, this is added to the innermost report. -/
theorem reports_concludeAs {s : Session σ κ ρ} {id : Nat} {name : String} {report : List Failure}
    {outer : List (List Failure)} (known : s.subscribers.label id = some name)
    (reports : s.reports = report :: outer) (outcome : Outcome) :
    (s.concludeAs id outcome).reports =
      (report ++ (outcome.failure?.map fun cause => ⟨name, cause⟩).toList) :: outer := by
  rw [concludeAs_of_label known]
  cases outcome.failure? with
  | none =>
      rw [Option.map_none, Option.toList_none, List.append_nil]
      exact reports
  | some cause =>
      show (s.reports.headD [] ++ _) :: s.reports.tail = _
      rw [reports]
      rfl

/-- How an observer ends has no influence on who is subscribed. -/
theorem subscribers_advanceAs (system : System σ κ ρ) (outcome : Outcome) (s : Session σ κ ρ)
    (task : Task κ ρ) :
    (s.advanceAs system outcome task).1.subscribers = (s.advance system task).1.subscribers := by
  cases task with
  | conclude id =>
      rw [advance, s.subscribers_conclude id, advanceAs]
      rcases s.concludeAs_cases id outcome with same | ⟨failure, reported⟩
      · rw [same]
      · rw [reported]
        rfl
  | _ => rfl

/-- The past has no influence on a task, however an observer ends. -/
theorem advanceAs_since (system : System σ κ ρ) (outcome : Outcome)
    (past : List (Happening κ ρ)) (s : Session σ κ ρ) (task : Task κ ρ) :
    (s.since past).advanceAs system outcome task =
      ((s.advanceAs system outcome task).1.since past, (s.advanceAs system outcome task).2) := by
  cases task with
  | conclude id =>
      rw [advanceAs, advanceAs, concludeAs_since]
  | run caller step => exact s.advance_since system past (.run caller step)
  | tell id change => exact s.advance_since system past (.tell id change)
  | reply caller command answer => rfl

/-- What is seen to happen is what is added to the history. -/
theorem history_advanceAs (system : System σ κ ρ) (outcome : Outcome) (s : Session σ κ ρ)
    (task : Task κ ρ) :
    (s.advanceAs system outcome task).1.history =
      ((s.sights system outcome task).filterMap Sight.happening?).reverse ++ s.history := by
  have fresh : s = s.afresh.since s.history := rfl
  have unseen : (task.ending outcome).filterMap Sight.happening? =
      ([] : List (Happening κ ρ)) := by
    cases task <;> rfl
  have seen : Sight.happening? ∘ Sight.happened = (some : Happening κ ρ → _) := rfl
  rw [sights, List.filterMap_append, unseen, List.filterMap_map, seen, List.filterMap_some,
    List.nil_append, List.reverse_reverse]
  conv => lhs; rw [fresh, advanceAs_since]
  rfl

/-! ## What is seen of each task -/

theorem sights_command (system : System σ κ ρ) (outcome : Outcome) (s : Session σ κ ρ)
    (caller : Option Nat) (command : κ) :
    s.sights system outcome (.run caller (.command command)) =
      .happened (.started caller (.command command)) ::
        Sight.records (system s.subscribers.size s.state command).records := by
  have called : s.afresh.advanceAs system outcome (.run caller (.command command)) = _ :=
    s.afresh.advance_command system caller command
  rw [sights, called]
  simp only [afresh, List.reverse_append, List.reverse_reverse, List.map_append, List.map_map]
  rfl

theorem sights_tell (system : System σ κ ρ) (outcome : Outcome) (s : Session σ κ ρ) (id : Nat)
    (change : Change) :
    s.sights system outcome (.tell id change) = [.happened (.told id change)] := by
  obtain ⟨steps, subscribers, told, -⟩ := s.afresh.tell_cases id change
  have now : s.afresh.advanceAs system outcome (.tell id change) = _ := told
  rw [sights, now]
  rfl

/-- The end of an observer is seen, and records after it if there are any. -/
theorem sights_conclude_cases (system : System σ κ ρ) (outcome : Outcome) (s : Session σ κ ρ)
    (id : Nat) :
    ∃ records, s.sights system outcome (.conclude id) =
      .ended id outcome :: Sight.records records := by
  rw [sights, advanceAs]
  rcases s.afresh.concludeAs_cases id outcome with same | ⟨failure, reported⟩
  · exact ⟨[], by rw [same]; rfl⟩
  · exact ⟨[.observerFailed failure], by rw [reported]; rfl⟩

theorem sights_conclude {s : Session σ κ ρ} {id : Nat} {name : String}
    (known : s.subscribers.label id = some name) (system : System σ κ ρ) (outcome : Outcome) :
    s.sights system outcome (.conclude id) =
      .ended id outcome :: Sight.records
        ((outcome.failure?.map fun cause => .observerFailed ⟨name, cause⟩).toList) := by
  have same : s.afresh.subscribers.label id = some name := known
  rw [sights, advanceAs, concludeAs_of_label same]
  cases outcome.failure? <;> rfl

end Session

/-! ## Who is known -/

/-- Everyone in force is known by a name. -/
theorem Subscribers.Ordered.label_isSome {l : Subscribers κ} (ordered : l.Ordered) {id : Nat}
    (member : id ∈ l.active) : ∃ name, l.label id = some name := by
  have entered := List.getElem?_eq_getElem (ordered.known id member)
  exact ⟨_, Option.map_eq_some_iff.mpr ⟨_, entered, rfl⟩⟩

/-- Whoever is entered in one list is entered in the other, as the same observer. -/
def Subscribers.Keeps (l later : Subscribers κ) : Prop :=
  ∀ (id : Nat) (subscriber : Subscriber κ), l.roster[id]? = some subscriber →
    ∃ again, later.roster[id]? = some again ∧ again.observer = subscriber.observer

namespace Subscribers.Keeps

variable {l later : Subscribers κ} {id : Nat}

theorem refl (l : Subscribers κ) : l.Keeps l :=
  fun _ subscriber found => ⟨subscriber, found, rfl⟩

theorem trans {last : Subscribers κ} (first : l.Keeps later) (second : later.Keeps last) :
    l.Keeps last := by
  intro id subscriber found
  obtain ⟨again, here, same⟩ := first id subscriber found
  obtain ⟨once, there, equal⟩ := second id again here
  exact ⟨once, there, equal.trans same⟩

/-- Whatever is read off an observer stays. -/
theorem read {α : Type} {f : Observer κ → α} {value : α} (keeps : l.Keeps later)
    (known : (l.roster[id]?).map (fun s => f s.observer) = some value) :
    (later.roster[id]?).map (fun s => f s.observer) = some value := by
  obtain ⟨subscriber, found, rfl⟩ := Option.map_eq_some_iff.mp known
  obtain ⟨again, here, same⟩ := keeps id subscriber found
  rw [here, Option.map_some, same]

theorem label {name : String} (keeps : l.Keeps later) (known : l.label id = some name) :
    later.label id = some name :=
  keeps.read known

theorem outcome {own : Outcome} (keeps : l.Keeps later) (scripted : l.outcome id = some own) :
    later.outcome id = some own :=
  keeps.read scripted

/-- An observer that was known before ends by the script that it had then. -/
theorem outcome_of_label {name : String} {own : Outcome} (keeps : l.Keeps later)
    (known : l.label id = some name) (scripted : later.outcome id = some own) :
    l.outcome id = some own := by
  obtain ⟨subscriber, found, -⟩ := Option.map_eq_some_iff.mp known
  have before : l.outcome id = some subscriber.observer.outcome := by
    rw [Subscribers.outcome, found]
    rfl
  rw [before, ← keeps.outcome before, scripted]

end Subscribers.Keeps

/-- Nobody is taken off the roster, and everyone stays the same observer. -/
theorem Session.keeps_advance (system : System σ κ ρ) (s : Session σ κ ρ) (task : Task κ ρ) :
    s.subscribers.Keeps (s.advance system task).1.subscribers := by
  rcases s.subscribers_advance system task with h | ⟨observer, h⟩ | ⟨other, h⟩ | ⟨other, h⟩
  · rw [h]
    exact .refl _
  · -- A newcomer is entered behind all others.
    rw [h]
    intro id subscriber found
    refine ⟨subscriber, ?_, rfl⟩
    exact List.getElem?_append_left (List.getElem?_eq_some_iff.mp found).1 ▸ found
  · rw [h]
    exact .refl _
  · -- Starting a script counts it, and nothing else.
    rw [h]
    intro id subscriber found
    show ∃ again, (s.subscribers.roster.modify other Subscriber.started)[id]? = some again ∧ _
    rw [List.getElem?_modify, found]
    by_cases own : other = id
    · exact ⟨subscriber.started, by simp [own], rfl⟩
    · exact ⟨subscriber, by simp [own], rfl⟩

theorem Session.keeps_advanceAs (system : System σ κ ρ) (outcome : Outcome) (s : Session σ κ ρ)
    (task : Task κ ρ) :
    s.subscribers.Keeps (s.advanceAs system outcome task).1.subscribers := by
  rw [Session.subscribers_advanceAs]
  exact s.keeps_advance system task

/-- Whoever is to be told or to end is on the roster. -/
def Task.Known (l : Subscribers κ) : Task κ ρ → Prop
  | .tell id _ => id < l.roster.length
  | .conclude id => id < l.roster.length
  | _ => True

theorem Task.Known.mono {l later : Subscribers κ} {task : Task κ ρ} (known : task.Known l)
    (grown : l.roster.length ≤ later.roster.length) : task.Known later := by
  cases task with
  | tell id change => exact Nat.lt_of_lt_of_le known grown
  | conclude id => exact Nat.lt_of_lt_of_le known grown
  | _ => trivial

theorem Task.known_run {l : Subscribers κ} {rest : List (Task κ ρ)}
    (known : ∀ task ∈ rest, task.Known l) (caller : Option Nat) (step : Step κ) :
    ∀ task ∈ .run caller step :: rest, task.Known l :=
  List.forall_mem_cons.mpr ⟨trivial, known⟩

/-- Only those are put on an agenda who are known. -/
theorem Session.known_advance {s : Session σ κ ρ} {task : Task κ ρ} {rest : List (Task κ ρ)}
    (ordered : s.subscribers.Ordered) (known : ∀ next ∈ task :: rest, next.Known s.subscribers)
    (system : System σ κ ρ) :
    ∀ next ∈ (s.advance system task).2 ++ rest,
      next.Known (s.advance system task).1.subscribers := by
  intro next left
  have grown := s.roster_advance system task
  rcases List.mem_append.mp left with now | later
  · refine Task.Known.mono ?_ grown
    rcases Session.mem_advance now with
      ⟨caller, command, rfl, ⟨id, member, change, -, rfl⟩ | rfl⟩ |
        ⟨id, change, rfl, rfl | ⟨step, rfl⟩⟩
    · exact ordered.known id member
    · trivial
    · exact known (.tell id change) List.mem_cons_self
    · trivial
  · exact (known next (List.mem_cons_of_mem _ later)).mono grown

/-- Whoever is seen to end does so by the script. -/
def Sight.Scripted (l : Subscribers κ) (trace : List (Sight κ ρ)) : Prop :=
  ∀ id outcome, .ended id outcome ∈ trace → l.outcome id = some outcome

theorem Sight.Scripted.mono {l later : Subscribers κ} {trace : List (Sight κ ρ)}
    (scripted : Scripted l trace) (keeps : l.Keeps later) : Scripted later trace :=
  fun id outcome seen => keeps.outcome (scripted id outcome seen)

theorem Sight.Scripted.append {l : Subscribers κ} {first second : List (Sight κ ρ)}
    (before : Scripted l first) (after : Scripted l second) : Scripted l (first ++ second) :=
  fun id outcome seen => (List.mem_append.mp seen).elim (before id outcome) (after id outcome)

/-- Of a task that is carried out, it is seen that an observer ends by its script. -/
theorem Session.scripted_sights {s : Session σ κ ρ} {task : Task κ ρ}
    (known : task.Known s.subscribers) (system : System σ κ ρ) :
    Sight.Scripted s.subscribers
      (s.sights system (task.scripted s.subscribers) task) := by
  intro id outcome seen
  rcases List.mem_append.mp seen with ending | happened
  · cases task with
    | conclude other =>
        obtain ⟨rfl, rfl⟩ := Sight.ended.inj (List.mem_singleton.mp ending)
        have entered := List.getElem?_eq_getElem known
        rw [Task.scripted, Subscribers.outcome, entered]
        rfl
    | _ => exact absurd ending List.not_mem_nil
  · obtain ⟨happening, -, other⟩ := List.mem_map.mp happened
    cases other

/-! ## Unfolding -/

/-- `Unfolds system start agenda trace s tasks`: from the session `start` with an agenda, it can
come to the session `s` with the agenda `tasks`, and `trace` is all that is seen until then. -/
inductive Unfolds (system : System σ κ ρ) (start : Session σ κ ρ) (agenda : List (Task κ ρ)) :
    List (Sight κ ρ) → Session σ κ ρ → List (Task κ ρ) → Prop
  | begin : Unfolds system start agenda [] start agenda
  | decide {trace s tasks caller} (step : Step κ) : Unfolds system start agenda trace s tasks →
      Task.turn tasks = some caller →
      Unfolds system start agenda trace s (.run caller step :: tasks)
  | advance {trace s task rest} (outcome : Outcome) :
      Unfolds system start agenda trace s (task :: rest) →
      Unfolds system start agenda (trace ++ s.sights system outcome task)
        (s.advanceAs system outcome task).1 ((s.advanceAs system outcome task).2 ++ rest)

variable {system : System σ κ ρ} {start s : Session σ κ ρ} {agenda tasks : List (Task κ ρ)}
  {trace : List (Sight κ ρ)}

theorem Unfolds.ordered (ordered : start.subscribers.Ordered)
    (unfolds : Unfolds system start agenda trace s tasks) : s.subscribers.Ordered := by
  induction unfolds with
  | begin => exact ordered
  | decide _ _ _ ih => exact ih
  | @advance _ s task _ outcome _ ih =>
      rw [Session.subscribers_advanceAs]
      exact Session.ordered_advance ih task

theorem Unfolds.keeps (unfolds : Unfolds system start agenda trace s tasks) :
    start.subscribers.Keeps s.subscribers := by
  induction unfolds with
  | begin => exact .refl _
  | decide _ _ _ ih => exact ih
  | @advance _ s task _ outcome _ ih => exact ih.trans (s.keeps_advanceAs system outcome task)

/-- Whoever is still to be told or to end is known. -/
theorem Unfolds.known (ordered : start.subscribers.Ordered)
    (known : ∀ task ∈ agenda, task.Known start.subscribers)
    (unfolds : Unfolds system start agenda trace s tasks) :
    ∀ task ∈ tasks, task.Known s.subscribers := by
  induction unfolds with
  | begin => exact known
  | decide step _ _ ih => exact Task.known_run ih _ step
  | @advance _ s task _ outcome unfolds ih =>
      rw [Session.subscribers_advanceAs, Session.tasks_advanceAs]
      exact Session.known_advance (unfolds.ordered ordered) ih system

/-- What is seen to happen is what the history grows by. -/
theorem Unfolds.history_eq (unfolds : Unfolds system start agenda trace s tasks) :
    s.history = (trace.filterMap Sight.happening?).reverse ++ start.history := by
  induction unfolds with
  | begin => rfl
  | decide _ _ _ ih => exact ih
  | advance outcome _ ih =>
      rw [Session.history_advanceAs, ih, List.filterMap_append, List.reverse_append,
        List.append_assoc]

/-! ## Scripts -/

/-- Carrying out a task as the script has it is one way to go on. -/
theorem Unfolds.advance_scripted {task : Task κ ρ} {rest : List (Task κ ρ)}
    (unfolds : Unfolds system start agenda trace s (task :: rest)) :
    Unfolds system start agenda (trace ++ s.sights system (task.scripted s.subscribers) task)
      (s.advance system task).1 ((s.advance system task).2 ++ rest) := by
  rw [s.advance_eq]
  exact unfolds.advance _

/-- A course unfolds, and everyone is seen to end by the script. -/
theorem Course.unfolds {calls : List (Call κ ρ)} (ordered : start.subscribers.Ordered)
    (course : Course system start calls s tasks) :
    ∃ trace, Unfolds system start [] trace s tasks ∧ Sight.Scripted s.subscribers trace := by
  induction course with
  | begin => exact ⟨[], .begin, nofun⟩
  | decide step _ turn ih =>
      obtain ⟨trace, unfolds, scripted⟩ := ih
      exact ⟨trace, unfolds.decide step turn, scripted⟩
  | @advance _ s task _ _ ih =>
      obtain ⟨trace, unfolds, scripted⟩ := ih
      have known := unfolds.known ordered (fun _ absent => absurd absent List.not_mem_nil) task
        List.mem_cons_self
      refine ⟨_, unfolds.advance_scripted, ?_⟩
      exact (scripted.append (Session.scripted_sights known system)).mono
        (s.keeps_advance system task)

namespace Session

/-- All that is seen when an agenda is carried out as the scripts have it, in order. -/
def shown (system : System σ κ ρ) (s : Session σ κ ρ) : List (Task κ ρ) → List (Sight κ ρ)
  | [] => []
  | task :: rest =>
    s.sights system (task.scripted s.subscribers) task ++
      shown system (s.advance system task).1 ((s.advance system task).2 ++ rest)
termination_by tasks => (s.weight tasks, Task.ranks tasks)
decreasing_by exact s.advance_decreases system task rest

end Session

/-- If nobody decides on more than the scripts have, the first part of an agenda is carried out. -/
theorem Unfolds.run {first rest : List (Task κ ρ)}
    (unfolds : Unfolds system start agenda trace s (first ++ rest)) :
    Unfolds system start agenda (trace ++ s.shown system first) (s.run system first) rest := by
  fun_induction Session.shown system s first generalizing trace with
  | case1 s =>
      rw [List.append_nil, Session.run_nil]
      exact unfolds
  | case2 s task tail ih =>
      rw [List.cons_append] at unfolds
      have onward := unfolds.advance_scripted
      rw [← List.append_assoc] at onward
      rw [Session.run_cons, ← List.append_assoc]
      exact ih onward

namespace Session

theorem unfolds_run (system : System σ κ ρ) (s : Session σ κ ρ) (tasks : List (Task κ ρ)) :
    Unfolds system s (tasks ++ []) (s.shown system tasks) (s.run system tasks) [] :=
  Unfolds.begin.run

theorem keeps_run (system : System σ κ ρ) (s : Session σ κ ρ) (tasks : List (Task κ ρ)) :
    s.subscribers.Keeps (s.run system tasks).subscribers :=
  (s.unfolds_run system tasks).keeps

/-- What is shown of a run is what its history grows by. -/
theorem history_run (system : System σ κ ρ) (s : Session σ κ ρ) (tasks : List (Task κ ρ)) :
    (s.run system tasks).history =
      ((s.shown system tasks).filterMap Sight.happening?).reverse ++ s.history :=
  (s.unfolds_run system tasks).history_eq

/-- In a run, everyone is seen to end by the script. -/
theorem scripted_shown {s : Session σ κ ρ} {tasks : List (Task κ ρ)}
    (ordered : s.subscribers.Ordered) (known : ∀ task ∈ tasks, task.Known s.subscribers)
    (system : System σ κ ρ) :
    Sight.Scripted (s.run system tasks).subscribers (s.shown system tasks) := by
  fun_induction shown system s tasks with
  | case1 s => exact nofun
  | case2 s task rest ih =>
      rw [run_cons]
      have now := scripted_sights (known task List.mem_cons_self) system
      have later := ih (ordered_advance ordered task) (known_advance ordered known system)
      exact ((now.mono (s.keeps_advance system task)).mono (keeps_run system _ _)).append later

end Session

/-! ## Moves -/

/-- A view of a session that unfolds: all that was seen so far, the session, and its agenda. -/
structure View (σ κ ρ : Type) where
  trace : List (Sight κ ρ)
  session : Session σ κ ρ
  agenda : List (Task κ ρ)

/-- What may come next: whoever has the word decides on a step, or a task is carried out. -/
inductive Move (κ : Type) where
  | decide (step : Step κ)
  | advance (outcome : Outcome)

/-- What comes of a move, if it is possible. -/
def View.move (system : System σ κ ρ) (view : View σ κ ρ) : Move κ → Option (View σ κ ρ)
  | .decide step => (Task.turn view.agenda).map fun caller =>
      { view with agenda := .run caller step :: view.agenda }
  | .advance outcome =>
    match view.agenda with
    | [] => none
    | task :: rest => some
        { trace := view.trace ++ view.session.sights system outcome task
          session := (view.session.advanceAs system outcome task).1
          agenda := (view.session.advanceAs system outcome task).2 ++ rest }

/-- What comes of some moves, one after the other. -/
def View.follow (system : System σ κ ρ) (view : View σ κ ρ) (moves : List (Move κ)) :
    Option (View σ κ ρ) :=
  moves.foldlM (move system) view

theorem Unfolds.move {view next : View σ κ ρ} {move : Move κ}
    (unfolds : Unfolds system start agenda view.trace view.session view.agenda)
    (moved : view.move system move = some next) :
    Unfolds system start agenda next.trace next.session next.agenda := by
  cases move with
  | decide step =>
      obtain ⟨caller, turn, rfl⟩ := Option.map_eq_some_iff.mp moved
      exact unfolds.decide step turn
  | advance outcome =>
      rw [View.move] at moved
      split at moved
      · cases moved
      · rename_i task rest front
        cases moved
        rw [front] at unfolds
        exact unfolds.advance outcome

/-- Moves lead on from one view of a session that unfolds to another. -/
theorem Unfolds.follow {view next : View σ κ ρ} {moves : List (Move κ)}
    (unfolds : Unfolds system start agenda view.trace view.session view.agenda)
    (followed : view.follow system moves = some next) :
    Unfolds system start agenda next.trace next.session next.agenda := by
  induction moves generalizing view with
  | nil =>
      cases followed
      exact unfolds
  | cons move moves ih =>
      obtain ⟨between, moved, followed⟩ := Option.bind_eq_some_iff.mp followed
      exact ih (unfolds.move moved) followed

/-! ## The roll -/

/-- The id that was given to an observer, if this is what was seen. -/
def Sight.issued? : Sight κ ρ → Option Nat
  | .happened (.returned _ (.subscribe _) (.subscribed id)) => some id
  | _ => none

/-- The id that was taken off the list, if this is what was seen. -/
def Sight.struck? : Sight κ ρ → Option Nat
  | .happened (.returned _ (.unsubscribe id) (.unsubscribed true)) => some id
  | _ => none

/-- The id that someone asked to be taken off the list, whatever the answer was, if this is what was
seen. -/
def Sight.asked? : Sight κ ρ → Option Nat
  | .happened (.returned _ (.unsubscribe id) (.unsubscribed _)) => some id
  | _ => none

/-- The ids that were given out, in order. -/
def Sight.issued (trace : List (Sight κ ρ)) : List Nat :=
  trace.filterMap issued?

/-- The ids that were taken off the list, in order. -/
def Sight.struck (trace : List (Sight κ ρ)) : List Nat :=
  trace.filterMap struck?

theorem Sight.issued_append (first second : List (Sight κ ρ)) :
    issued (first ++ second) = issued first ++ issued second :=
  List.filterMap_append

theorem Sight.struck_append (first second : List (Sight κ ρ)) :
    struck (first ++ second) = struck first ++ struck second :=
  List.filterMap_append

/-- Between two moments, with all that was seen in between, who is subscribed changes just as it
was seen. -/
structure Subscribers.Roll (before : Subscribers κ) (trace : List (Sight κ ρ))
    (after : Subscribers κ) : Prop where
  /-- Those in force, and then newcomers, but for those who were taken off the list. -/
  active : after.active =
    (before.active ++ Sight.issued trace).filter (· ∉ Sight.struck trace)
  /-- Newcomers get ids of their own, and come behind. -/
  ascending : (before.active ++ Sight.issued trace).Pairwise (· < ·)
  known : ∀ id ∈ before.active ++ Sight.issued trace, id < after.roster.length
  struck_known : ∀ id ∈ Sight.struck trace, id < after.roster.length

namespace Subscribers.Roll

variable {before after : Subscribers κ}

theorem begin (ordered : before.Ordered) : before.Roll ([] : List (Sight κ ρ)) before := by
  have none : before.active ++ Sight.issued ([] : List (Sight κ ρ)) = before.active :=
    List.append_nil _
  constructor
  · rw [none]
    exact (List.filter_eq_self.mpr fun id _ => decide_eq_true List.not_mem_nil).symm
  · rw [none]
    exact ordered.ascending
  · rw [none]
    exact ordered.known
  · exact fun id absent => absurd absent List.not_mem_nil

/-- Nothing is to be noted while nobody subscribes and nobody is taken off the list. -/
theorem unchanged {later : Subscribers κ} {more : List (Sight κ ρ)}
    (roll : before.Roll trace after) (issued : Sight.issued more = [])
    (struck : Sight.struck more = []) (active : later.active = after.active)
    (roster : later.roster.length = after.roster.length) :
    before.Roll (trace ++ more) later := by
  constructor
  · rw [Sight.issued_append, Sight.struck_append, issued, struck, List.append_nil,
      List.append_nil, active]
    exact roll.active
  · rw [Sight.issued_append, issued, List.append_nil]
    exact roll.ascending
  · rw [Sight.issued_append, issued, List.append_nil, roster]
    exact roll.known
  · rw [Sight.struck_append, struck, List.append_nil, roster]
    exact roll.struck_known

theorem subscribe {more : List (Sight κ ρ)} {o : Observer κ} (roll : before.Roll trace after)
    (issued : Sight.issued more = [(after.subscribe o).2]) (struck : Sight.struck more = []) :
    before.Roll (trace ++ more) (after.subscribe o).1 := by
  have longer : (after.subscribe o).1.roster.length = after.roster.length + 1 :=
    List.length_append
  have grown : before.active ++ Sight.issued (trace ++ more) =
      before.active ++ Sight.issued trace ++ [after.roster.length] := by
    rw [Sight.issued_append, issued, List.append_assoc]
    rfl
  constructor
  · -- Nobody has taken the new id off the list before it was given out.
    have kept : after.roster.length ∉ Sight.struck trace :=
      fun gone => Nat.lt_irrefl _ (roll.struck_known _ gone)
    have last : [after.roster.length].filter (· ∉ Sight.struck trace) =
        [after.roster.length] :=
      List.filter_eq_self.mpr fun id new => List.mem_singleton.mp new ▸ decide_eq_true kept
    rw [grown, Sight.struck_append, struck, List.append_nil, List.filter_append, ← roll.active,
      last]
    rfl
  · rw [grown]
    refine List.pairwise_append.mpr ⟨roll.ascending, List.pairwise_singleton _ _, ?_⟩
    intro id old new last
    rw [List.mem_singleton.mp last]
    exact roll.known id old
  · rw [grown, longer]
    intro id member
    rcases List.mem_append.mp member with old | last
    · exact Nat.lt_succ_of_lt (roll.known id old)
    · rw [List.mem_singleton.mp last]
      exact Nat.lt_succ_self _
  · rw [Sight.struck_append, struck, List.append_nil, longer]
    exact fun id gone => Nat.lt_succ_of_lt (roll.struck_known id gone)

theorem unsubscribe {more : List (Sight κ ρ)} {id : Nat} (roll : before.Roll trace after)
    (issued : Sight.issued more = [])
    (struck : Sight.struck more = if (after.unsubscribe id).2 then [id] else []) :
    before.Roll (trace ++ more) (after.unsubscribe id).1 := by
  by_cases found : id ∈ after.active
  · have now : Sight.struck more = [id] := by
      rw [struck]
      exact if_pos (List.contains_iff_mem.mpr found)
    have enlisted : id ∈ before.active ++ Sight.issued trace := by
      rw [roll.active] at found
      exact (List.mem_filter.mp found).1
    constructor
    · show after.active.filter _ = _
      rw [Sight.issued_append, Sight.struck_append, issued, now, List.append_nil, roll.active,
        List.filter_filter]
      apply List.filter_congr
      intro other _
      by_cases own : other = id <;> simp [own]
    · rw [Sight.issued_append, issued, List.append_nil]
      exact roll.ascending
    · rw [Sight.issued_append, issued, List.append_nil]
      exact roll.known
    · rw [Sight.struck_append, now]
      intro other gone
      rcases List.mem_append.mp gone with earlier | last
      · exact roll.struck_known other earlier
      · rw [List.mem_singleton.mp last]
        exact roll.known id enlisted
  · -- Who is not on the list cannot be taken off it.
    rw [unsubscribe_of_absent found] at struck ⊢
    exact roll.unchanged issued struck rfl rfl

end Subscribers.Roll

/-- Nobody is seen to subscribe, or to ask for someone to be taken off the list. -/
def Sight.Quiet (sight : Sight κ ρ) : Prop :=
  sight.issued? = none ∧ sight.asked? = none

theorem Sight.quiet_records (records : List LogRecord) :
    ∀ sight ∈ (Sight.records records : List (Sight κ ρ)), sight.Quiet := by
  intro sight written
  obtain ⟨record, -, rfl⟩ := List.mem_map.mp written
  exact ⟨rfl, rfl⟩

/-- Nobody is taken off the list unless someone asks for it. -/
theorem Sight.struck?_of_unasked {sight : Sight κ ρ} (unasked : sight.asked? = none) :
    sight.struck? = none := by
  unfold struck?
  split
  · cases unasked
  · rfl

theorem Sight.issued_of_quiet {more : List (Sight κ ρ)} (quiet : ∀ sight ∈ more, sight.Quiet) :
    issued more = [] :=
  List.filterMap_eq_nil_iff.mpr fun sight seen => (quiet sight seen).1

theorem Sight.struck_of_quiet {more : List (Sight κ ρ)} (quiet : ∀ sight ∈ more, sight.Quiet) :
    struck more = [] :=
  List.filterMap_eq_nil_iff.mpr fun sight seen => struck?_of_unasked (quiet sight seen).2

/-- A request takes an observer off the list if the answer says so. -/
theorem Sight.struck_request (caller : Option Nat) (id : Nat) (found : Bool) :
    struck ([.happened (.started caller (.unsubscribe id)),
      .happened (.returned caller (.unsubscribe id) (.unsubscribed found))] : List (Sight κ ρ)) =
        if found then [id] else [] := by
  cases found <;> rfl

/-- Who is subscribed changes only when someone subscribes or asks for someone to be taken off the
list. -/
theorem Session.enrolment_cases (system : System σ κ ρ) (outcome : Outcome) (s : Session σ κ ρ)
    (task : Task κ ρ) :
    (∃ caller observer, task = .run caller (.subscribe observer)) ∨
    (∃ caller id, task = .run caller (.unsubscribe id)) ∨
    ((∀ sight ∈ s.sights system outcome task, sight.Quiet) ∧
      (s.advanceAs system outcome task).1.subscribers.active = s.subscribers.active ∧
      (s.advanceAs system outcome task).1.subscribers.roster.length =
        s.subscribers.roster.length) := by
  cases task with
  | run caller step =>
      cases step with
      | command command =>
          refine .inr (.inr ⟨?_, rfl, rfl⟩)
          rw [sights_command]
          exact List.forall_mem_cons.mpr ⟨⟨rfl, rfl⟩, Sight.quiet_records _⟩
      | subscribe observer => exact .inl ⟨caller, observer, rfl⟩
      | unsubscribe id => exact .inr (.inl ⟨caller, id, rfl⟩)
  | tell id change =>
      have quiet : ∀ sight ∈ s.sights system outcome (.tell id change), sight.Quiet := by
        rw [sights_tell]
        exact List.forall_mem_singleton.mpr ⟨rfl, rfl⟩
      refine .inr (.inr ⟨quiet, ?_⟩)
      obtain ⟨steps, subscribers, told, same | started⟩ := s.tell_cases id change
      · rw [subscribers_advanceAs, advance, told, same]
        exact ⟨rfl, rfl⟩
      · rw [subscribers_advanceAs, advance, told, started]
        exact ⟨rfl, List.length_modify ..⟩
  | conclude id =>
      obtain ⟨records, seen⟩ := s.sights_conclude_cases system outcome id
      refine .inr (.inr ⟨?_, ?_⟩)
      · rw [seen]
        exact List.forall_mem_cons.mpr ⟨⟨rfl, rfl⟩, Sight.quiet_records records⟩
      · rw [subscribers_advanceAs, advance, s.subscribers_conclude]
        exact ⟨rfl, rfl⟩
  | reply caller command answer =>
      exact .inr (.inr ⟨List.forall_mem_singleton.mpr ⟨rfl, rfl⟩, rfl, rfl⟩)

/-- A task changes who is subscribed just as it is seen. -/
theorem Session.roll_advanceAs {before : Subscribers κ} {s : Session σ κ ρ}
    (roll : before.Roll trace s.subscribers) (system : System σ κ ρ) (outcome : Outcome)
    (task : Task κ ρ) :
    before.Roll (trace ++ s.sights system outcome task)
      (s.advanceAs system outcome task).1.subscribers := by
  rcases s.enrolment_cases system outcome task with
    ⟨caller, observer, rfl⟩ | ⟨caller, id, rfl⟩ | ⟨quiet, active, roster⟩
  · exact roll.subscribe rfl rfl
  · exact roll.unsubscribe rfl (Sight.struck_request caller id _)
  · exact roll.unchanged (Sight.issued_of_quiet quiet) (Sight.struck_of_quiet quiet) active roster

/-- Who is subscribed can be told from who was and from what was seen since. -/
theorem Unfolds.roll (ordered : start.subscribers.Ordered)
    (unfolds : Unfolds system start agenda trace s tasks) :
    start.subscribers.Roll trace s.subscribers := by
  induction unfolds with
  | begin => exact .begin ordered
  | decide _ _ _ ih => exact ih
  | advance outcome _ ih => exact Session.roll_advanceAs ih system outcome _

end Switchboard
