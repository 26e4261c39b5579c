import Switchboard.Session

/-!
# Courses of a session

What can come of a session when nobody's decisions are known beforehand. The session works on
its agenda. Whenever the host or an observer has the word (`Task.turn`), it may decide on a
further step, whatever it has seen so far; a script is only one way to decide. A `Course` is one
way in which all this can go, with the calls made on it in the order in which they took effect:

* **runs are courses** — carrying out an agenda, and so every program of a host, is a course, and
  so is what there is of it at any moment (`Course.play`, `Course.moment`), up to the last, which
  comes (`Session.exists_moment_eq_play`);
* **states change by calls only** — what every call keeps, every course keeps (`Course.keeps`);
* **calls and answers** — a call is still open or has returned just what it answered
  (`Course.outcomes_perm`).
-/

namespace Switchboard

variable {σ κ ρ : Type}

/-- A command that was carried out, with the caller, the answer and the change it made. -/
structure Call (κ ρ : Type) where
  caller : Option Nat
  command : κ
  answer : List Failure → ρ
  change : Option Change

/-- A call of a command in a state. -/
def Call.of (system : System σ κ ρ) (observers : Nat) (state : σ) (caller : Option Nat)
    (command : κ) : Call κ ρ where
  caller := caller
  command := command
  answer := (system observers state command).answer
  change := (system observers state command).change

/-- Who may decide on a step that comes before an agenda: the host when nothing is under way,
and otherwise the one whose step or whose end is next. No one may while the next observer is
about to be told or a command is about to answer. -/
def Task.turn : List (Task κ ρ) → Option (Option Nat)
  | [] => some none
  | .run caller _ :: _ => some caller
  | .conclude id :: _ => some (some id)
  | .tell .. :: _ => none
  | .reply .. :: _ => none

/-- The calls that carrying out a task makes. -/
def Session.calls (system : System σ κ ρ) (s : Session σ κ ρ) : Task κ ρ → List (Call κ ρ)
  | .run caller (.command command) => [.of system s.subscribers.size s.state caller command]
  | _ => []

/-- `Course system start calls s tasks`: from the session `start` with nothing to do, it can come
to the session `s` with the agenda `tasks`, and `calls` are the calls until then, latest first. -/
inductive Course (system : System σ κ ρ) (start : Session σ κ ρ) :
    List (Call κ ρ) → Session σ κ ρ → List (Task κ ρ) → Prop
  | begin : Course system start [] start []
  | decide {calls s tasks caller} (step : Step κ) : Course system start calls s tasks →
      Task.turn tasks = some caller → Course system start calls s (.run caller step :: tasks)
  | advance {calls s task rest} : Course system start calls s (task :: rest) →
      Course system start (s.calls system task ++ calls) (s.advance system task).1
        ((s.advance system task).2 ++ rest)

variable {system : System σ κ ρ} {start s : Session σ κ ρ} {calls : List (Call κ ρ)}
  {tasks : List (Task κ ρ)}

/-! ## Runs are courses -/

/-- Carrying out the first part of an agenda is a course. -/
theorem Course.run {first rest : List (Task κ ρ)}
    (course : Course system start calls s (first ++ rest)) :
    ∃ more, Course system start (more ++ calls) (s.run system first) rest := by
  fun_induction Session.run system s first generalizing calls with
  | case1 s => exact ⟨[], course⟩
  | case2 s task tail next more step ih =>
      -- The first task is carried out, and what it leaves to do comes before the tail.
      rw [List.cons_append] at course
      have onward := course.advance
      rw [step, ← List.append_assoc] at onward
      obtain ⟨later, course⟩ := ih onward
      exact ⟨later ++ s.calls system task, by rwa [List.append_assoc]⟩

/-- A host may decide on all of its steps at the start. -/
theorem Course.plan (steps : List (Step κ)) :
    Course system start [] start (Task.runAll none steps) := by
  induction steps with
  | nil => exact .begin
  | cons step rest ih =>
      -- The last step is decided on first: a new one goes in front of the agenda.
      apply Course.decide step ih
      cases rest <;> rfl

/-- Running the steps of a host is a course. -/
theorem Course.play (system : System σ κ ρ) (start : Session σ κ ρ) (steps : List (Step κ)) :
    ∃ calls, Course system start calls (start.play system steps) [] := by
  have planned : Course system start [] start (Task.runAll none steps ++ []) := by
    rw [List.append_nil]
    exact .plan steps
  obtain ⟨calls, course⟩ := planned.run
  exact ⟨calls, by rwa [List.append_nil] at course⟩

/-- From where a course has nothing more to do, another one can go on. -/
theorem Course.trans {earlier : List (Call κ ρ)} {halfway : Session σ κ ρ}
    (first : Course system start earlier halfway [])
    (second : Course system halfway calls s tasks) :
    Course system start (calls ++ earlier) s tasks := by
  induction second with
  | begin => exact first
  | decide step _ turn ih => exact ih.decide step turn
  | advance _ ih =>
      rw [List.append_assoc]
      exact ih.advance

/-- A moment of a session: the calls so far, latest first, the session, and its agenda. -/
structure Moment (σ κ ρ : Type) where
  calls : List (Call κ ρ)
  session : Session σ κ ρ
  agenda : List (Task κ ρ)

/-- The moment when one more task has been carried out. -/
def Moment.next (system : System σ κ ρ) (now : Moment σ κ ρ) : Moment σ κ ρ :=
  match now.agenda with
  | [] => now
  | task :: rest =>
    ⟨now.session.calls system task ++ now.calls, (now.session.advance system task).1,
      (now.session.advance system task).2 ++ rest⟩

/-- The moments of the run of a host's steps. -/
def Session.moment (system : System σ κ ρ) (start : Session σ κ ρ) (steps : List (Step κ)) :
    Nat → Moment σ κ ρ
  | 0 => ⟨[], start, Task.runAll none steps⟩
  | count + 1 => (start.moment system steps count).next system

/-- Every moment of a run is on a course. -/
theorem Course.moment (system : System σ κ ρ) (start : Session σ κ ρ) (steps : List (Step κ))
    (count : Nat) :
    Course system start (start.moment system steps count).calls
      (start.moment system steps count).session (start.moment system steps count).agenda := by
  induction count with
  | zero => exact .plan steps
  | succ count ih =>
      rw [Session.moment, Moment.next]
      split
      · exact ih
      · rename_i task rest agenda
        rw [agenda] at ih
        exact ih.advance

namespace Session

/-- At every moment, carrying out what is left leads to the end of the run. -/
theorem run_moment (system : System σ κ ρ) (start : Session σ κ ρ) (steps : List (Step κ))
    (count : Nat) :
    (start.moment system steps count).session.run system (start.moment system steps count).agenda =
      start.play system steps := by
  induction count with
  | zero => rfl
  | succ count ih =>
      rw [← ih, moment, Moment.next]
      split
      · rfl
      · rename_i task rest agenda
        rw [agenda, run_cons]

/-- Every run comes to its end. -/
theorem exists_moment_eq_play (system : System σ κ ρ) (start : Session σ κ ρ)
    (steps : List (Step κ)) :
    ∃ count calls, start.moment system steps count = ⟨calls, start.play system steps, []⟩ := by
  suffices onward : ∀ s agenda count calls,
      start.moment system steps count = ⟨calls, s, agenda⟩ →
      ∃ last more, start.moment system steps last = ⟨more, s.run system agenda, []⟩ from
    onward start (Task.runAll none steps) 0 [] rfl
  intro s agenda
  fun_induction run system s agenda with
  | case1 s =>
      intro count calls here
      exact ⟨count, calls, here⟩
  | case2 s task rest next more step ih =>
      intro count calls here
      apply ih (count + 1) (s.calls system task ++ calls)
      rw [moment, here, Moment.next]
      simp only [step]

/-- The moment when nothing is left to do is the end of the run. -/
theorem eq_play_of_idle {count : Nat} (idle : (start.moment system steps count).agenda = []) :
    (start.moment system steps count).session = start.play system steps := by
  rw [← start.run_moment system steps count, idle, run_nil]

end Session

/-! ## What a task does -/

/-- A call takes effect at once. What is left to do is to tell everyone who is subscribed now,
and then to answer. -/
theorem Session.advance_command (system : System σ κ ρ) (s : Session σ κ ρ)
    (caller : Option Nat) (command : κ) :
    s.advance system (.run caller (.command command)) =
      ({ s with
          state := (system s.subscribers.size s.state command).state
          reports := [] :: s.reports
          history := ((system s.subscribers.size s.state command).records.map
            .recorded).reverse ++ .started caller (.command command) :: s.history },
        Task.tellAll s.subscribers.active (system s.subscribers.size s.state command).change ++
          [.reply caller command (system s.subscribers.size s.state command).answer]) := rfl

theorem Task.mem_tellAll {observers : List Nat} {change : Option Change} {task : Task κ ρ} :
    task ∈ tellAll observers change ↔
      ∃ id ∈ observers, ∃ announced, change = some announced ∧ task = .tell id announced := by
  cases change with
  | none => simp [tellAll]
  | some announced => simp [tellAll, eq_comm]

/-- Telling an observer leaves the state alone. What is left to do are steps of this observer,
and then its end. -/
theorem Session.tell_cases (s : Session σ κ ρ) (id : Nat) (change : Change) :
    ∃ steps subscribers,
      s.tell id change =
        ({ s with subscribers := subscribers, history := .told id change :: s.history },
          Task.runAll (some id) steps ++ [.conclude id]) ∧
      (subscribers = s.subscribers ∨ subscribers = s.subscribers.start id) := by
  unfold tell
  dsimp only
  split
  · exact ⟨[], _, rfl, .inl rfl⟩
  · rename_i subscriber found
    split
    · exact ⟨subscriber.observer.steps, _, rfl, .inr rfl⟩
    · exact ⟨[], _, rfl, .inl rfl⟩

/-- Only a call changes the state. -/
theorem Session.state_advance (system : System σ κ ρ) (s : Session σ κ ρ) (task : Task κ ρ) :
    (∃ caller command, task = .run caller (.command command) ∧
      (s.advance system task).1.state = (system s.subscribers.size s.state command).state) ∨
    (s.calls system task = [] ∧ (s.advance system task).1.state = s.state) := by
  cases task with
  | run caller step =>
      cases step with
      | command command =>
          left
          exact ⟨caller, command, rfl, rfl⟩
      | subscribe observer => exact .inr ⟨rfl, rfl⟩
      | unsubscribe id => exact .inr ⟨rfl, rfl⟩
  | tell id change =>
      right
      obtain ⟨steps, subscribers, told, -⟩ := s.tell_cases id change
      refine ⟨rfl, ?_⟩
      rw [advance, told]
  | conclude id =>
      right
      refine ⟨rfl, ?_⟩
      rw [advance]
      rcases s.conclude_cases id with same | ⟨failure, reported⟩
      · rw [same]
      · rw [reported]
        rfl
  | reply caller command answer => exact .inr ⟨rfl, rfl⟩

theorem Session.mem_calls {system : System σ κ ρ} {s : Session σ κ ρ} {task : Task κ ρ}
    {call : Call κ ρ} (made : call ∈ s.calls system task) :
    ∃ caller command, task = .run caller (.command command) ∧
      call = .of system s.subscribers.size s.state caller command := by
  cases task with
  | run caller step =>
      cases step with
      | command command => exact ⟨caller, command, rfl, List.mem_singleton.mp made⟩
      | subscribe observer => exact absurd made List.not_mem_nil
      | unsubscribe id => exact absurd made List.not_mem_nil
  | tell id change => exact absurd made List.not_mem_nil
  | conclude id => exact absurd made List.not_mem_nil
  | reply caller command answer => exact absurd made List.not_mem_nil

/-- What a task leaves to do: telling everyone in force and answering, if it is a call, and the
steps and the end of an observer, if that one is told. -/
theorem Session.mem_advance {system : System σ κ ρ} {s : Session σ κ ρ} {task next : Task κ ρ}
    (left : next ∈ (s.advance system task).2) :
    (∃ caller command, task = .run caller (.command command) ∧
      ((∃ id ∈ s.subscribers.active, ∃ change,
          (system s.subscribers.size s.state command).change = some change ∧
            next = .tell id change) ∨
        next = .reply caller command (system s.subscribers.size s.state command).answer)) ∨
    (∃ id change, task = .tell id change ∧
      (next = .conclude id ∨ ∃ step, next = .run (some id) step)) := by
  cases task with
  | run caller step =>
      cases step with
      | command command =>
          refine .inl ⟨caller, command, rfl, ?_⟩
          -- Those who are to be told come first, and the answer comes last.
          rw [advance_command] at left
          rcases List.mem_append.mp left with told | replied
          · exact .inl (Task.mem_tellAll.mp told)
          · exact .inr (List.mem_singleton.mp replied)
      | subscribe observer => exact absurd left List.not_mem_nil
      | unsubscribe id => exact absurd left List.not_mem_nil
  | tell id change =>
      obtain ⟨steps, subscribers, told, -⟩ := s.tell_cases id change
      rw [advance, told] at left
      refine .inr ⟨id, change, rfl, ?_⟩
      -- The script comes first, and the observer's end comes last.
      rcases List.mem_append.mp left with scripted | last
      · obtain ⟨step, -, rfl⟩ := List.mem_map.mp scripted
        exact .inr ⟨step, rfl⟩
      · exact .inl (List.mem_singleton.mp last)
  | conclude id => exact absurd left List.not_mem_nil
  | reply caller command answer => exact absurd left List.not_mem_nil

/-! ## What calls keep -/

/-- What holds of the state at the start, and is kept by each call, holds on every course. It may
speak of the calls made so far. -/
theorem Course.keeps {P : List (Call κ ρ) → σ → Prop} (first : P [] start.state)
    (step : ∀ calls observers state caller command, P calls state →
      P (.of system observers state caller command :: calls)
        (system observers state command).state)
    (course : Course system start calls s tasks) : P calls s.state := by
  induction course with
  | begin => exact first
  | decide _ _ _ ih => exact ih
  | @advance calls s task rest _ ih =>
      -- Only a call moves the state, and it is recorded as it moves it.
      rcases s.state_advance system task with ⟨caller, command, rfl, state⟩ | ⟨quiet, state⟩
      · rw [state]
        exact step calls _ _ caller command ih
      · rw [quiet, state]
        exact ih

/-- Each call was made on a course, after the calls that come before it. -/
theorem Course.call_made (course : Course system start calls s tasks) {call : Call κ ρ}
    (made : call ∈ calls) :
    ∃ later earlier moment agenda observers, calls = later ++ call :: earlier ∧
      Course system start earlier moment agenda ∧
      call = .of system observers moment.state call.caller call.command := by
  induction course with
  | begin => exact absurd made List.not_mem_nil
  | decide _ _ _ ih => exact ih made
  | @advance calls s task rest course ih =>
      rcases List.mem_append.mp made with now | before
      · obtain ⟨caller, command, rfl, rfl⟩ := Session.mem_calls now
        exact ⟨[], calls, s, _, _, rfl, course, rfl⟩
      · obtain ⟨later, earlier, moment, agenda, observers, rfl, course, same⟩ := ih before
        refine ⟨s.calls system task ++ later, earlier, moment, agenda, observers, ?_, course, same⟩
        exact (List.append_assoc ..).symm

/-! ## Calls and answers -/

/-- The caller, the command and the answer of a call, told of no failures. -/
def Call.outcome (call : Call κ ρ) : Option Nat × κ × ρ :=
  (call.caller, call.command, call.answer [])

/-- The outcome of the call that a task is to answer. -/
def Task.outcome? : Task κ ρ → Option (Option Nat × κ × ρ)
  | .reply caller command answer => some (caller, command, answer [])
  | _ => none

/-- The outcome of a call that has returned. -/
def Happening.outcome? : Happening κ ρ → Option (Option Nat × κ × ρ)
  | .returned caller (.command command) (.answered answer) => some (caller, command, answer)
  | _ => none

/-- A system whose answers do not depend on how observers fail. -/
def System.Uniform (system : System σ κ ρ) : Prop :=
  ∀ observers state command failures,
    (system observers state command).answer failures = (system observers state command).answer []

theorem filterMap_outcome_recorded (records : List LogRecord) :
    (records.map (.recorded : LogRecord → Happening κ ρ)).reverse.filterMap
      Happening.outcome? = [] := by
  apply List.filterMap_eq_nil_iff.mpr
  intro happening written
  obtain ⟨record, -, rfl⟩ := List.mem_map.mp (List.mem_reverse.mp written)
  rfl

theorem filterMap_outcome_tellAll (observers : List Nat) (change : Option Change) :
    (Task.tellAll observers change : List (Task κ ρ)).filterMap Task.outcome? = [] := by
  apply List.filterMap_eq_nil_iff.mpr
  intro task told
  obtain ⟨id, -, announced, -, rfl⟩ := Task.mem_tellAll.mp told
  rfl

theorem filterMap_outcome_runAll (caller : Option Nat) (steps : List (Step κ)) :
    (Task.runAll caller steps : List (Task κ ρ)).filterMap Task.outcome? = [] := by
  apply List.filterMap_eq_nil_iff.mpr
  intro task planned
  obtain ⟨step, -, rfl⟩ := List.mem_map.mp planned
  rfl

/-- If the task is to answer, the answer does not depend on failures. -/
def Task.Uniform : Task κ ρ → Prop
  | .reply _ _ answer => ∀ failures, answer failures = answer []
  | _ => True

/-- The answers that are still to be given do not depend on failures either. -/
theorem Course.reply_uniform (uniform : system.Uniform)
    (course : Course system start calls s tasks) : ∀ task ∈ tasks, task.Uniform := by
  induction course with
  | begin =>
      intro task planned
      exact absurd planned List.not_mem_nil
  | decide _ _ _ ih =>
      intro task planned
      rcases List.mem_cons.mp planned with rfl | later
      · exact trivial
      · exact ih task later
  | advance _ ih =>
      intro task planned
      rcases List.mem_append.mp planned with first | later
      · -- Of all tasks only a call leaves an answer to be given, and that one is uniform.
        rcases Session.mem_advance first with
          ⟨_, _, -, ⟨_, -, _, -, rfl⟩ | rfl⟩ | ⟨_, _, -, rfl | ⟨_, rfl⟩⟩
        · exact trivial
        · exact uniform _ _ _
        · exact trivial
        · exact trivial
      · exact ih task (List.mem_cons_of_mem _ later)

/-- Carrying out a task moves an outcome at most: a call owes it, and an answer pays it. -/
theorem Session.outcomes_advance (system : System σ κ ρ) (s : Session σ κ ρ) (task : Task κ ρ)
    (uniform : task.Uniform) :
    (s.advance system task).2.filterMap Task.outcome? ++
        (s.advance system task).1.history.filterMap Happening.outcome? =
      (s.calls system task).map Call.outcome ++ ([task].filterMap Task.outcome? ++
        s.history.filterMap Happening.outcome?) := by
  cases task with
  | run caller step =>
      cases step with
      | command command =>
          rw [advance_command, List.filterMap_append, List.filterMap_append,
            filterMap_outcome_tellAll, filterMap_outcome_recorded]
          rfl
      | subscribe observer => rfl
      | unsubscribe id => rfl
  | tell id change =>
      obtain ⟨steps, subscribers, told, -⟩ := s.tell_cases id change
      rw [advance, told, List.filterMap_append, filterMap_outcome_runAll]
      rfl
  | conclude id =>
      rcases s.conclude_cases id with same | ⟨failure, reported⟩
      · rw [advance, same]
        rfl
      · rw [advance, reported]
        rfl
  | reply caller command answer =>
      show [] ++ (caller, command, answer s.report) :: _ = [] ++ ((caller, command, answer []) :: _)
      rw [uniform s.report]
      rfl

/-- Books stay balanced if what is `owed` at the head of an agenda is exchanged. -/
theorem perm_exchange {α : Type} {called calls owed rest before new after : List α}
    (moved : (new ++ after).Perm (called ++ (owed ++ before)))
    (settled : calls.Perm (owed ++ rest ++ before)) :
    (called ++ calls).Perm (new ++ rest ++ after) := by
  rw [List.append_assoc] at settled ⊢
  calc
    List.Perm (called ++ calls) (called ++ (owed ++ (rest ++ before))) :=
      settled.append_left called
    List.Perm _ (called ++ (rest ++ (owed ++ before))) :=
      (List.perm_append_comm_assoc owed rest before).append_left called
    List.Perm _ (rest ++ (called ++ (owed ++ before))) := List.perm_append_comm_assoc _ _ _
    List.Perm _ (rest ++ (new ++ after)) := moved.symm.append_left rest
    List.Perm _ (new ++ (rest ++ after)) := List.perm_append_comm_assoc _ _ _

/-- The calls are, in some order, those that are still to be answered and those that have
returned, each with the outcome that it had when it was carried out. -/
theorem Course.outcomes_perm (uniform : system.Uniform) (unheard : start.history = [])
    (course : Course system start calls s tasks) :
    (calls.map Call.outcome).Perm
      (tasks.filterMap Task.outcome? ++ s.history.filterMap Happening.outcome?) := by
  induction course with
  | begin =>
      rw [unheard]
      exact .refl _
  | decide _ _ _ ih => exact ih
  | @advance calls s task rest course ih =>
      -- The answer that is given now may know of failures, but does not depend on them.
      have moved := s.outcomes_advance system task
        (course.reply_uniform uniform task List.mem_cons_self)
      rw [List.map_append, List.filterMap_append]
      rw [← List.singleton_append, List.filterMap_append] at ih
      exact perm_exchange (.of_eq moved) ih

end Switchboard
