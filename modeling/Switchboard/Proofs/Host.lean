import Switchboard.Proofs.Transcript

/-!
# What the host gets

The host waits for an answer before it goes on. So the commands of the host return in the order in
which they take effect, and just as they were answered then, whatever observers do in between
(`Course.replies_eq`). If nobody observes, a command is answered at once and nothing else happens,
so that a program can be followed command by command (`Session.play_concat`).
-/

namespace Switchboard

variable {σ κ ρ : Type}

/-- A command and its answer, if it was one of the host. -/
def hosted : Option Nat × κ × ρ → Option (κ × ρ)
  | (none, reply) => some reply
  | (some _, _) => none

/-- The commands of the host that have returned, with their answers, in order. -/
def Session.replies (s : Session σ κ ρ) : List (κ × ρ) :=
  ((s.history.filterMap Happening.outcome?).filterMap hosted).reverse

/-- The commands that the host has called, with their answers, latest first. -/
def Call.hosted (calls : List (Call κ ρ)) : List (κ × ρ) :=
  (calls.map outcome).filterMap Switchboard.hosted

/-- The commands that the host has called, latest first. -/
def Call.requests (calls : List (Call κ ρ)) : List κ :=
  (hosted calls).map Prod.fst

theorem Call.requests_subset {calls : List (Call κ ρ)} :
    requests calls ⊆ calls.map Call.command := by
  intro command requested
  obtain ⟨reply, hosted, rfl⟩ := List.mem_map.mp requested
  obtain ⟨outcome, member, own⟩ := List.mem_filterMap.mp hosted
  obtain ⟨call, made, rfl⟩ := List.mem_map.mp member
  refine List.mem_map.mpr ⟨call, made, ?_⟩
  rw [Call.outcome] at own
  cases caller : call.caller with
  | none =>
      rw [caller] at own
      cases own
      rfl
  | some id =>
      rw [caller] at own
      cases own

/-! ## The host waits -/

namespace Task

/-- The answers that the host is to be given. -/
def owed (tasks : List (Task κ ρ)) : List (κ × ρ) :=
  (tasks.filterMap outcome?).filterMap hosted

/-- The task runs a step of the host, or answers one. -/
def OfHost : Task κ ρ → Prop
  | .run caller _ => caller = none
  | .reply caller .. => caller = none
  | .tell .. => False
  | .conclude _ => False

/-- On this agenda, the host is owed one answer at most, and until it is given only observers are
at work. -/
inductive Orderly : List (Task κ ρ) → Prop
  | idle {agenda} : owed agenda = [] → Orderly agenda
  | due {command answer rest} : owed rest = [] → Orderly (.reply none command answer :: rest)
  | nested {task rest} : ¬ task.OfHost → Orderly rest → Orderly (task :: rest)

theorem owed_append (first second : List (Task κ ρ)) :
    owed (first ++ second) = owed first ++ owed second := by
  rw [owed, List.filterMap_append, List.filterMap_append]
  rfl

theorem owed_cons (task : Task κ ρ) (rest : List (Task κ ρ)) :
    owed (task :: rest) = owed [task] ++ owed rest :=
  owed_append [task] rest

/-- Only the host is owed anything. -/
theorem owed_of_not_ofHost {task : Task κ ρ} (foreign : ¬ task.OfHost) : owed [task] = [] := by
  cases task with
  | reply caller command answer =>
      cases caller with
      | none => exact absurd rfl foreign
      | some id => rfl
  | run _ _ => rfl
  | tell _ _ => rfl
  | conclude _ => rfl

theorem owed_eq_nil {tasks : List (Task κ ρ)} (foreign : ∀ task ∈ tasks, ¬ task.OfHost) :
    owed tasks = [] := by
  induction tasks with
  | nil => rfl
  | cons task rest ih =>
      rw [owed_cons, owed_of_not_ofHost (foreign task List.mem_cons_self), List.nil_append]
      exact ih fun other later => foreign other (List.mem_cons_of_mem _ later)

theorem Orderly.append {first rest : List (Task κ ρ)}
    (foreign : ∀ task ∈ first, ¬ task.OfHost) (orderly : Orderly rest) :
    Orderly (first ++ rest) := by
  induction first with
  | nil => exact orderly
  | cons task tail ih =>
      apply Orderly.nested (foreign task List.mem_cons_self)
      apply ih
      intro other later
      exact foreign other (List.mem_cons_of_mem _ later)

theorem not_ofHost_tellAll {observers : List Nat} {change : Option Change} :
    ∀ task ∈ (tellAll observers change : List (Task κ ρ)), ¬ task.OfHost := by
  intro task told own
  obtain ⟨id, -, announced, -, rfl⟩ := mem_tellAll.mp told
  exact own

/-- An observer leaves only tasks of its own and of other observers to do. -/
theorem not_ofHost_advance {system : System σ κ ρ} {s : Session σ κ ρ} {task next : Task κ ρ}
    (foreign : ¬ task.OfHost) (left : next ∈ (s.advance system task).2) : ¬ next.OfHost := by
  rcases Session.mem_advance left with
    ⟨caller, command, rfl, ⟨id, -, change, -, rfl⟩ | rfl⟩ | ⟨id, change, rfl, rfl | ⟨step, rfl⟩⟩
  · exact fun own => own
  · exact foreign
  · exact fun own => own
  · exact nofun

/-- A step that someone decides on is a step of an observer, or the host is owed nothing. -/
theorem Orderly.decide {tasks : List (Task κ ρ)} {caller : Option Nat} (orderly : Orderly tasks)
    (turn : Task.turn tasks = some caller) (step : Step κ) :
    Orderly (.run caller step :: tasks) := by
  cases caller with
  | some id => exact .nested nofun orderly
  | none =>
      apply Orderly.idle
      rw [owed_cons]
      cases orderly with
      | idle nothing => exact nothing
      | due _ => cases turn
      | @nested task rest foreign _ =>
          -- The host has the word only if its own step is next.
          cases task with
          | run caller _ =>
              cases turn
              exact absurd rfl foreign
          | tell _ _ => cases turn
          | conclude _ => cases turn
          | reply _ _ _ => cases turn

theorem Orderly.advance {task : Task κ ρ} {rest : List (Task κ ρ)}
    (orderly : Orderly (task :: rest)) (system : System σ κ ρ) (s : Session σ κ ρ) :
    Orderly ((s.advance system task).2 ++ rest) := by
  cases orderly with
  | nested foreign orderly => exact .append (fun _ left => not_ofHost_advance foreign left) orderly
  | due nothing => exact .idle nothing
  | idle nothing =>
      rw [owed_cons] at nothing
      have later : owed rest = [] := (List.append_eq_nil_iff.mp nothing).2
      by_cases own : task.OfHost
      · cases task with
        | run caller step =>
            cases step with
            | command command =>
                -- The host calls a command, and is owed the answer behind what observers do.
                obtain rfl : caller = none := own
                rw [Session.advance_command, List.append_assoc]
                exact .append not_ofHost_tellAll (.due later)
            | subscribe observer => exact .idle later
            | unsubscribe id => exact .idle later
        | tell _ _ => exact own.elim
        | conclude _ => exact own.elim
        | reply _ _ _ => exact .idle later
      · exact .append (fun _ left => not_ofHost_advance own left) (.idle later)

end Task

variable {system : System σ κ ρ} {start s : Session σ κ ρ} {calls : List (Call κ ρ)}
  {tasks : List (Task κ ρ)}

theorem Course.orderly (course : Course system start calls s tasks) : Task.Orderly tasks := by
  induction course with
  | begin => exact .idle rfl
  | decide step _ turn ih => exact ih.decide turn step
  | @advance _ s _ _ _ ih => exact ih.advance system s

/-- An observer makes no calls of the host. -/
theorem Session.hosted_calls {task : Task κ ρ} (foreign : ¬ task.OfHost) :
    Call.hosted (s.calls system task) = [] := by
  cases task with
  | run caller step =>
      cases caller with
      | none => exact absurd rfl foreign
      | some id => cases step <;> rfl
  | tell _ _ => rfl
  | conclude _ => rfl
  | reply _ _ _ => rfl

/-- The calls of the host are the one that is still to be answered, if there is one, and before it
those that have returned, all with the answers that they had when they took effect. -/
theorem Course.hosted_eq (uniform : system.Uniform) (unheard : start.history = [])
    (course : Course system start calls s tasks) :
    Call.hosted calls = Task.owed tasks ++ s.replies.reverse := by
  induction course with
  | begin =>
      rw [Session.replies, unheard]
      rfl
  | decide step _ _ ih => exact ih
  | @advance calls s task rest course ih =>
      have books := s.outcomes_advance system task
        (course.reply_uniform uniform task List.mem_cons_self)
      -- What the task does to the books of all callers, it does to those of the host.
      have moved :
          Task.owed (s.advance system task).2 ++ (s.advance system task).1.replies.reverse =
          Call.hosted (s.calls system task) ++ (Task.owed [task] ++ s.replies.reverse) := by
        have moved := congrArg (List.filterMap hosted) books
        simp only [List.filterMap_append] at moved
        rw [Session.replies, Session.replies, List.reverse_reverse, List.reverse_reverse]
        exact moved
      rw [Task.owed_cons, List.append_assoc] at ih
      rw [Call.hosted, List.map_append, List.filterMap_append, Task.owed_append]
      change Call.hosted (s.calls system task) ++ Call.hosted calls = _
      rw [ih]
      by_cases own : task.OfHost
      · -- Nothing is owed to the host behind its own task.
        have later : Task.owed rest = [] := by
          cases course.orderly with
          | idle nothing =>
              rw [Task.owed_cons] at nothing
              exact (List.append_eq_nil_iff.mp nothing).2
          | due nothing => exact nothing
          | nested foreign _ => exact absurd own foreign
        rw [later, List.nil_append, List.append_nil, moved]
      · -- A task of an observer does not touch the books of the host.
        have left : Task.owed (s.advance system task).2 = [] :=
          Task.owed_eq_nil fun _ left => Task.not_ofHost_advance own left
        rw [left, Session.hosted_calls own, Task.owed_of_not_ofHost own] at moved
        rw [left, Session.hosted_calls own, Task.owed_of_not_ofHost own]
        exact congrArg (Task.owed rest ++ ·) moved.symm

/-- When nothing is under way, all calls of the host have returned, in the order in which they
were made. -/
theorem Course.replies_eq (uniform : system.Uniform) (unheard : start.history = [])
    (course : Course system start calls s []) : s.replies = (Call.hosted calls).reverse := by
  rw [course.hosted_eq uniform unheard]
  exact s.replies.reverse_reverse.symm

/-- What the host is given on a second course comes behind what it was given on the first. -/
theorem Course.replies_trans {earlier : List (Call κ ρ)} {halfway : Session σ κ ρ}
    (uniform : system.Uniform) (unheard : start.history = [])
    (first : Course system start earlier halfway [])
    (second : Course system halfway calls s []) :
    s.replies = halfway.replies ++ (Call.hosted calls).reverse := by
  rw [first.replies_eq uniform unheard, (first.trans second).replies_eq uniform unheard, Call.hosted,
    List.map_append, List.filterMap_append, List.reverse_append]
  rfl

/-! ## What the host asks for -/

/-- The command of a step, if it is one. -/
def Step.command? : Step κ → Option κ
  | .command asked => some asked
  | .subscribe _ => none
  | .unsubscribe _ => none

/-- The command that the host calls by a task. -/
def Task.planned? : Task κ ρ → Option κ
  | .run none step => step.command?
  | _ => none

theorem Call.requests_append (later earlier : List (Call κ ρ)) :
    requests (later ++ earlier) = requests later ++ requests earlier := by
  rw [requests, hosted, List.map_append, List.filterMap_append, List.map_append]
  rfl

/-- Nothing that a task leaves to do is a call of the host. -/
theorem Session.planned_advance (system : System σ κ ρ) (s : Session σ κ ρ) (task : Task κ ρ) :
    (s.advance system task).2.filterMap Task.planned? = [] := by
  apply List.filterMap_eq_nil_iff.mpr
  intro next left
  rcases mem_advance left with
    ⟨caller, command, -, ⟨id, -, change, -, rfl⟩ | rfl⟩ | ⟨id, change, -, rfl | ⟨step, rfl⟩⟩ <;> rfl

/-- The host calls what it has planned to call. -/
theorem Session.requests_calls (system : System σ κ ρ) (s : Session σ κ ρ) (task : Task κ ρ) :
    Call.requests (s.calls system task) = [task].filterMap Task.planned? := by
  cases task with
  | run caller step => cases caller <;> cases step <;> rfl
  | _ => rfl

/-- At every moment of a run, the host has called the first of its commands and is yet to call the
others. -/
theorem Session.requests_moment (system : System σ κ ρ) (start : Session σ κ ρ)
    (steps : List (Step κ)) (count : Nat) :
    (Call.requests (start.moment system steps count).calls).reverse ++
        (start.moment system steps count).agenda.filterMap Task.planned? =
      steps.filterMap Step.command? := by
  induction count with
  | zero =>
      show [] ++ (steps.map (Task.run none)).filterMap Task.planned? = _
      rw [List.nil_append, List.filterMap_map]
      rfl
  | succ count ih =>
      rw [← ih, moment, Moment.next]
      split
      · rfl
      · rename_i task rest agenda
        rw [agenda, List.filterMap_append, planned_advance, Call.requests_append, requests_calls,
          ← List.singleton_append, List.filterMap_append]
        cases planned : task.planned? <;> simp [planned]

/-- In the end, the host has called all of its commands. -/
theorem Course.play_requests (system : System σ κ ρ) (start : Session σ κ ρ)
    (steps : List (Step κ)) :
    ∃ calls, Course system start calls (start.play system steps) [] ∧
      (Call.requests calls).reverse = steps.filterMap Step.command? := by
  obtain ⟨count, calls, ended⟩ := start.exists_moment_eq_play system steps
  have course := Course.moment system start steps count
  have asked := start.requests_moment system steps count
  rw [ended] at course asked
  exact ⟨calls, course, (List.append_nil _).symm.trans asked⟩

/-! ## When nobody observes -/

namespace Session

theorem play_append (system : System σ κ ρ) (s : Session σ κ ρ) (first second : List (Step κ)) :
    s.play system (first ++ second) = (s.play system first).play system second := by
  rw [play, Task.runAll, List.map_append]
  exact run_append ..

theorem play_command (system : System σ κ ρ) {s : Session σ κ ρ}
    (unobserved : s.subscribers.active = []) (command : κ) :
    (s.play system [.command command]).subscribers = s.subscribers ∧
    (s.play system [.command command]).state = (system s.subscribers.size s.state command).state ∧
    (s.play system [.command command]).replies =
      s.replies ++ [(command, (system s.subscribers.size s.state command).answer [])] := by
  have alone : s.play system [.command command] = _ := run_untold (.inl unobserved) none
  refine ⟨by rw [alone], by rw [alone], ?_⟩
  rw [alone, replies, replies, List.filterMap_cons, List.filterMap_append,
    filterMap_outcome_recorded]
  exact List.reverse_cons

theorem subscribers_play (system : System σ κ ρ) {s : Session σ κ ρ}
    (unobserved : s.subscribers.active = []) (commands : List κ) :
    (s.play system (commands.map .command)).subscribers = s.subscribers := by
  induction commands generalizing s with
  | nil => rw [List.map_nil, play, Task.runAll, List.map_nil, run_nil]
  | cons command rest ih =>
      obtain ⟨same, -, -⟩ := play_command system unobserved command
      rw [List.map_cons, ← List.singleton_append, play_append, ih (by rwa [same]), same]

/-- A program can be followed command by command. -/
theorem play_concat (system : System σ κ ρ) {s : Session σ κ ρ}
    (unobserved : s.subscribers.active = []) (commands : List κ) (command : κ) :
    (s.play system ((commands ++ [command]).map .command)).state =
      (system s.subscribers.size (s.play system (commands.map .command)).state command).state ∧
    (s.play system ((commands ++ [command]).map .command)).replies =
      (s.play system (commands.map .command)).replies ++
        [(command, (system s.subscribers.size (s.play system (commands.map .command)).state
          command).answer [])] := by
  have same := subscribers_play system unobserved commands
  obtain ⟨-, moved⟩ := play_command system (s := s.play system (commands.map .command))
    (by rwa [same]) command
  rw [same] at moved
  rwa [List.map_append, play_append]

end Session

end Switchboard
