import Switchboard.Broadcast
import Switchboard.Proofs.Unfolding

/-!
# Rounds

A command that makes a change goes round: it visits the observers that are subscribed when it takes
effect, one after the other, and then it answers. In a visit an observer may run steps, and these
may be commands with rounds of their own, to any depth, on a list that has changed meanwhile.

* **accounts** — all that is seen of a round is told by its visits (`Round.account`), and of the
  steps within a visit by those of theirs (`Deeds`);
* **a step** — at every moment an unfinished round is a part of its account, and what is left of it
  is on the agenda (`Underway`); each task moves it on or ends it (`Underway.advance`);
* **a round** — so whatever observers do, and however they end, what is seen of a round is told by
  an account (`Unfolds.round_account`). If everyone keeps to their scripts, the account is all there
  is, and they end in it as the scripts have it (`Session.shown_command`). For a list of observers
  on its own this says whom a notification is delivered to, and with what result
  (`Broadcast.notify_exact`).
-/

namespace Switchboard

variable {σ κ ρ : Type}

/-! ## Accounts -/

/-- A visit to an observer: who it is and its name, the change it is told of, all that is seen of
the steps it runs, and how it ends. -/
structure Visit (κ ρ : Type) where
  observer : Nat
  name : String
  change : Change
  deeds : List (Sight κ ρ)
  outcome : Outcome

namespace Visit

/-- The observer that is called, and the change it is told of. -/
def call (v : Visit κ ρ) : Nat × Change :=
  (v.observer, v.change)

/-- The failure of the observer, if it fails. -/
def failure? (v : Visit κ ρ) : Option Failure :=
  v.outcome.failure?.map fun cause => ⟨v.name, cause⟩

/-- All that is seen of a visit, in order. -/
def account (v : Visit κ ρ) : List (Sight κ ρ) :=
  .happened (.told v.observer v.change) ::
    (v.deeds ++ .ended v.observer v.outcome ::
      Sight.records (v.failure?.map LogRecord.observerFailed).toList)

/-- The failures of observers, in the order in which they were visited. -/
def failures (visits : List (Visit κ ρ)) : List Failure :=
  visits.filterMap failure?

end Visit

/-- A command that goes round: its caller, how it answers, and whom it is to tell of what. -/
structure Round (κ ρ : Type) where
  caller : Option Nat
  command : κ
  answer : List Failure → ρ
  calls : List (Nat × Change)

namespace Round

/-- The return of the command after its visits. -/
def close (r : Round κ ρ) (visits : List (Visit κ ρ)) : Sight κ ρ :=
  .happened (.returned r.caller (.command r.command) (.answered (r.answer (Visit.failures visits))))

/-- All that is seen of a round, in order. -/
def account (r : Round κ ρ) (visits : List (Visit κ ρ)) : List (Sight κ ρ) :=
  visits.flatMap Visit.account ++ [r.close visits]

/-- The tasks of a round that has some calls left. -/
def agenda (r : Round κ ρ) (left : List (Nat × Change)) : List (Task κ ρ) :=
  left.map (fun call => .tell call.1 call.2) ++ [.reply r.caller r.command r.answer]

end Round

/-- All that is seen of some steps of a caller, one after the other, each with all that it causes
before it returns. -/
inductive Deeds : Option Nat → List (Sight κ ρ) → Prop
  | idle {caller} : Deeds caller []
  | subscribe {caller observer id rest} : Deeds caller rest →
      Deeds caller (.happened (.started caller (.subscribe observer)) ::
        .happened (.returned caller (.subscribe observer) (.subscribed id)) :: rest)
  | unsubscribe {caller id found rest} : Deeds caller rest →
      Deeds caller (.happened (.started caller (.unsubscribe id)) ::
        .happened (.returned caller (.unsubscribe id) (.unsubscribed found)) :: rest)
  | round {visits rest} (r : Round κ ρ) (records : List LogRecord) :
      (∀ v ∈ visits, Deeds (some v.observer) v.deeds) → Deeds r.caller rest →
      Deeds r.caller (.happened (.started r.caller (.command r.command)) ::
        (Sight.records records ++ (r.account visits ++ rest)))

theorem Deeds.append {caller : Option Nat} {first second : List (Sight κ ρ)}
    (before : Deeds caller first) (after : Deeds caller second) :
    Deeds caller (first ++ second) := by
  induction before with
  | idle => exact after
  | subscribe _ ih => exact .subscribe (ih after)
  | unsubscribe _ ih => exact .unsubscribe (ih after)
  | round r records inner _ _ ih =>
      simp only [List.cons_append, List.append_assoc]
      exact .round r records inner (ih after)

/-- The observer of a visit is known by the name in it, and does nothing but run steps. -/
structure Visit.Sound (l : Subscribers κ) (v : Visit κ ρ) : Prop where
  name : l.label v.observer = some v.name
  deeds : Deeds (some v.observer) v.deeds

/-! ## Rounds under way -/

/-- Some of the calls of a round have been made, and others are left. -/
structure Round.Progress (l : Subscribers κ) (r : Round κ ρ) (visits : List (Visit κ ρ))
    (left : List (Nat × Change)) : Prop where
  calls : r.calls = visits.map Visit.call ++ left
  sound : ∀ v ∈ visits, v.Sound l
  known : ∀ call ∈ left, ∃ name, l.label call.1 = some name

/-- What has been seen of a round since its own records, the tasks that are left of it, and its
failures so far with those of the rounds within it. -/
inductive Underway (l : Subscribers κ) :
    Round κ ρ → List (Sight κ ρ) → List (Task κ ρ) → List (List Failure) → Prop
  /-- The next observer is to be called, or the command is to answer. -/
  | between {r visits left} (progress : r.Progress l visits left) :
      Underway l r (visits.flatMap Visit.account) (r.agenda left) [Visit.failures visits]
  /-- An observer has the word. -/
  | visiting {r visits id change left deeds steps}
      (progress : r.Progress l visits ((id, change) :: left)) (own : Deeds (some id) deeds) :
      Underway l r (visits.flatMap Visit.account ++ .happened (.told id change) :: deeds)
        (Task.runAll (some id) steps ++ .conclude id :: r.agenda left) [Visit.failures visits]
  /-- A command of an observer goes round. -/
  | within {r visits id change left deeds steps inner records trace tasks reports}
      (progress : r.Progress l visits ((id, change) :: left)) (own : Deeds (some id) deeds)
      (caller : inner.caller = some id) (underway : Underway l inner trace tasks reports) :
      Underway l r (visits.flatMap Visit.account ++ .happened (.told id change) ::
          (deeds ++ .happened (.started (some id) (.command inner.command)) ::
            (Sight.records records ++ trace)))
        (tasks ++ (Task.runAll (some id) steps ++ .conclude id :: r.agenda left))
        (reports ++ [Visit.failures visits])

theorem Round.Progress.mono {l later : Subscribers κ} {r : Round κ ρ} {visits : List (Visit κ ρ)}
    {left : List (Nat × Change)} (progress : r.Progress l visits left)
    (keeps : l.Keeps later) : r.Progress later visits left := by
  constructor
  · exact progress.calls
  · intro v visited
    exact ⟨keeps.label (progress.sound v visited).name, (progress.sound v visited).deeds⟩
  · intro call member
    obtain ⟨name, known⟩ := progress.known call member
    exact ⟨name, keeps.label known⟩

theorem Underway.mono {l later : Subscribers κ} {r : Round κ ρ} {trace : List (Sight κ ρ)}
    {tasks : List (Task κ ρ)} {reports : List (List Failure)}
    (underway : Underway l r trace tasks reports) (keeps : l.Keeps later) :
    Underway later r trace tasks reports := by
  induction underway with
  | between progress => exact .between (progress.mono keeps)
  | visiting progress own => exact .visiting (progress.mono keeps) own
  | within progress own caller _ ih => exact .within (progress.mono keeps) own caller ih

/-- A round that is over is a deed of its caller. -/
theorem Round.Progress.deed {l : Subscribers κ} {r : Round κ ρ} {visits : List (Visit κ ρ)}
    {id : Nat} (complete : r.Progress l visits []) (caller : r.caller = some id)
    (records : List LogRecord) :
    Deeds (some id) (.happened (.started (some id) (.command r.command)) ::
      (Sight.records records ++ r.account visits)) := by
  have deed := Deeds.round r records (fun v visited => (complete.sound v visited).deeds) .idle
  rw [caller, List.append_nil] at deed
  exact deed

/-- With the end of an observer, its visit is complete. -/
theorem Round.Progress.visit {l : Subscribers κ} {r : Round κ ρ} {visits : List (Visit κ ρ)}
    {id : Nat} {change : Change} {left : List (Nat × Change)} {name : String}
    {deeds : List (Sight κ ρ)} (progress : r.Progress l visits ((id, change) :: left))
    (known : l.label id = some name) (own : Deeds (some id) deeds) (outcome : Outcome) :
    r.Progress l (visits ++ [⟨id, name, change, deeds, outcome⟩]) left := by
  constructor
  · rw [progress.calls, List.map_append, List.append_assoc]
    rfl
  · intro v visited
    rcases List.mem_append.mp visited with earlier | last
    · exact progress.sound v earlier
    · rw [List.mem_singleton.mp last]
      exact ⟨known, own⟩
  · exact fun call member => progress.known call (List.mem_cons_of_mem _ member)

/-- An unfinished round has a task left, and in the end it answers. -/
theorem Underway.tasks_eq {l : Subscribers κ} {r : Round κ ρ} {trace : List (Sight κ ρ)}
    {tasks : List (Task κ ρ)} {reports : List (List Failure)}
    (underway : Underway l r trace tasks reports) :
    ∃ first, tasks = first ++ [.reply r.caller r.command r.answer] := by
  cases underway with
  | between _ => exact ⟨_, rfl⟩
  | visiting _ _ => exact ⟨_, by rw [Round.agenda, ← List.cons_append, ← List.append_assoc]⟩
  | within _ _ _ _ =>
      exact ⟨_, by rw [Round.agenda, ← List.cons_append, ← List.append_assoc, ← List.append_assoc]⟩

/-- The round of a command that takes effect now. -/
def Session.round (system : System σ κ ρ) (s : Session σ κ ρ) (caller : Option Nat)
    (command : κ) : Round κ ρ where
  caller := caller
  command := command
  answer := (system s.subscribers.size s.state command).answer
  calls := match (system s.subscribers.size s.state command).change with
    | none => []
    | some change => s.subscribers.active.map (·, change)

/-- What a command leaves to do is its round. -/
theorem Session.round_agenda (system : System σ κ ρ) (s : Session σ κ ρ) (caller : Option Nat)
    (command : κ) :
    (s.advance system (.run caller (.command command))).2 =
      (s.round system caller command).agenda (s.round system caller command).calls := by
  rw [advance_command, round]
  cases (system s.subscribers.size s.state command).change with
  | none => rfl
  | some change =>
      rw [Round.agenda, List.map_map]
      rfl

/-- Everyone who is to be called is known. -/
theorem Session.round_begin {s : Session σ κ ρ} (ordered : s.subscribers.Ordered)
    (system : System σ κ ρ) (caller : Option Nat) (command : κ) :
    (s.round system caller command).Progress s.subscribers []
      (s.round system caller command).calls := by
  constructor
  · rfl
  · exact fun v visited => absurd visited List.not_mem_nil
  · intro call member
    rw [round] at member
    cases change : (system s.subscribers.size s.state command).change with
    | none =>
        rw [change] at member
        exact absurd member List.not_mem_nil
    | some announced =>
        rw [change] at member
        obtain ⟨id, active, rfl⟩ := List.mem_map.mp member
        exact ordered.label_isSome active

/-! ## A step of a round -/

/-- The round is under way, or it has just come to its end; `outer` are the reports of the rounds
around it. -/
def Round.Stage (r : Round κ ρ) (s : Session σ κ ρ) (trace : List (Sight κ ρ))
    (tasks : List (Task κ ρ)) (outer : List (List Failure)) : Prop :=
  (∃ reports, s.reports = reports ++ outer ∧ Underway s.subscribers r trace tasks reports) ∨
  (tasks = [] ∧ s.reports = outer ∧
    ∃ visits, r.Progress s.subscribers visits [] ∧ trace = r.account visits)

/-- Whoever has the word within a round may decide on a further step. -/
theorem Underway.decide {l : Subscribers κ} {r : Round κ ρ} {trace : List (Sight κ ρ)}
    {tasks : List (Task κ ρ)} {reports : List (List Failure)} {caller : Option Nat}
    (underway : Underway l r trace tasks reports) {rest : List (Task κ ρ)}
    (turn : Task.turn (tasks ++ rest) = some caller) (step : Step κ) :
    Underway l r trace (.run caller step :: tasks) reports := by
  induction underway generalizing rest with
  | @between r visits left progress =>
      -- Nobody has the word between the visits.
      cases left with
      | nil => cases turn
      | cons call left => cases turn
  | @visiting r visits id change left deeds steps progress own =>
      have mine : caller = some id := by
        cases steps with
        | nil => exact (Option.some.inj turn).symm
        | cons next steps => exact (Option.some.inj turn).symm
      rw [mine]
      show Underway l r _ (Task.runAll (some id) (step :: steps) ++ _) _
      exact .visiting progress own
  | within progress own caller underway ih =>
      rw [List.append_assoc] at turn
      exact .within progress own caller (ih turn)

section

variable {system : System σ κ ρ} {s : Session σ κ ρ} {r : Round κ ρ} {visits : List (Visit κ ρ)}
  {left : List (Nat × Change)} {id : Nat} {change : Change} {outer : List (List Failure)}
  {deeds : List (Sight κ ρ)}

/-- The next observer is called. -/
theorem Round.Progress.tell (progress : r.Progress s.subscribers visits ((id, change) :: left))
    (reports : s.reports = Visit.failures visits :: outer) (outcome : Outcome) :
    r.Stage (s.advanceAs system outcome (.tell id change)).1
      (visits.flatMap Visit.account ++ s.sights system outcome (.tell id change))
      ((s.advanceAs system outcome (.tell id change)).2 ++ r.agenda left) outer := by
  obtain ⟨steps, subscribers, told, -⟩ := s.tell_cases id change
  have now : s.advanceAs system outcome (.tell id change) = _ := told
  have later := progress.mono (s.keeps_advanceAs system outcome (.tell id change))
  rw [now] at later
  rw [now, s.sights_tell system outcome id change, List.append_assoc]
  exact .inl ⟨[Visit.failures visits], reports, .visiting later .idle⟩

/-- When everyone has been visited, the command answers, and its round is over. -/
theorem Round.Progress.reply (progress : r.Progress s.subscribers visits [])
    (reports : s.reports = Visit.failures visits :: outer) (outcome : Outcome) :
    r.Stage (s.advanceAs system outcome (.reply r.caller r.command r.answer)).1
      (visits.flatMap Visit.account ++
        s.sights system outcome (.reply r.caller r.command r.answer))
      (s.advanceAs system outcome (.reply r.caller r.command r.answer)).2 outer := by
  right
  refine ⟨rfl, ?_, visits, progress, ?_⟩
  · show s.reports.tail = outer
    rw [reports]
    rfl
  · show _ ++ [Sight.happened (.returned _ _ (.answered (r.answer (s.reports.headD []))))] = _
    rw [reports]
    rfl

/-- An observer ends, and its visit is complete. -/
theorem Round.Progress.conclude
    (progress : r.Progress s.subscribers visits ((id, change) :: left))
    (own : Deeds (some id) deeds) (reports : s.reports = Visit.failures visits :: outer)
    (outcome : Outcome) :
    r.Stage (s.advanceAs system outcome (.conclude id)).1
      (visits.flatMap Visit.account ++ .happened (.told id change) :: deeds ++
        s.sights system outcome (.conclude id))
      ((s.advanceAs system outcome (.conclude id)).2 ++ r.agenda left) outer := by
  obtain ⟨name, known⟩ := progress.known _ List.mem_cons_self
  let v : Visit κ ρ := ⟨id, name, change, deeds, outcome⟩
  have later := (progress.visit known own outcome).mono
    (s.keeps_advanceAs system outcome (.conclude id))
  have seen : visits.flatMap Visit.account ++ .happened (.told id change) :: deeds ++
      s.sights system outcome (.conclude id) = (visits ++ [v]).flatMap Visit.account := by
    rw [Session.sights_conclude known, List.flatMap_append, List.flatMap_singleton,
      List.append_assoc, Visit.account, Visit.failure?, Option.map_map]
    rfl
  rw [seen]
  refine .inl ⟨[Visit.failures (visits ++ [v])], ?_, .between later⟩
  have grown : Visit.failures (visits ++ [v]) = Visit.failures visits ++ v.failure?.toList := by
    rw [Visit.failures, List.filterMap_append]
    cases outcome <;> rfl
  rw [grown]
  exact Session.reports_concludeAs known reports outcome

/-- An observer starts a step. A change to the list takes effect and returns at once; a command
goes round before it returns. -/
theorem Round.Progress.run (ordered : s.subscribers.Ordered)
    (progress : r.Progress s.subscribers visits ((id, change) :: left))
    (own : Deeds (some id) deeds) (reports : s.reports = Visit.failures visits :: outer)
    (outcome : Outcome) (step : Step κ) (steps : List (Step κ)) :
    r.Stage (s.advanceAs system outcome (.run (some id) step)).1
      (visits.flatMap Visit.account ++ .happened (.told id change) :: deeds ++
        s.sights system outcome (.run (some id) step))
      ((s.advanceAs system outcome (.run (some id) step)).2 ++
        (Task.runAll (some id) steps ++ .conclude id :: r.agenda left)) outer := by
  left
  have later := progress.mono (s.keeps_advanceAs system outcome (.run (some id) step))
  cases step with
  | command command =>
      refine ⟨[[], Visit.failures visits], ?_, ?_⟩
      · show [] :: s.reports = _
        rw [reports]
        rfl
      · have inner := (s.round_begin ordered system (some id) command).mono
          (s.keeps_advanceAs system outcome (.run (some id) (.command command)))
        have begun : (s.advanceAs system outcome (.run (some id) (.command command))).2 = _ :=
          s.round_agenda system (some id) command
        rw [begun, Session.sights_command, List.append_assoc, ← List.append_nil (Sight.records _)]
        exact .within later own rfl (.between inner)
  | subscribe observer =>
      refine ⟨[Visit.failures visits], reports, ?_⟩
      rw [List.append_assoc]
      exact .visiting later (own.append (.subscribe .idle))
  | unsubscribe other =>
      refine ⟨[Visit.failures visits], reports, ?_⟩
      rw [List.append_assoc]
      exact .visiting later (own.append (.unsubscribe .idle))

/-- A round that moves on within a visit moves on the round around it. When it is over, it is one
more deed of the observer. -/
theorem Round.Stage.within {inner : Round κ ρ} {trace : List (Sight κ ρ)}
    {tasks : List (Task κ ρ)} (stage : inner.Stage s trace tasks (Visit.failures visits :: outer))
    (progress : r.Progress s.subscribers visits ((id, change) :: left))
    (own : Deeds (some id) deeds) (caller : inner.caller = some id) (records : List LogRecord)
    (steps : List (Step κ)) :
    r.Stage s
      (visits.flatMap Visit.account ++ .happened (.told id change) ::
        (deeds ++ .happened (.started (some id) (.command inner.command)) ::
          (Sight.records records ++ trace)))
      (tasks ++ (Task.runAll (some id) steps ++ .conclude id :: r.agenda left)) outer := by
  left
  rcases stage with ⟨reports, here, underway⟩ | ⟨rfl, here, inside, complete, rfl⟩
  · refine ⟨reports ++ [Visit.failures visits], ?_, .within progress own caller underway⟩
    rw [here, List.append_assoc]
    rfl
  · exact ⟨[Visit.failures visits], here,
      .visiting progress (own.append (complete.deed caller records))⟩

end

/-- Each task moves a round on, or ends it. -/
theorem Underway.advance {system : System σ κ ρ} {s : Session σ κ ρ} {r : Round κ ρ}
    {trace : List (Sight κ ρ)} {task : Task κ ρ} {tasks rest : List (Task κ ρ)}
    {reports outer : List (List Failure)} (underway : Underway s.subscribers r trace tasks reports)
    (ordered : s.subscribers.Ordered) (here : s.reports = reports ++ outer)
    (next : tasks = task :: rest) (outcome : Outcome) :
    r.Stage (s.advanceAs system outcome task).1 (trace ++ s.sights system outcome task)
      ((s.advanceAs system outcome task).2 ++ rest) outer := by
  induction underway generalizing rest outer with
  | @between r visits left progress =>
      cases left with
      | nil =>
          cases next
          exact progress.reply here outcome
      | cons call left =>
          cases next
          exact progress.tell here outcome
  | @visiting r visits id change left deeds steps progress own =>
      cases steps with
      | nil =>
          cases next
          exact progress.conclude own here outcome
      | cons step steps =>
          cases next
          exact progress.run ordered own here outcome step steps
  | @within r visits id change left deeds steps inner records trace tasks reports progress own
      caller underway ih =>
      -- The task belongs to the innermost round.
      obtain ⟨first, answer⟩ := underway.tasks_eq
      cases tasks with
      | nil => exact absurd answer (by simp)
      | cons head tasks =>
          rw [List.cons_append] at next
          obtain ⟨rfl, rfl⟩ := List.cons.inj next
          have around : s.reports = reports ++ (Visit.failures visits :: outer) := by
            rw [here, List.append_assoc]
            rfl
          have moved := (ih around rfl).within
            (progress.mono (s.keeps_advanceAs system outcome head)) own caller records steps
          simpa only [List.append_assoc, List.cons_append] using moved

/-! ## Whole rounds -/

/-- However a session unfolds from within a round, either the round is still under way, and the
rest of the agenda waits, or its account was seen. -/
theorem Unfolds.round {system : System σ κ ρ} {start s : Session σ κ ρ}
    {trace : List (Sight κ ρ)} {first rest tasks : List (Task κ ρ)} {r : Round κ ρ}
    {outer : List (List Failure)} (ordered : start.subscribers.Ordered)
    (begun : r.Stage start [] first outer)
    (unfolds : Unfolds system start (first ++ rest) trace s tasks) :
    (∃ left reports, tasks = left ++ rest ∧ s.reports = reports ++ outer ∧
      Underway s.subscribers r trace left reports) ∨
    ∃ visits, r.Progress s.subscribers visits [] ∧ r.account visits <+: trace := by
  induction unfolds with
  | begin =>
      rcases begun with ⟨reports, here, underway⟩ | ⟨-, -, visits, complete, seen⟩
      · exact .inl ⟨first, reports, rfl, here, underway⟩
      · exact .inr ⟨visits, complete, seen ▸ List.prefix_rfl⟩
  | decide step _ turn ih =>
      rcases ih with ⟨left, reports, rfl, here, underway⟩ | finished
      · exact .inl ⟨_ :: left, reports, rfl, here, underway.decide turn step⟩
      · exact .inr finished
  | @advance trace s task tail outcome unfolds ih =>
      rcases ih with ⟨left, reports, tasks, here, underway⟩ | ⟨visits, complete, seen⟩
      · obtain ⟨front, answer⟩ := underway.tasks_eq
        cases left with
        | nil => exact absurd answer (by simp)
        | cons head left =>
            obtain ⟨rfl, rfl⟩ := List.cons.inj tasks
            rcases underway.advance (unfolds.ordered ordered) here rfl outcome with
              ⟨reports, here, underway⟩ | ⟨-, -, visits, complete, seen⟩
            · exact .inl ⟨_, reports, (List.append_assoc ..).symm, here, underway⟩
            · exact .inr ⟨visits, complete, seen ▸ List.prefix_rfl⟩
      · exact .inr ⟨visits, complete.mono (s.keeps_advanceAs system outcome task),
          seen.trans (List.prefix_append ..)⟩

/-- If everyone keeps to their scripts, a round comes to its end. Then its account is what was seen
of it before, and what is shown of the rest. -/
theorem Round.Stage.run {s : Session σ κ ρ} {r : Round κ ρ} {trace : List (Sight κ ρ)}
    {tasks : List (Task κ ρ)} {outer : List (List Failure)}
    (stage : r.Stage s trace tasks outer) (ordered : s.subscribers.Ordered)
    (system : System σ κ ρ) :
    ∃ visits, r.Progress (s.run system tasks).subscribers visits [] ∧
      r.account visits = trace ++ s.shown system tasks := by
  fun_induction Session.shown system s tasks generalizing trace with
  | case1 s =>
      rcases stage with ⟨reports, -, underway⟩ | ⟨-, -, visits, complete, seen⟩
      · obtain ⟨front, answer⟩ := underway.tasks_eq
        exact absurd answer (by simp)
      · rw [Session.run_nil, List.append_nil]
        exact ⟨visits, complete, seen.symm⟩
  | case2 s task rest ih =>
      rcases stage with ⟨reports, here, underway⟩ | ⟨finished, -⟩
      · have moved : r.Stage (s.advanceAs system _ task).1 _ _ outer :=
          underway.advance ordered here rfl (task.scripted s.subscribers)
        rw [← s.advance_eq] at moved
        rw [Session.run_cons, ← List.append_assoc]
        exact ih moved (Session.ordered_advance ordered task)
      · cases finished

/-- Visits of observers that were known by then had the names that these had then. -/
theorem Round.Progress.earlier {l later : Subscribers κ} {r : Round κ ρ}
    {visits : List (Visit κ ρ)} (begun : r.Progress l [] r.calls) (keeps : l.Keeps later)
    (complete : r.Progress later visits []) : r.Progress l visits [] := by
  constructor
  · exact complete.calls
  · intro v visited
    have called : v.call ∈ r.calls := by
      rw [complete.calls, List.append_nil]
      exact List.mem_map_of_mem visited
    obtain ⟨name, known⟩ := begun.known v.call called
    have same := (keeps.label known).symm.trans (complete.sound v visited).name
    exact ⟨known.trans same, (complete.sound v visited).deeds⟩
  · exact fun call absent => absurd absent List.not_mem_nil

theorem Round.ended_mem_account {visits : List (Visit κ ρ)} {v : Visit κ ρ} (r : Round κ ρ)
    (visited : v ∈ visits) : .ended v.observer v.outcome ∈ r.account visits := by
  refine List.mem_append_left _ (List.mem_flatMap.mpr ⟨v, visited, ?_⟩)
  exact List.mem_cons_of_mem _ (List.mem_append_right _ List.mem_cons_self)

/-- A command begins its round. -/
theorem Session.stage_begin {s : Session σ κ ρ} (ordered : s.subscribers.Ordered)
    (system : System σ κ ρ) (caller : Option Nat) (command : κ) :
    (s.round system caller command).Stage (s.advance system (.run caller (.command command))).1 []
      (s.advance system (.run caller (.command command))).2 s.reports := by
  rw [s.round_agenda system caller command]
  exact .inl ⟨[[]], rfl, .between (s.round_begin ordered system caller command)⟩

/-- Every command goes round: what is seen after it took effect begins with the account of its
round, or it has not answered yet. Then this is the beginning of an account that goes on as the
scripts have it. -/
theorem Unfolds.round_account {system : System σ κ ρ} {s t : Session σ κ ρ}
    {news : List (Sight κ ρ)} {rest tasks : List (Task κ ρ)} {caller : Option Nat} {command : κ}
    (ordered : s.subscribers.Ordered)
    (unfolds : Unfolds system (s.advance system (.run caller (.command command))).1
      ((s.advance system (.run caller (.command command))).2 ++ rest) news t tasks) :
    ∃ visits, (s.round system caller command).Progress s.subscribers visits [] ∧
      ((s.round system caller command).account visits <+: news ∨
        ∃ front, tasks = front ++ (s.round system caller command).agenda [] ++ rest ∧
          (s.round system caller command).account visits =
            news ++ t.shown system (front ++ (s.round system caller command).agenda [])) := by
  have begun := s.round_begin ordered system caller command
  have still : (s.advance system (.run caller (.command command))).1.subscribers.Ordered := ordered
  have keeps : s.subscribers.Keeps t.subscribers := unfolds.keeps
  rcases unfolds.round still (s.stage_begin ordered system caller command) with
    ⟨left, reports, rfl, here, underway⟩ | ⟨visits, complete, seen⟩
  · obtain ⟨front, answer⟩ := underway.tasks_eq
    have stage : (s.round system caller command).Stage t news left s.reports :=
      .inl ⟨reports, here, underway⟩
    obtain ⟨visits, complete, seen⟩ := stage.run (unfolds.ordered still) system
    refine ⟨visits, begun.earlier (keeps.trans (t.keeps_run system left)) complete, .inr ?_⟩
    exact ⟨front, by rw [answer]; rfl, by rw [seen, answer]; rfl⟩
  · exact ⟨visits, begun.earlier keeps complete, .inl seen⟩

/-- If everyone keeps to their scripts, all that is shown of a command is that it is started, its
records, and the account of its round, in which observers end by their scripts. -/
theorem Session.shown_command {s : Session σ κ ρ} (ordered : s.subscribers.Ordered)
    (system : System σ κ ρ) (caller : Option Nat) (command : κ) :
    ∃ visits, (s.round system caller command).Progress s.subscribers visits [] ∧
      (∀ v ∈ visits, s.subscribers.outcome v.observer = some v.outcome) ∧
      s.shown system [.run caller (.command command)] =
        .happened (.started caller (.command command)) ::
          (Sight.records (system s.subscribers.size s.state command).records ++
            (s.round system caller command).account visits) := by
  obtain ⟨visits, complete, seen⟩ :=
    (s.stage_begin ordered system caller command).run ordered system
  have opened : s.run system [.run caller (.command command)] =
      (s.advance system (.run caller (.command command))).1.run system
        (s.advance system (.run caller (.command command))).2 := by
    rw [run_cons, List.append_nil]
  rw [← opened] at complete
  have keeps := s.keeps_run system [.run caller (.command command)]
  have sound := (s.round_begin ordered system caller command).earlier keeps complete
  have whole : s.shown system [.run caller (.command command)] =
      .happened (.started caller (.command command)) ::
        (Sight.records (system s.subscribers.size s.state command).records ++
          (s.round system caller command).account visits) := by
    rw [shown, List.append_nil, sights_command, seen]
    rfl
  refine ⟨visits, sound, ?_, whole⟩
  intro v visited
  have known : ∀ task ∈ ([.run caller (.command command)] : List (Task κ ρ)),
      task.Known s.subscribers := Task.known_run (List.forall_mem_nil _) caller _
  refine keeps.outcome_of_label (sound.sound v visited).name
    (scripted_shown ordered known system _ _ ?_)
  rw [whole]
  exact List.mem_cons_of_mem _ (List.mem_append_right _ (Round.ended_mem_account _ visited))

/-! ## A list of observers on its own -/

namespace Broadcast

/-- What is reported of an observer that ends in some way, and how much it matters. -/
def report : Outcome → Option (FailureCause × Level)
  | .success => none
  | .error text => some (.error text, .warn)
  | .panic text => some (.panic text, .error)
  | .wordlessPanic => some (.panic "non-string panic payload", .error)

/-- All that is seen of a notification, from its first visit to the return of the failures. -/
def account (caller : Option Nat) (change : Change)
    (visits : List (Visit BroadcastCommand BroadcastAnswer)) :
    List (Sight BroadcastCommand BroadcastAnswer) :=
  visits.flatMap Visit.account ++ [.happened (.returned caller (.command (.notify change))
    (.answered (.failures (visits.filterMap Visit.failure?))))]

/-- The visits tell just these observers of the change, in this order and once each. Observers have
the names by which they are known and do nothing but run steps, and whoever fails is reported by
name and kind, and as a warning or an error. -/
structure Tells (l : Subscribers BroadcastCommand) (audience : List Nat) (change : Change)
    (visits : List (Visit BroadcastCommand BroadcastAnswer)) : Prop where
  calls : visits.map Visit.call = audience.map (·, change)
  name : ∀ v ∈ visits, l.label v.observer = some v.name
  deeds : ∀ v ∈ visits, Deeds (some v.observer) v.deeds
  failure : ∀ v ∈ visits,
    v.failure?.map (fun failure => (failure, (LogRecord.observerFailed failure).level)) =
      (report v.outcome).map fun (cause, level) => (⟨v.name, cause⟩, level)

/-- A notification of a change that begins now is delivered exactly to these observers. -/
structure DeliversTo (audience : List Nat) (s : Session Unit BroadcastCommand BroadcastAnswer)
    (caller : Option Nat) (change : Change)
    (rest : List (Task BroadcastCommand BroadcastAnswer)) : Prop where
  /-- Whatever observers do and however they end, what is seen from now on begins with visits that
  tell them and with the return of the failures in these visits. If it has not returned yet, then it
  does when everyone keeps to their scripts from then on. -/
  always :
    let begun := s.advance perform (.run caller (.command (.notify change)))
    ∀ news t tasks, Unfolds perform begun.1 (begun.2 ++ rest) news t tasks →
      ∃ visits, Tells s.subscribers audience change visits ∧
        (account caller change visits <+: news ∨
          ∃ front, tasks = front ++ .reply caller (.notify change) .failures :: rest ∧
            let left := front ++ [.reply caller (.notify change) .failures]
            account caller change visits = news ++ t.shown perform left ∧
            Sight.Scripted (t.run perform left).subscribers (t.shown perform left) ∧
            Unfolds perform begun.1 (begun.2 ++ rest) (account caller change visits)
              (t.run perform left) rest)
  /-- If everyone keeps to their scripts from the beginning, just this happens, and each observer
  ends as its own script has it. -/
  scripted : ∃ visits, Tells s.subscribers audience change visits ∧
    (∀ v ∈ visits,
      (s.subscribers.roster[v.observer]?).map (·.observer.outcome) = some v.outcome) ∧
    (s.run perform [.run caller (.command (.notify change))]).history =
      ((.happened (.started caller (.command (.notify change))) ::
        account caller change visits).filterMap Sight.happening?).reverse ++ s.history

/-- The visits of a notification tell those who are subscribed when it begins. -/
theorem tells_active {s : Session Unit BroadcastCommand BroadcastAnswer} {caller : Option Nat}
    {change : Change} {visits : List (Visit BroadcastCommand BroadcastAnswer)}
    (complete : (s.round perform caller (.notify change)).Progress s.subscribers visits []) :
    Tells s.subscribers s.subscribers.active change visits := by
  constructor
  · exact (complete.calls.trans (List.append_nil _)).symm
  · exact fun v visited => (complete.sound v visited).name
  · exact fun v visited => (complete.sound v visited).deeds
  · intro v _
    unfold Visit.failure?
    cases v.outcome <;> rfl

/-- A notification is delivered to those who are subscribed when it begins. -/
theorem deliversTo_active {s : Session Unit BroadcastCommand BroadcastAnswer}
    {caller : Option Nat} {change : Change} {rest : List (Task BroadcastCommand BroadcastAnswer)}
    (ordered : s.subscribers.Ordered)
    (known : ∀ task ∈ .run caller (.command (.notify change)) :: rest, task.Known s.subscribers) :
    DeliversTo s.subscribers.active s caller change rest := by
  constructor
  · intro begun news t tasks unfolds
    obtain ⟨visits, complete, seen⟩ := Unfolds.round_account ordered unfolds
    refine ⟨visits, tells_active complete, ?_⟩
    rcases seen with whole | ⟨front, agenda, whole⟩
    · exact .inl whole
    · -- What is left of the round is carried out as the scripts have it.
      have still : begun.1.subscribers.Ordered := ordered
      have waiting := unfolds.known still (Session.known_advance ordered known perform)
      rw [agenda] at unfolds waiting
      refine .inr ⟨front, ?_, whole, ?_, ?_⟩
      · rw [agenda, List.append_assoc]
        rfl
      · exact Session.scripted_shown (unfolds.ordered still)
          (fun task member => waiting task (List.mem_append_left rest member)) perform
      · have onward := unfolds.run
        rw [← whole] at onward
        exact onward
  · obtain ⟨visits, complete, scripted, whole⟩ :=
      s.shown_command ordered perform caller (.notify change)
    refine ⟨visits, tells_active complete, scripted, ?_⟩
    rw [Session.history_run, whole]
    rfl

/-- Delivery under re-entrancy. Whoever is subscribed at a moment has subscribed before and has not
been taken off the list since. A notification that begins now is delivered to those who are
subscribed now, in the order in which they subscribed. Nobody who subscribes afterwards is one of
them; but any notification that begins later, while this one is delivered or when it has returned,
is delivered to the same observers and then to newcomers, but for those who have been taken off the
list by then. What becomes of a delivery is said for all that observers may do, and for what the
scripts have them do (`DeliversTo`). -/
theorem notify_exact {past : List (Sight BroadcastCommand BroadcastAnswer)}
    {s : Session Unit BroadcastCommand BroadcastAnswer}
    {rest : List (Task BroadcastCommand BroadcastAnswer)} {caller : Option Nat} {change : Change}
    (reached : Unfolds perform (.start ()) [] past s
      (.run caller (.command (.notify change)) :: rest)) :
    (Sight.issued past).Pairwise (· < ·) ∧
    s.subscribers.active = (Sight.issued past).filter (· ∉ Sight.struck past) ∧
    DeliversTo s.subscribers.active s caller change rest ∧
    ∀ news t tasks, Unfolds perform (s.advance perform (.run caller (.command (.notify change)))).1
        ((s.advance perform (.run caller (.command (.notify change)))).2 ++ rest) news t tasks →
      (s.subscribers.active ++ Sight.issued news).Pairwise (· < ·) ∧
      t.subscribers.active =
        (s.subscribers.active ++ Sight.issued news).filter (· ∉ Sight.struck news) ∧
      ∀ id again after, tasks = .run id (.command (.notify again)) :: after →
        DeliversTo ((s.subscribers.active ++ Sight.issued news).filter (· ∉ Sight.struck news))
          t id again after := by
  have ordered : s.subscribers.Ordered := reached.ordered .empty
  have known := reached.known .empty (List.forall_mem_nil _)
  have before := reached.roll .empty
  refine ⟨before.ascending, before.active, deliversTo_active ordered known, ?_⟩
  intro news t tasks unfolds
  have begun : (s.advance perform
    (.run caller (.command (.notify change)))).1.subscribers.Ordered := ordered
  have since : s.subscribers.Roll news t.subscribers := (unfolds.roll begun :)
  refine ⟨since.ascending, since.active, ?_⟩
  intro id again after next
  rw [← since.active]
  have later := unfolds.known begun (Session.known_advance ordered known perform)
  exact deliversTo_active (unfolds.ordered begun) (next ▸ later)

/-- A notification of the host. -/
def closing : Change := .ownerCleared ⟨1⟩ 2

/-- A notification of an observer that is told of the first. -/
def aftermath : Change := .ownerCleared ⟨2⟩ 0

/-- An observer that keeps to no script. -/
def guest (name : Option String) : Observer BroadcastCommand :=
  ⟨name, [], 0, .success⟩

/-- Two observers subscribe. -/
def arrivals : List (Sight BroadcastCommand BroadcastAnswer) :=
  [.happened (.started none (.subscribe (guest "clerk"))),
    .happened (.returned none (.subscribe (guest "clerk")) (.subscribed 0)),
    .happened (.started none (.subscribe (guest "porter"))),
    .happened (.returned none (.subscribe (guest "porter")) (.subscribed 1))]

/-- The first observer is told. It subscribes another one and takes the second off the list. -/
def errands : List (Sight BroadcastCommand BroadcastAnswer) :=
  [.happened (.told 0 closing),
    .happened (.started (some 0) (.subscribe (guest none))),
    .happened (.returned (some 0) (.subscribe (guest none)) (.subscribed 2)),
    .happened (.started (some 0) (.unsubscribe 1)),
    .happened (.returned (some 0) (.unsubscribe 1) (.unsubscribed true))]

/-- The list of observers after all that was seen. -/
def attended (guests : List (Option String)) (active : List Nat) (reports : List (List Failure))
    (seen : List (Sight BroadcastCommand BroadcastAnswer)) :
    Session Unit BroadcastCommand BroadcastAnswer where
  state := ()
  subscribers := ⟨guests.map fun name => ⟨guest name, 0⟩, active⟩
  reports := reports
  history := (seen.filterMap Sight.happening?).reverse

/-- The list when the host notifies it. -/
def host : Session Unit BroadcastCommand BroadcastAnswer :=
  attended ["clerk", "porter"] [0, 1] [] arrivals

/-- The list when the first observer notifies it, after its errands. -/
def callback : Session Unit BroadcastCommand BroadcastAnswer :=
  attended ["clerk", "porter", none] [0, 2] [[]]
    (arrivals ++ .happened (.started none (.command (.notify closing))) :: errands)

/-- The newcomer breaks off, then the first observer fails, and the second breaks off without a
text. -/
def endings : List (Sight BroadcastCommand BroadcastAnswer) :=
  [.happened (.started (some 0) (.command (.notify aftermath))),
    .happened (.told 0 aftermath), .ended 0 .success,
    .happened (.told 2 aftermath), .ended 2 (.panic "lost"),
    .happened (.recorded (.observerFailed ⟨"observer", .panic "lost"⟩)),
    .happened (.returned (some 0) (.command (.notify aftermath))
      (.answered (.failures [⟨"observer", .panic "lost"⟩]))),
    .ended 0 (.error "disk full"),
    .happened (.recorded (.observerFailed ⟨"clerk", .error "disk full"⟩)),
    .happened (.told 1 closing), .ended 1 .wordlessPanic,
    .happened (.recorded (.observerFailed ⟨"porter", .wordless⟩)),
    .happened (.returned none (.command (.notify closing))
      (.answered (.failures [⟨"clerk", .error "disk full"⟩, ⟨"porter", .wordless⟩])))]

/-- The list when everything has returned. -/
def closed : Session Unit BroadcastCommand BroadcastAnswer :=
  attended ["clerk", "porter", none] [0, 2] []
    (arrivals ++ .happened (.started none (.command (.notify closing))) :: errands ++ endings)

/-- An observer that fails by its script. When it is told for the first time, it enlists another one
that fails, takes the second observer off the list, and notifies everyone of its own change. -/
def clerk : Observer BroadcastCommand :=
  ⟨"clerk", [.subscribe ⟨none, [], 0, .panic "lost"⟩, .unsubscribe 1, .command (.notify aftermath)],
    1, .error "disk full"⟩

/-- An observer that breaks off by its script and leaves no text. -/
def porter : Observer BroadcastCommand :=
  ⟨"porter", [], 0, .wordlessPanic⟩

/-- The steps of a host. -/
def hours : List (Step BroadcastCommand) :=
  [.subscribe clerk, .subscribe porter, .command (.notify closing)]

/-- The list when the host notifies these observers. -/
def staffed : Session Unit BroadcastCommand BroadcastAnswer :=
  ((Session.start ()).moment perform hours 2).session

/-- What happens when it is notified. -/
def incidents : List (Happening BroadcastCommand BroadcastAnswer) :=
  [.started none (.command (.notify closing)), .told 0 closing,
    .started (some 0) (.subscribe ⟨none, [], 0, .panic "lost"⟩),
    .returned (some 0) (.subscribe ⟨none, [], 0, .panic "lost"⟩) (.subscribed 2),
    .started (some 0) (.unsubscribe 1), .returned (some 0) (.unsubscribe 1) (.unsubscribed true),
    .started (some 0) (.command (.notify aftermath)),
    .told 0 aftermath, .recorded (.observerFailed ⟨"clerk", .error "disk full"⟩),
    .told 2 aftermath, .recorded (.observerFailed ⟨"observer", .panic "lost"⟩),
    .returned (some 0) (.command (.notify aftermath))
      (.answered (.failures [⟨"clerk", .error "disk full"⟩, ⟨"observer", .panic "lost"⟩])),
    .recorded (.observerFailed ⟨"clerk", .error "disk full"⟩),
    .told 1 closing, .recorded (.observerFailed ⟨"porter", .wordless⟩),
    .returned none (.command (.notify closing))
      (.answered (.failures [⟨"clerk", .error "disk full"⟩, ⟨"porter", .wordless⟩]))]

/-- The host's steps come to their end after sixteen tasks. -/
theorem history_staffed :
    (staffed.run perform [.run none (.command (.notify closing))]).history =
      incidents.reverse ++ staffed.history := by
  have run : staffed.run perform [.run none (.command (.notify closing))] =
      ((Session.start ()).moment perform hours 16).session :=
    (Session.run_moment perform (.start ()) hours 2).trans (Session.eq_play_of_idle rfl).symm
  rw [run]
  rfl

/-- While the host's notification is delivered to two observers, the second of which has been taken
off the list, that of the first observer is delivered to itself and to a newcomer, whether observers
end as they please or by their scripts. -/
theorem notify_exact_in_callback :
    (DeliversTo [0, 1] host none closing [] ∧
      DeliversTo [0, 2] callback (some 0) aftermath
        [.conclude 0, .tell 1 closing, .reply none (.notify closing) .failures] ∧
      ∃ visits : List (Visit BroadcastCommand BroadcastAnswer),
        visits.map Visit.call = [(0, closing), (1, closing)] ∧
        Visit.failures visits = [⟨"clerk", .error "disk full"⟩, ⟨"porter", .wordless⟩] ∧
        visits.flatMap Visit.account <+: errands ++ endings) ∧
    DeliversTo [0, 1] staffed none closing [] ∧
      (staffed.run perform [.run none (.command (.notify closing))]).history =
        incidents.reverse ++ staffed.history ∧
      ∃ visits, Tells staffed.subscribers [0, 1] closing visits ∧
        visits.map Visit.outcome = [.error "disk full", .wordlessPanic] ∧
        Visit.failures visits = [⟨"clerk", .error "disk full"⟩, ⟨"porter", .wordless⟩] ∧
        incidents = (.happened (.started none (.command (.notify closing))) ::
          account none closing visits).filterMap Sight.happening? := by
  have opened : View.follow perform ⟨[], .start (), []⟩
      [.decide (.subscribe (guest "clerk")), .advance .success,
        .decide (.subscribe (guest "porter")), .advance .success,
        .decide (.command (.notify closing))] =
      some ⟨arrivals, host, [.run none (.command (.notify closing))]⟩ := rfl
  have called : View.follow perform
      ⟨[], (host.advance perform (.run none (.command (.notify closing)))).1,
        (host.advance perform (.run none (.command (.notify closing)))).2 ++ []⟩
      [.advance .success, .decide (.subscribe (guest none)), .advance .success,
        .decide (.unsubscribe 1), .advance .success, .decide (.command (.notify aftermath))] =
      some ⟨errands, callback, [.run (some 0) (.command (.notify aftermath)), .conclude 0,
        .tell 1 closing, .reply none (.notify closing) .failures]⟩ := rfl
  have ended : View.follow perform
      ⟨errands, callback, [.run (some 0) (.command (.notify aftermath)), .conclude 0,
        .tell 1 closing, .reply none (.notify closing) .failures]⟩
      [.advance .success, .advance .success, .advance .success, .advance .success,
        .advance (.panic "lost"), .advance .success, .advance (.error "disk full"),
        .advance .success, .advance .wordlessPanic, .advance .success] =
      some ⟨errands ++ endings, closed, []⟩ := rfl
  constructor
  · obtain ⟨-, -, delivers, later⟩ := notify_exact (Unfolds.begin.follow opened)
    have away := Unfolds.begin.follow called
    obtain ⟨-, -, again⟩ := later errands callback _ away
    refine ⟨delivers, again _ _ _ rfl, ?_⟩
    obtain ⟨visits, tells, whole | ⟨front, left, -⟩⟩ := delivers.always _ _ _ (away.follow ended)
    · refine ⟨visits, tells.calls, ?_, (List.prefix_append ..).trans whole⟩
      have answered := whole.subset (List.mem_append_right _ List.mem_cons_self)
      simpa [errands, endings, Visit.failures] using answered
    · exact absurd left (by simp)
  · obtain ⟨past, unfolds, -⟩ := (Course.moment perform (.start ()) hours 2).unfolds .empty
    have reached : Unfolds perform (.start ()) [] past staffed
        [.run none (.command (.notify closing))] := unfolds
    obtain ⟨-, -, delivers, -⟩ := notify_exact reached
    refine ⟨delivers, history_staffed, ?_⟩
    obtain ⟨visits, tells, scripted, shown⟩ := delivers.scripted
    have same : incidents = (.happened (.started none (.command (.notify closing))) ::
        account none closing visits).filterMap Sight.happening? :=
      List.reverse_inj.mp (List.append_cancel_right (history_staffed.symm.trans shown))
    have ends : (visits.map Visit.outcome).map some =
        [some (.error "disk full"), some .wordlessPanic] := calc
      _ = (visits.map Visit.call).map fun call =>
          (staffed.subscribers.roster[call.1]?).map (·.observer.outcome) := by
        rw [List.map_map, List.map_map]
        exact (List.map_congr_left scripted).symm
      _ = _ := by
        rw [tells.calls]
        rfl
    refine ⟨visits, tells, (List.map_inj_right fun _ _ => Option.some.inj).mp ends, ?_, same⟩
    have answered : .returned none (.command (.notify closing))
        (.answered (.failures (Visit.failures visits))) ∈ incidents := by
      rw [same]
      exact List.mem_filterMap.mpr
        ⟨_, List.mem_cons_of_mem _ (List.mem_append_right _ List.mem_cons_self), rfl⟩
    simpa [incidents] using answered

end Broadcast

end Switchboard
