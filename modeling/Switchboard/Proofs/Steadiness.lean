import Switchboard.Proofs.Delivery

/-!
# However observers end

An observer may end well, fail or break off. What is left of a session if one looks away from that
(`Session.steady`) are its state, its observers up to their ends, and all that happened but for the
records of failures. If answers do not depend on failures, the ends of observers have no influence
on the rest:

* **a step** — carrying out a task leaves the same behind as if all observers ended well
  (`Session.steady_advance`), and so do moments one after the other (`Moment.steady_next`);
* **a run** — programs that are alike but for the ends of observers go side by side, from moment to
  moment (`Session.steady_moment`), up to the end of both (`Session.ends_alike`), and at every
  moment the same has been called, told and answered (`Moment.alike_of_steady`).
-/

namespace Switchboard

variable {σ κ ρ : Type}

/-! ## Looking away from ends -/

mutual

/-- The same step, in which all observers end well. -/
def Step.steady : Step κ → Step κ
  | .command command => .command command
  | .subscribe observer => .subscribe observer.steady
  | .unsubscribe id => .unsubscribe id

/-- An observer that does the same and ends well, as do all that it subscribes. -/
def Observer.steady : Observer κ → Observer κ
  | ⟨name, steps, times, _⟩ => ⟨name, Step.allSteady steps, times, .success⟩

/-- The same steps, in which all observers end well. -/
def Step.allSteady : List (Step κ) → List (Step κ)
  | [] => []
  | step :: rest => step.steady :: Step.allSteady rest

end

theorem Step.allSteady_eq_map (steps : List (Step κ)) : allSteady steps = steps.map steady := by
  induction steps with
  | nil => rw [allSteady, List.map_nil]
  | cons step rest ih => rw [allSteady, ih, List.map_cons]

theorem Observer.steady_eq (o : Observer κ) :
    o.steady = ⟨o.name, o.steps.map Step.steady, o.times, .success⟩ := by
  cases o
  rw [steady, Step.allSteady_eq_map]

mutual

theorem Step.steady_steady : (step : Step κ) → step.steady.steady = step.steady
  | .command _ => by rw [Step.steady, Step.steady]
  | .subscribe observer => by rw [Step.steady, Step.steady, observer.steady_steady]
  | .unsubscribe _ => by rw [Step.steady, Step.steady]

theorem Observer.steady_steady : (o : Observer κ) → o.steady.steady = o.steady
  | ⟨_, steps, _, _⟩ => by rw [Observer.steady, Observer.steady, Step.allSteady_allSteady steps]

theorem Step.allSteady_allSteady : (steps : List (Step κ)) →
    Step.allSteady (Step.allSteady steps) = Step.allSteady steps
  | [] => by rw [Step.allSteady, Step.allSteady]
  | step :: rest => by
      rw [Step.allSteady, Step.allSteady, step.steady_steady, Step.allSteady_allSteady rest]

end

/-- The same subscriber, ending well. -/
def Subscriber.steady (s : Subscriber κ) : Subscriber κ :=
  { s with observer := s.observer.steady }

/-- The same observers, ending well. -/
def Subscribers.steady (l : Subscribers κ) : Subscribers κ :=
  { l with roster := l.roster.map Subscriber.steady }

/-- The same happening, but for how observers end; the record of a failure is left out. -/
def Happening.steady? : Happening κ ρ → Option (Happening κ ρ)
  | .started caller step => some (.started caller step.steady)
  | .recorded (.observerFailed _) => none
  | .recorded record => some (.recorded record)
  | .told observer change => some (.told observer change)
  | .returned caller step reply => some (.returned caller step.steady reply)

/-- The same task, in which all observers end well. -/
def Task.steady : Task κ ρ → Task κ ρ
  | .run caller step => .run caller step.steady
  | task => task

/-- What is left of a session if one looks away from how observers end. -/
def Session.steady (s : Session σ κ ρ) : Session σ κ ρ where
  state := s.state
  subscribers := s.subscribers.steady
  reports := []
  history := s.history.filterMap Happening.steady?

/-- What is left of a moment. -/
def Moment.steady (now : Moment σ κ ρ) : Moment σ κ ρ :=
  ⟨now.calls, now.session.steady, now.agenda.map Task.steady⟩

theorem Subscriber.steady_steady (s : Subscriber κ) : s.steady.steady = s.steady := by
  simp only [steady, Observer.steady_steady]

theorem Subscribers.steady_steady (l : Subscribers κ) : l.steady.steady = l.steady := by
  simp only [steady, List.map_map, Function.comp_def, Subscriber.steady_steady]

theorem Happening.steady?_bind_steady? (h : Happening κ ρ) :
    h.steady?.bind steady? = h.steady? := by
  cases h with
  | started caller step => simp only [steady?, Option.bind_some, Step.steady_steady]
  | recorded record => cases record <;> rfl
  | told observer change => rfl
  | returned caller step reply => simp only [steady?, Option.bind_some, Step.steady_steady]

theorem Happening.filterMap_filterMap_steady? (history : List (Happening κ ρ)) :
    (history.filterMap steady?).filterMap steady? = history.filterMap steady? := by
  simp only [List.filterMap_filterMap, steady?_bind_steady?]

theorem Subscriber.ready_steady (s : Subscriber κ) : s.steady.ready = s.ready := by
  simp [ready, steady, Observer.steady_eq]

theorem Subscribers.steady_subscribe (l : Subscribers κ) (o : Observer κ) :
    (l.subscribe o).1.steady = (l.steady.subscribe o.steady).1.steady := by
  have newcomer : (⟨o.steady, 0⟩ : Subscriber κ) = Subscriber.steady ⟨o, 0⟩ := rfl
  simp only [subscribe, steady, newcomer, List.map_append, List.map_map, Function.comp_def,
    List.map_cons, List.map_nil, Subscriber.steady_steady, List.length_map]

theorem Subscribers.steady_start (l : Subscribers κ) (id : Nat) :
    (l.start id).steady = (l.steady.start id).steady := by
  have same : (l.roster.modify id Subscriber.started).map Subscriber.steady =
      ((l.roster.map Subscriber.steady).modify id Subscriber.started).map Subscriber.steady := by
    apply List.ext_getElem?
    intro place
    simp only [List.getElem?_map, List.getElem?_modify]
    cases l.roster[place]? with
    | none => simp
    | some subscriber =>
        by_cases own : id = place
        · simp [own, Subscriber.steady, Subscriber.started, Observer.steady_steady]
        · simp [own, Subscriber.steady_steady]
  rw [steady, start, same]
  rfl

theorem Task.steady_runAll (caller : Option Nat) (steps : List (Step κ)) :
    (runAll caller steps : List (Task κ ρ)).map steady = runAll caller (steps.map Step.steady) := by
  simp [runAll, steady]

theorem Task.steady_steady (task : Task κ ρ) : task.steady.steady = task.steady := by
  cases task with
  | run caller step => simp only [steady, Step.steady_steady]
  | _ => rfl

/-! ## A task -/

namespace Session

theorem steady_congr {s s' : Session σ κ ρ} (state : s.state = s'.state)
    (subscribers : s.subscribers.steady = s'.subscribers.steady)
    (history : s.history.filterMap Happening.steady? = s'.history.filterMap Happening.steady?) :
    s.steady = s'.steady := by
  simp only [steady, state, subscribers, history]

/-- What happens to a session happens to what is left of it. -/
theorem steady?_append (s : Session σ κ ρ) (news : List (Happening κ ρ)) :
    (news ++ s.history).filterMap Happening.steady? =
      (news.filterMap Happening.steady? ++ s.steady.history).filterMap Happening.steady? := by
  simp only [List.filterMap_append, steady, Happening.filterMap_filterMap_steady?]

/-- An observer that is told leaves the same behind as one that ends well. -/
theorem steady_tell (s : Session σ κ ρ) (id : Nat) (change : Change) :
    (s.tell id change).1.steady = (s.steady.tell id change).1.steady ∧
      (s.tell id change).2.map Task.steady = (s.steady.tell id change).2.map Task.steady := by
  have found : s.steady.subscribers.roster[id]? =
      (s.subscribers.roster[id]?).map Subscriber.steady := List.getElem?_map
  have heard := s.steady?_append [.told id change]
  have kept : s.subscribers.steady = s.steady.subscribers.steady :=
    s.subscribers.steady_steady.symm
  unfold tell
  dsimp only [note]
  rw [found]
  cases s.subscribers.roster[id]? with
  | none => exact ⟨steady_congr rfl kept heard, rfl⟩
  | some subscriber =>
      dsimp only [Option.map_some]
      rw [Subscriber.ready_steady]
      by_cases due : subscriber.ready = true
      · -- The same script is started, up to the ends of those that it subscribes.
        rw [if_pos due, if_pos due]
        constructor
        · refine steady_congr rfl ?_ heard
          exact s.subscribers.steady_start id
        · simp only [List.map_append, Task.steady_runAll, Subscriber.steady, Observer.steady_eq,
            List.map_map, Function.comp_def, Step.steady_steady]
      · rw [if_neg due, if_neg due]
        exact ⟨steady_congr rfl kept heard, rfl⟩

/-- The end of an observer leaves nothing behind but its failure. -/
theorem steady_conclude (s : Session σ κ ρ) (id : Nat) : (s.conclude id).steady = s.steady := by
  rcases s.conclude_cases id with same | ⟨failure, reported⟩
  · rw [same]
  · rw [reported]
    rfl

theorem steady_steady (s : Session σ κ ρ) : s.steady.steady = s.steady :=
  steady_congr rfl s.subscribers.steady_steady (Happening.filterMap_filterMap_steady? _)

/-- **A step.** A task leaves the same behind as if all observers ended well. -/
theorem steady_advance (system : System σ κ ρ) (s : Session σ κ ρ) (task : Task κ ρ)
    (uniform : task.Uniform) :
    s.calls system task = s.steady.calls system task.steady ∧
      (s.advance system task).1.steady = (s.steady.advance system task.steady).1.steady ∧
      (s.advance system task).2.map Task.steady =
        (s.steady.advance system task.steady).2.map Task.steady := by
  have kept : s.subscribers.steady = s.steady.subscribers.steady :=
    s.subscribers.steady_steady.symm
  cases task with
  | run caller step =>
      cases step with
      | command command =>
          rw [Task.steady, Step.steady]
          refine ⟨rfl, ?_, rfl⟩
          rw [advance_command, advance_command]
          refine steady_congr rfl kept ?_
          simp only [List.filterMap_append, List.filterMap_cons, Happening.steady?, steady,
            Step.steady, Happening.filterMap_filterMap_steady?, Subscribers.size,
            Subscribers.steady]
      | subscribe observer =>
          rw [Task.steady, Step.steady]
          refine ⟨rfl, ?_, rfl⟩
          have numbered : s.subscribers.roster.length = s.steady.subscribers.roster.length :=
            (List.length_map _).symm
          have happened := s.steady?_append [.returned caller (.subscribe observer)
            (.subscribed s.subscribers.roster.length), .started caller (.subscribe observer)]
          refine steady_congr rfl (s.subscribers.steady_subscribe observer) (happened.trans ?_)
          rw [numbered]
          rfl
      | unsubscribe id =>
          rw [Task.steady, Step.steady]
          refine ⟨rfl, steady_congr rfl ?_ ?_, rfl⟩
          · exact (s.subscribers.unsubscribe id).1.steady_steady.symm
          · exact s.steady?_append [.returned caller (.unsubscribe id) _, .started caller _]
  | tell id change => exact ⟨rfl, s.steady_tell id change⟩
  | conclude id =>
      refine ⟨rfl, ?_, rfl⟩
      show (s.conclude id).steady = (s.steady.conclude id).steady
      rw [steady_conclude, steady_conclude, steady_steady]
  | reply caller command answer =>
      refine ⟨rfl, ?_, rfl⟩
      have same : answer s.report = answer s.steady.report := uniform s.report
      show (s.reply caller command answer).steady = (s.steady.reply caller command answer).steady
      rw [reply, reply, same]
      exact steady_congr rfl kept (s.steady?_append [.returned caller (.command command) _])

end Session

variable {system : System σ κ ρ} {now now' : Moment σ κ ρ} {start : Session σ κ ρ}
  {steps steps' : List (Step κ)}

/-- A moment is followed by what follows if all observers end well. -/
theorem Moment.steady_next (uniform : ∀ task ∈ now.agenda, task.Uniform) :
    (now.next system).steady = (now.steady.next system).steady := by
  obtain ⟨calls, s, agenda⟩ := now
  cases agenda with
  | nil => simp only [next, steady, Session.steady_steady, List.map_nil]
  | cons task rest =>
      obtain ⟨made, left, more⟩ := s.steady_advance system task (uniform task List.mem_cons_self)
      simp only [next, steady, made, left, more, List.map_cons, List.map_append, List.map_map,
        Function.comp_def, Task.steady_steady]

/-! ## A run -/

namespace Session

/-- **A run.** Programs that are alike but for the ends of observers go side by side. -/
theorem steady_moment (uniform : system.Uniform) (start : Session σ κ ρ)
    (alike : steps.map Step.steady = steps'.map Step.steady) (count : Nat) :
    (start.moment system steps count).steady = (start.moment system steps' count).steady := by
  induction count with
  | zero => simp only [moment, Moment.steady, Task.steady_runAll, alike]
  | succ count ih =>
      have course := Course.moment system start steps count
      have course' := Course.moment system start steps' count
      rw [moment, moment, Moment.steady_next (course.reply_uniform uniform),
        Moment.steady_next (course'.reply_uniform uniform), ih]

/-- Programs that are alike but for the ends of observers end at the same moment. -/
theorem ends_alike (uniform : system.Uniform) (start : Session σ κ ρ)
    (alike : steps.map Step.steady = steps'.map Step.steady) :
    ∃ count calls, start.moment system steps count = ⟨calls, start.play system steps, []⟩ ∧
      start.moment system steps' count = ⟨calls, start.play system steps', []⟩ := by
  obtain ⟨count, calls, ended⟩ := start.exists_moment_eq_play system steps
  have same := steady_moment uniform start alike count
  rw [ended] at same
  have called := congrArg Moment.calls same
  have idle := List.map_eq_nil_iff.mp (congrArg Moment.agenda same).symm
  refine ⟨count, calls, ended, ?_⟩
  rw [show calls = (start.moment system steps' count).calls from called, ← eq_play_of_idle idle,
    ← idle]

end Session

/-! ## What is alike -/

/-- Looking away from ends does not hide who is told of what. -/
theorem Happening.steady?_bind_toldTo (id : Nat) (h : Happening κ ρ) :
    h.steady?.bind (toldTo id) = h.toldTo id := by
  cases h with
  | recorded record => cases record <;> rfl
  | _ => rfl

/-- Nor does it hide which calls return, and with which answers. -/
theorem Happening.steady?_bind_outcome? (h : Happening κ ρ) :
    h.steady?.bind outcome? = h.outcome? := by
  cases h with
  | recorded record => cases record <;> rfl
  | returned caller step reply => cases step <;> rfl
  | _ => rfl

/-- Two moments that only differ in how observers end: the same is the state, the same observers
are in force, the same calls were made with the same answers, everyone was told the same, and all
that happened is the same but for the records of failures. -/
structure Moment.Alike (now now' : Moment σ κ ρ) : Prop where
  state : now.session.state = now'.session.state
  subscribed : now.session.subscribers.active = now'.session.subscribers.active
  called : now.calls = now'.calls
  told : ∀ id, now.session.heard id = now'.session.heard id
  answered : now.session.history.filterMap Happening.outcome? =
    now'.session.history.filterMap Happening.outcome?
  happened : now.session.history.filterMap Happening.steady? =
    now'.session.history.filterMap Happening.steady?

theorem Moment.alike_of_steady (same : now.steady = now'.steady) : now.Alike now' := by
  have called := congrArg Moment.calls same
  have state := congrArg (fun left => left.session.state) same
  have subscribed := congrArg (fun left => left.session.subscribers.active) same
  have happened : now.session.history.filterMap Happening.steady? =
      now'.session.history.filterMap Happening.steady? :=
    congrArg (fun left => left.session.history) same
  refine ⟨state, subscribed, called, ?_, ?_, happened⟩
  · intro id
    have told := congrArg (List.filterMap (Happening.toldTo id)) happened
    simp only [List.filterMap_filterMap, Happening.steady?_bind_toldTo] at told
    rw [Session.heard, Session.heard, told]
  · have answered := congrArg (List.filterMap Happening.outcome?) happened
    simpa only [List.filterMap_filterMap, Happening.steady?_bind_outcome?] using answered

end Switchboard
