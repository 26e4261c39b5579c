import Switchboard.Proofs.Course

/-!
# Transcripts

All that happens when a session carries out an agenda (`Session.transcript`), and the answers in it
(`Session.outcomes`). What has happened before is of no consequence for any task
(`Session.advance_since`). A command that makes no change is answered at once
(`Session.run_unannounced`); any command is answered in the end, and just as it was when it took
effect (`Session.outcome_mem`).
-/

namespace Switchboard

variable {σ κ ρ : Type}

namespace Session

/-- A session as it stands, with nothing behind it. -/
def afresh (s : Session σ κ ρ) : Session σ κ ρ :=
  { s with history := [] }

/-- All that happens when a session carries out an agenda, in order. -/
def transcript (system : System σ κ ρ) (s : Session σ κ ρ) (agenda : List (Task κ ρ)) :
    List (Happening κ ρ) :=
  (s.afresh.run system agenda).history.reverse

/-- The callers and the answers of all commands that return while an agenda is carried out. -/
def outcomes (system : System σ κ ρ) (s : Session σ κ ρ) (agenda : List (Task κ ρ)) :
    List (Option Nat × κ × ρ) :=
  (s.transcript system agenda).filterMap Happening.outcome?

/-- A session that has more behind it. -/
def since (past : List (Happening κ ρ)) (s : Session σ κ ρ) : Session σ κ ρ :=
  { s with history := s.history ++ past }

/-- The past has no influence on how an observer ends. -/
theorem concludeAs_since (s : Session σ κ ρ) (past : List (Happening κ ρ)) (id : Nat)
    (outcome : Outcome) :
    (s.since past).concludeAs id outcome = (s.concludeAs id outcome).since past := by
  unfold concludeAs
  simp only [since]
  split
  · rfl
  · split <;> rfl

theorem conclude_since (s : Session σ κ ρ) (past : List (Happening κ ρ)) (id : Nat) :
    (s.since past).conclude id = (s.conclude id).since past := by
  have same : (s.since past).subscribers.outcome id = s.subscribers.outcome id := rfl
  rw [conclude, conclude, same]
  cases s.subscribers.outcome id with
  | none => rfl
  | some outcome => exact s.concludeAs_since past id outcome

/-- The past has no influence on a task. -/
theorem advance_since (system : System σ κ ρ) (past : List (Happening κ ρ)) (s : Session σ κ ρ)
    (task : Task κ ρ) :
    (s.since past).advance system task =
      ((s.advance system task).1.since past, (s.advance system task).2) := by
  cases task with
  | run caller step =>
      cases step with
      | command command =>
          rw [advance_command, advance_command]
          simp only [since, List.append_assoc, List.cons_append]
      | subscribe observer => rfl
      | unsubscribe id => rfl
  | tell id change =>
      show (s.since past).tell id change = ((s.tell id change).1.since past, (s.tell id change).2)
      unfold tell
      simp only [since, note]
      split
      · rfl
      · split <;> rfl
  | conclude id =>
      rw [advance, advance, conclude_since]
  | reply caller command answer => rfl

/-- What has happened stays in the history. -/
theorem history_subset_advance (system : System σ κ ρ) (s : Session σ κ ρ) (task : Task κ ρ) :
    s.history ⊆ (s.advance system task).1.history := by
  have fresh : s = s.afresh.since s.history := rfl
  rw [fresh, advance_since]
  exact List.subset_append_right ..

/-- A command of which nobody is told is answered at once. -/
theorem run_untold {system : System σ κ ρ} {s : Session σ κ ρ} {command : κ}
    (untold : s.subscribers.active = [] ∨
      (system s.subscribers.size s.state command).change = none) (caller : Option Nat) :
    s.run system [.run caller (.command command)] =
      { s with
        state := (system s.subscribers.size s.state command).state
        history := .returned caller (.command command)
            (.answered ((system s.subscribers.size s.state command).answer [])) ::
          (((system s.subscribers.size s.state command).records.map .recorded).reverse ++
            .started caller (.command command) :: s.history) } := by
  have nobody : Task.tellAll s.subscribers.active
      (system s.subscribers.size s.state command).change = ([] : List (Task κ ρ)) := by
    rcases untold with unobserved | unannounced
    · rw [unobserved]
      cases (system s.subscribers.size s.state command).change <;> rfl
    · rw [unannounced]
      rfl
  rw [run_cons, advance_command, nobody]
  show Session.run system _ [_] = _
  rw [run_cons]
  exact run_nil ..

/-- A command that makes no change is answered at once. -/
theorem run_unannounced {system : System σ κ ρ} {s : Session σ κ ρ} {command : κ}
    (unannounced : (system s.subscribers.size s.state command).change = none)
    (caller : Option Nat) :
    s.run system [.run caller (.command command)] =
      { s with
        state := (system s.subscribers.size s.state command).state
        history := .returned caller (.command command)
            (.answered ((system s.subscribers.size s.state command).answer [])) ::
          (((system s.subscribers.size s.state command).records.map .recorded).reverse ++
            .started caller (.command command) :: s.history) } :=
  run_untold (.inr unannounced) caller

/-- What happens when a command makes no change: it is started, its records are written, and it is
answered. -/
theorem transcript_unannounced {system : System σ κ ρ} {s : Session σ κ ρ} {command : κ}
    (unannounced : (system s.subscribers.size s.state command).change = none)
    (caller : Option Nat) :
    s.transcript system [.run caller (.command command)] =
      .started caller (.command command) ::
        ((system s.subscribers.size s.state command).records.map .recorded ++
          [.returned caller (.command command)
            (.answered ((system s.subscribers.size s.state command).answer []))]) := by
  rw [transcript, run_unannounced (s := s.afresh) unannounced]
  simp only [afresh, List.reverse_cons, List.reverse_append, List.reverse_reverse, List.reverse_nil,
    List.nil_append, List.cons_append]

/-- The one outcome of a command that makes no change. -/
theorem outcomes_unannounced {system : System σ κ ρ} {s : Session σ κ ρ} {command : κ}
    (unannounced : (system s.subscribers.size s.state command).change = none)
    (caller : Option Nat) :
    s.outcomes system [.run caller (.command command)] =
      [(caller, command, (system s.subscribers.size s.state command).answer [])] := by
  rw [outcomes, transcript, List.filterMap_reverse, run_unannounced (s := s.afresh) unannounced,
    List.filterMap_cons, List.filterMap_append, filterMap_outcome_recorded]
  rfl

/-- Every command of a host is answered, and as it was when it took effect. -/
theorem outcome_mem {system : System σ κ ρ} (uniform : system.Uniform) (s : Session σ κ ρ)
    (command : κ) :
    (none, command, (system s.subscribers.size s.state command).answer []) ∈
      s.outcomes system [.run none (.command command)] := by
  have begun : Course system s.afresh [] s.afresh [.run none (.command command)] :=
    .decide (.command command) .begin rfl
  obtain ⟨later, course⟩ := begun.advance.run
  have answered := course.outcomes_perm uniform rfl
  rw [outcomes, transcript, run_cons, List.append_nil, List.filterMap_reverse, List.mem_reverse]
  refine answered.mem_iff.mp (List.mem_map.mpr
    ⟨.of system s.subscribers.size s.state none command, ?_, rfl⟩)
  exact List.mem_append_right later List.mem_cons_self

end Session

/-- Every call was started. -/
theorem Course.started_mem {system : System σ κ ρ} {start s : Session σ κ ρ}
    {calls : List (Call κ ρ)} {tasks : List (Task κ ρ)}
    (course : Course system start calls s tasks) {call : Call κ ρ} (made : call ∈ calls) :
    .started call.caller (.command call.command) ∈ s.history := by
  induction course with
  | begin => exact absurd made List.not_mem_nil
  | decide _ _ _ ih => exact ih made
  | @advance calls s task rest course ih =>
      rcases List.mem_append.mp made with now | before
      · obtain ⟨caller, command, rfl, rfl⟩ := Session.mem_calls now
        exact List.mem_append_right _ List.mem_cons_self
      · exact s.history_subset_advance system task (ih before)

/-- If no observer has started a command, all calls are those of the host. -/
theorem Course.caller_eq_none {system : System σ κ ρ} {start s : Session σ κ ρ}
    {calls : List (Call κ ρ)} {tasks : List (Task κ ρ)}
    (course : Course system start calls s tasks)
    (watching : ∀ id command, .started (some id) (.command command) ∉ s.history) :
    ∀ call ∈ calls, call.caller = none := by
  intro call made
  have started := course.started_mem made
  cases caller : call.caller with
  | none => rfl
  | some id =>
      rw [caller] at started
      exact absurd started (watching id call.command)

end Switchboard
