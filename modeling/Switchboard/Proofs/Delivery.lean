import Switchboard.Proofs.Course

/-!
# What an observer hears

The observers in force are kept in the order of their ids (`Course.ordered`), so whoever
subscribed before an observer is told before it. If none of those makes a change while it is
told, the observer misses nothing: what it has heard, followed by what it is about to be told,
are the changes committed since it subscribed, in the order in which they were committed
(`Course.heard_append_awaiting`). At most one of them is outstanding, and until it is delivered
only the observers ahead are at work (`Task.Prompt`).
-/

namespace Switchboard

variable {σ κ ρ : Type}

/-! ## Ids -/

/-- The observers in force stand in the order of their ids, and every id has been given out. -/
structure Subscribers.Ordered (l : Subscribers κ) : Prop where
  ascending : l.active.Pairwise (· < ·)
  known : ∀ id ∈ l.active, id < l.roster.length

namespace Subscribers.Ordered

variable {l : Subscribers κ}

theorem empty : (Subscribers.empty : Subscribers κ).Ordered := by
  constructor
  · exact .nil
  · intro id absent
    exact absurd absent List.not_mem_nil

theorem subscribe (ordered : l.Ordered) (o : Observer κ) : (l.subscribe o).1.Ordered := by
  constructor
  · -- The new id is the length of the roster, and all others are below it.
    refine List.pairwise_append.mpr ⟨ordered.ascending, List.pairwise_singleton _ _, ?_⟩
    intro id old new last
    rw [List.mem_singleton.mp last]
    exact ordered.known id old
  · intro id member
    show id < (l.roster ++ [_]).length
    rw [List.length_append]
    rcases List.mem_append.mp member with old | last
    · exact Nat.lt_succ_of_lt (ordered.known id old)
    · rw [List.mem_singleton.mp last]
      exact Nat.lt_succ_self _

theorem unsubscribe (ordered : l.Ordered) (id : Nat) : (l.unsubscribe id).1.Ordered := by
  constructor
  · exact ordered.ascending.filter _
  · intro other left
    exact ordered.known other (List.mem_filter.mp left).1

theorem start (ordered : l.Ordered) (id : Nat) : (l.start id).Ordered := by
  constructor
  · exact ordered.ascending
  · intro other member
    show other < (l.roster.modify id Subscriber.started).length
    rw [List.length_modify]
    exact ordered.known other member

end Subscribers.Ordered

/-- What a task does to the observers. -/
theorem Session.subscribers_advance (system : System σ κ ρ) (s : Session σ κ ρ)
    (task : Task κ ρ) :
    (s.advance system task).1.subscribers = s.subscribers ∨
    (∃ observer, (s.advance system task).1.subscribers =
      (s.subscribers.subscribe observer).1) ∨
    (∃ id, (s.advance system task).1.subscribers = (s.subscribers.unsubscribe id).1) ∨
    (∃ id, (s.advance system task).1.subscribers = s.subscribers.start id) := by
  cases task with
  | run caller step =>
      cases step with
      | command command => exact .inl rfl
      | subscribe observer => exact .inr (.inl ⟨observer, rfl⟩)
      | unsubscribe id => exact .inr (.inr (.inl ⟨id, rfl⟩))
  | tell id change =>
      obtain ⟨steps, subscribers, told, same | started⟩ := s.tell_cases id change
      · refine .inl ?_
        rw [advance, told, same]
      · refine .inr (.inr (.inr ⟨id, ?_⟩))
        rw [advance, told, started]
  | conclude id => exact .inl (s.subscribers_conclude id)
  | reply caller command answer => exact .inl rfl

theorem Session.ordered_advance {system : System σ κ ρ} {s : Session σ κ ρ}
    (ordered : s.subscribers.Ordered) (task : Task κ ρ) :
    (s.advance system task).1.subscribers.Ordered := by
  rcases s.subscribers_advance system task with h | ⟨observer, h⟩ | ⟨id, h⟩ | ⟨id, h⟩
  · rw [h]
    exact ordered
  · rw [h]
    exact ordered.subscribe observer
  · rw [h]
    exact ordered.unsubscribe id
  · rw [h]
    exact ordered.start id

/-- Ids are never taken back. -/
theorem Session.roster_advance (system : System σ κ ρ) (s : Session σ κ ρ) (task : Task κ ρ) :
    s.subscribers.roster.length ≤ (s.advance system task).1.subscribers.roster.length := by
  rcases s.subscribers_advance system task with h | ⟨observer, h⟩ | ⟨id, h⟩ | ⟨id, h⟩
  · exact Nat.le_of_eq (by rw [h])
  · rw [h]
    show _ ≤ (s.subscribers.roster ++ [_]).length
    rw [List.length_append]
    exact Nat.le_add_right _ _
  · exact Nat.le_of_eq (by rw [h]; rfl)
  · rw [h]
    show _ ≤ (s.subscribers.roster.modify id Subscriber.started).length
    exact Nat.le_of_eq (List.length_modify ..).symm

/-- An observer with an id that was given out before does not come back. -/
theorem Session.active_of_advance {system : System σ κ ρ} {s : Session σ κ ρ} {task : Task κ ρ}
    {id : Nat} (given : id < s.subscribers.roster.length)
    (later : id ∈ (s.advance system task).1.subscribers.active) :
    id ∈ s.subscribers.active := by
  rcases s.subscribers_advance system task with h | ⟨observer, h⟩ | ⟨other, h⟩ | ⟨other, h⟩
  · rwa [h] at later
  · rw [h] at later
    rcases List.mem_append.mp later with old | last
    · exact old
    · -- A newcomer has an id that was not given out before.
      rw [List.mem_singleton.mp last] at given
      exact absurd given (Nat.lt_irrefl _)
  · rw [h] at later
    exact (List.mem_filter.mp later).1
  · rwa [h] at later

variable {system : System σ κ ρ} {start s : Session σ κ ρ} {calls : List (Call κ ρ)}
  {tasks : List (Task κ ρ)}

/-- The observers in force stand in the order of their ids on every course. -/
theorem Course.ordered (ordered : start.subscribers.Ordered)
    (course : Course system start calls s tasks) : s.subscribers.Ordered := by
  induction course with
  | begin => exact ordered
  | decide _ _ _ ih => exact ih
  | @advance _ _ task _ _ ih => exact Session.ordered_advance ih task

/-- Ids given out before a course are known on all of it. -/
theorem Course.roster_le (course : Course system start calls s tasks) :
    start.subscribers.roster.length ≤ s.subscribers.roster.length := by
  induction course with
  | begin => exact Nat.le_refl _
  | decide _ _ _ ih => exact ih
  | @advance _ s task _ _ ih => exact Nat.le_trans ih (s.roster_advance system task)

/-! ## Hearing and awaiting -/

/-- The change that an observer was told of, if this is what happened. -/
def Happening.toldTo (id : Nat) : Happening κ ρ → Option Change
  | .told observer change => if observer = id then some change else none
  | _ => none

/-- The change that an observer is to be told of, if this is the task. -/
def Task.tellingTo (id : Nat) : Task κ ρ → Option Change
  | .tell observer change => if observer = id then some change else none
  | _ => none

/-- The changes that an observer has been told of, in order. -/
def Session.heard (s : Session σ κ ρ) (id : Nat) : List Change :=
  (s.history.filterMap (Happening.toldTo id)).reverse

/-- The changes that an observer is still to be told of, in order. -/
def Task.awaiting (id : Nat) (tasks : List (Task κ ρ)) : List Change :=
  tasks.filterMap (tellingTo id)

/-- The changes that were made by some calls, latest first, in the order they were made in. -/
def Call.changes (calls : List (Call κ ρ)) : List Change :=
  (calls.filterMap Call.change).reverse

theorem Task.awaiting_append (id : Nat) (first second : List (Task κ ρ)) :
    awaiting id (first ++ second) = awaiting id first ++ awaiting id second :=
  List.filterMap_append

theorem Task.awaiting_cons (id : Nat) (task : Task κ ρ) (rest : List (Task κ ρ)) :
    awaiting id (task :: rest) = awaiting id [task] ++ awaiting id rest :=
  awaiting_append id [task] rest

theorem Call.changes_append (later earlier : List (Call κ ρ)) :
    changes (later ++ earlier) = changes earlier ++ changes later := by
  rw [changes, List.filterMap_append, List.reverse_append]
  rfl

theorem Call.changes_eq_nil {calls : List (Call κ ρ)}
    (idle : ∀ call ∈ calls, call.change = none) : changes calls = [] := by
  rw [changes, List.filterMap_eq_nil_iff.mpr idle, List.reverse_nil]

/-- Only tasks that tell it make an observer hear. -/
theorem Session.heard_advance (system : System σ κ ρ) (s : Session σ κ ρ) (task : Task κ ρ)
    (id : Nat) : (s.advance system task).1.heard id = s.heard id ++ Task.awaiting id [task] := by
  cases task with
  | run caller step =>
      rw [show Task.awaiting id [Task.run caller step] = [] from rfl, List.append_nil]
      cases step with
      | command command =>
          rw [advance_command, heard, List.filterMap_append]
          have unheard : ((system s.subscribers.size s.state command).records.map
              (.recorded : LogRecord → Happening κ ρ)).reverse.filterMap
                (Happening.toldTo id) = [] := by
            rw [List.filterMap_eq_nil_iff]
            intro happening written
            obtain ⟨record, -, rfl⟩ := List.mem_map.mp (List.mem_reverse.mp written)
            rfl
          rw [unheard]
          rfl
      | subscribe observer => rfl
      | unsubscribe other => rfl
  | tell other change =>
      obtain ⟨steps, subscribers, told, -⟩ := s.tell_cases other change
      rw [advance, told]
      by_cases same : other = id
      · simp [heard, Task.awaiting, Task.tellingTo, Happening.toldTo, same]
      · simp [heard, Task.awaiting, Task.tellingTo, Happening.toldTo, same]
  | conclude other =>
      rw [show Task.awaiting id [(Task.conclude other : Task κ ρ)] = [] from rfl,
        List.append_nil, advance]
      rcases s.conclude_cases other with same | ⟨failure, reported⟩
      · rw [same]
      · rw [reported]
        rfl
  | reply caller command answer => exact (List.append_nil _).symm

theorem Task.awaiting_runAll (id : Nat) (caller : Option Nat) (steps : List (Step κ)) :
    awaiting id (runAll caller steps : List (Task κ ρ)) = [] := by
  apply List.filterMap_eq_nil_iff.mpr
  intro task planned
  obtain ⟨step, -, rfl⟩ := List.mem_map.mp planned
  rfl

theorem Task.tellAll_append (first second : List Nat) (change : Option Change) :
    (tellAll (first ++ second) change : List (Task κ ρ)) =
      tellAll first change ++ tellAll second change := by
  cases change with
  | none => rfl
  | some announced => exact List.map_append

/-- Telling others leaves an observer nothing to be told. -/
theorem Task.awaiting_tellAll_of_not_mem {id : Nat} {observers : List Nat}
    (absent : id ∉ observers) (change : Option Change) :
    awaiting id (tellAll observers change : List (Task κ ρ)) = [] := by
  apply List.filterMap_eq_nil_iff.mpr
  intro task told
  obtain ⟨other, member, announced, -, rfl⟩ := mem_tellAll.mp told
  apply if_neg
  intro same
  exact absent (same ▸ member)

theorem Task.awaiting_tell (id : Nat) (change : Change) :
    awaiting id [(tell id change : Task κ ρ)] = [change] := by
  simp [awaiting, tellingTo]

theorem Task.awaiting_tellAll_self (id : Nat) (change : Option Change) :
    awaiting id (tellAll [id] change : List (Task κ ρ)) = change.toList := by
  cases change with
  | none => rfl
  | some announced => exact awaiting_tell id announced

/-- An observer in force divides the others into those ahead of it and those behind. -/
theorem Subscribers.Ordered.split {l : Subscribers κ} (ordered : l.Ordered) {id : Nat}
    (member : id ∈ l.active) :
    ∃ ahead behind, l.active = ahead ++ ([id] ++ behind) ∧ (∀ other ∈ ahead, other < id) ∧
      id ∉ behind := by
  obtain ⟨ahead, behind, split⟩ := List.append_of_mem member
  have ascending := ordered.ascending
  rw [split, List.pairwise_append, List.pairwise_cons] at ascending
  refine ⟨ahead, behind, split, ?_, ?_⟩
  · intro other before
    exact ascending.2.2 other before id List.mem_cons_self
  · intro again
    exact Nat.lt_irrefl _ (ascending.2.1.1 id again)

/-- An observer in force is told of a change once. -/
theorem Task.awaiting_tellAll {l : Subscribers κ} (ordered : l.Ordered) {id : Nat}
    (member : id ∈ l.active) (change : Option Change) :
    awaiting id (tellAll l.active change : List (Task κ ρ)) = change.toList := by
  obtain ⟨ahead, behind, split, before, after⟩ := ordered.split member
  have unmentioned : id ∉ ahead := by
    intro again
    exact Nat.lt_irrefl _ (before id again)
  rw [split, tellAll_append, tellAll_append, awaiting_append, awaiting_append,
    awaiting_tellAll_of_not_mem unmentioned, awaiting_tellAll_self,
    awaiting_tellAll_of_not_mem after, List.append_nil, List.nil_append]

theorem Call.changes_singleton (call : Call κ ρ) : changes [call] = call.change.toList := by
  unfold changes
  cases change : call.change with
  | none => simp [change]
  | some announced => simp [change]

/-- A call leaves the change that it made to be told to every observer in force, and no other
task leaves anything to be told. -/
theorem Session.awaiting_advance {system : System σ κ ρ} {s : Session σ κ ρ} {id : Nat}
    (ordered : s.subscribers.Ordered) (member : id ∈ s.subscribers.active) (task : Task κ ρ) :
    Task.awaiting id (s.advance system task).2 = Call.changes (s.calls system task) := by
  cases task with
  | run caller step =>
      cases step with
      | command command =>
          rw [advance_command, Task.awaiting_append, Task.awaiting_tellAll ordered member, calls,
            Call.changes_singleton]
          exact List.append_nil _
      | subscribe observer => rfl
      | unsubscribe other => rfl
  | tell other change =>
      obtain ⟨steps, subscribers, told, -⟩ := s.tell_cases other change
      rw [advance, told, Task.awaiting_append, Task.awaiting_runAll]
      rfl
  | conclude other => rfl
  | reply caller command answer => rfl

/-! ## Prompt delivery -/

/-- The task is part of the callback of an observer with an id below `id`, or tells one. -/
def Task.Ahead (id : Nat) : Task κ ρ → Prop
  | .run caller _ => ∃ other, caller = some other ∧ other < id
  | .tell other _ => other < id
  | .conclude other => other < id
  | .reply caller .. => ∃ other, caller = some other ∧ other < id

/-- On this agenda, an observer has at most one change to be told of, and until then only those
ahead of it are at work. -/
inductive Task.Prompt (id : Nat) : List (Task κ ρ) → Prop
  | idle {agenda} : awaiting id agenda = [] → Prompt id agenda
  | due {change rest} : awaiting id rest = [] → Prompt id (.tell id change :: rest)
  | ahead {task rest} : task.Ahead id → Prompt id rest → Prompt id (task :: rest)

/-- The change that an observer is about to be told of is the only one. -/
theorem Task.Prompt.alone {id : Nat} {change : Change} {rest : List (Task κ ρ)}
    (prompt : Prompt id (.tell id change :: rest)) : awaiting id rest = [] := by
  cases prompt with
  | idle nothing =>
      rw [awaiting_cons] at nothing
      exact (List.append_eq_nil_iff.mp nothing).2
  | due later => exact later
  | ahead ahead _ => exact absurd ahead (Nat.lt_irrefl id)

theorem Task.Prompt.append {id : Nat} {first rest : List (Task κ ρ)}
    (ahead : ∀ task ∈ first, task.Ahead id) (prompt : Prompt id rest) :
    Prompt id (first ++ rest) := by
  induction first with
  | nil => exact prompt
  | cons task tail ih =>
      apply Prompt.ahead (ahead task List.mem_cons_self)
      apply ih
      intro other later
      exact ahead other (List.mem_cons_of_mem _ later)

/-- Telling everyone of a change is prompt: those ahead come first, and only once. -/
theorem Task.Prompt.tellAll {l : Subscribers κ} (ordered : l.Ordered) {id : Nat}
    (member : id ∈ l.active) (change : Option Change) {rest : List (Task κ ρ)}
    (idle : awaiting id rest = []) : Prompt id (Task.tellAll l.active change ++ rest) := by
  obtain ⟨ahead, behind, split, before, after⟩ := ordered.split member
  cases change with
  | none => exact .idle idle
  | some announced =>
      rw [split, tellAll_append, tellAll_append, List.append_assoc]
      refine .append ?_ (.due ?_)
      · intro task told
        obtain ⟨other, earlier, _, -, rfl⟩ := mem_tellAll.mp told
        exact before other earlier
      · -- Nobody behind the observer is the observer.
        show awaiting id (Task.tellAll behind (some announced) ++ rest) = []
        rw [awaiting_append, awaiting_tellAll_of_not_mem after, idle]
        rfl

/-- A step that someone decides on while an observer waits is a step of one ahead of it. -/
theorem Task.Prompt.decide {id : Nat} {tasks : List (Task κ ρ)} {caller : Option Nat}
    (prompt : Prompt id tasks) (turn : Task.turn tasks = some caller) (step : Step κ) :
    Prompt id (.run caller step :: tasks) := by
  cases prompt with
  | idle nothing => exact .idle nothing
  | due _ =>
      -- Nobody may decide on anything while the observer is about to be told.
      cases turn
  | @ahead task rest ahead prompt =>
      refine .ahead ?_ (.ahead ahead prompt)
      cases task with
      | run _ _ =>
          cases turn
          exact ahead
      | tell _ _ => cases turn
      | conclude other =>
          cases turn
          exact ⟨other, rfl, ahead⟩
      | reply _ _ _ => cases turn

/-- Whoever is ahead leaves only tasks of its own to do, as long as it makes no change. -/
theorem Session.ahead_advance {system : System σ κ ρ} {s : Session σ κ ρ} {id : Nat}
    {task next : Task κ ρ} (ahead : task.Ahead id)
    (calm : ∀ call ∈ s.calls system task, call.change = none)
    (left : next ∈ (s.advance system task).2) : next.Ahead id := by
  rcases mem_advance left with ⟨caller, command, rfl, told⟩ | ⟨other, change, rfl, own⟩
  · -- A call that makes no change leaves only its own answer to be given.
    have quiet : (system s.subscribers.size s.state command).change = none :=
      calm _ (List.mem_singleton.mpr rfl)
    rw [advance_command, quiet] at left
    rw [List.mem_singleton.mp left]
    exact ahead
  · rcases own with rfl | ⟨step, rfl⟩
    · exact ahead
    · exact ⟨other, rfl, ahead⟩

/-- Whoever is ahead makes no change if all calls by those ahead make none. -/
theorem Session.quiet_of_ahead {system : System σ κ ρ} {s : Session σ κ ρ} {id : Nat}
    {task : Task κ ρ} (ahead : task.Ahead id)
    (calm : ∀ call ∈ s.calls system task, ∀ other, call.caller = some other → other < id →
      call.change = none) :
    ∀ call ∈ s.calls system task, call.change = none := by
  intro call made
  obtain ⟨caller, command, rfl, rfl⟩ := mem_calls made
  obtain ⟨other, rfl, before⟩ := ahead
  exact calm _ made other rfl before

/-- An observer that waits for nothing is told promptly of what a task changes. -/
theorem Session.prompt_of_idle {s : Session σ κ ρ} {id : Nat} {rest : List (Task κ ρ)}
    (ordered : s.subscribers.Ordered) (member : id ∈ s.subscribers.active)
    (idle : Task.awaiting id rest = []) (system : System σ κ ρ) (task : Task κ ρ) :
    Task.Prompt id ((s.advance system task).2 ++ rest) := by
  cases task with
  | run caller step =>
      cases step with
      | command command =>
          rw [advance_command, List.append_assoc]
          exact .tellAll ordered member _ idle
      | subscribe observer => exact .idle idle
      | unsubscribe other => exact .idle idle
  | tell other change =>
      apply Task.Prompt.idle
      rw [Task.awaiting_append, awaiting_advance ordered member, idle]
      rfl
  | conclude other => exact .idle idle
  | reply caller command answer => exact .idle idle

/-- What is heard and what is still to be heard grow by the changes that a task makes, unless
these overtake others. -/
theorem Session.heard_append_awaiting_advance {system : System σ κ ρ} {s : Session σ κ ρ}
    {id : Nat} {task : Task κ ρ} {rest : List (Task κ ρ)} (ordered : s.subscribers.Ordered)
    (member : id ∈ s.subscribers.active)
    (settled : Task.awaiting id rest = [] ∨ Call.changes (s.calls system task) = []) :
    (s.advance system task).1.heard id ++ Task.awaiting id ((s.advance system task).2 ++ rest) =
      s.heard id ++ Task.awaiting id (task :: rest) ++ Call.changes (s.calls system task) := by
  rw [heard_advance, Task.awaiting_append, awaiting_advance ordered member,
    Task.awaiting_cons id task rest]
  rcases settled with nothing | nothing
  · rw [nothing, List.append_nil, List.append_nil]
  · rw [nothing, List.append_nil, List.nil_append, List.append_assoc]

/-- Carrying out a task keeps delivery prompt, and what is heard and what is still to be heard
grow by the changes that the task makes. -/
theorem Session.prompt_advance {system : System σ κ ρ} {s : Session σ κ ρ} {id : Nat}
    {task : Task κ ρ} {rest : List (Task κ ρ)} (ordered : s.subscribers.Ordered)
    (member : id ∈ s.subscribers.active)
    (calm : ∀ call ∈ s.calls system task, ∀ other, call.caller = some other → other < id →
      call.change = none)
    (prompt : Task.Prompt id (task :: rest)) :
    Task.Prompt id ((s.advance system task).2 ++ rest) ∧
      (s.advance system task).1.heard id ++ Task.awaiting id ((s.advance system task).2 ++ rest) =
        s.heard id ++ Task.awaiting id (task :: rest) ++ Call.changes (s.calls system task) := by
  cases prompt with
  | idle nothing =>
      -- The observer waits for nothing, so a change that is made now is the next it hears of.
      rw [Task.awaiting_cons] at nothing
      have later : Task.awaiting id rest = [] := (List.append_eq_nil_iff.mp nothing).2
      exact ⟨prompt_of_idle ordered member later system task,
        heard_append_awaiting_advance ordered member (.inl later)⟩
  | due later =>
      -- The observer is told, and then waits for nothing.
      exact ⟨prompt_of_idle ordered member later system _,
        heard_append_awaiting_advance ordered member (.inl later)⟩
  | ahead ahead prompt =>
      -- Whoever is ahead is at work, and may not add to what the observer waits for.
      have quiet := quiet_of_ahead ahead calm
      refine ⟨.append ?_ prompt, ?_⟩
      · intro next left
        exact ahead_advance ahead quiet left
      · exact heard_append_awaiting_advance ordered member (.inr (Call.changes_eq_nil quiet))

/-- On a course that starts with nothing to hear, an observer hears of every change that is made
while it is in force, in order, if those ahead of it make none. -/
theorem Course.heard_append_awaiting {id : Nat} (ordered : start.subscribers.Ordered)
    (subscribed : id ∈ start.subscribers.active)
    (course : Course system start calls s tasks) (stays : id ∈ s.subscribers.active)
    (calm : ∀ call ∈ calls, ∀ other, call.caller = some other → other < id →
      call.change = none) :
    Task.Prompt id tasks ∧
      s.heard id ++ Task.awaiting id tasks = start.heard id ++ Call.changes calls := by
  induction course with
  | begin => exact ⟨.idle rfl, rfl⟩
  | decide step _ turn ih =>
      obtain ⟨prompt, heard⟩ := ih stays calm
      exact ⟨prompt.decide turn step, heard⟩
  | @advance calls s task rest course ih =>
      -- Whoever is subscribed afterwards was so before the task, for ids do not come back.
      have given : id < s.subscribers.roster.length :=
        Nat.lt_of_lt_of_le (ordered.known id subscribed) course.roster_le
      have before := Session.active_of_advance given stays
      obtain ⟨prompt, heard⟩ :=
        ih before fun call earlier => calm call (List.mem_append_right _ earlier)
      obtain ⟨next, grown⟩ := Session.prompt_advance (course.ordered ordered) before
        (fun call made => calm call (List.mem_append_left _ made)) prompt
      refine ⟨next, ?_⟩
      rw [grown, heard, Call.changes_append, List.append_assoc]

/-- Before the first change, nobody has heard of any. -/
theorem Course.heard_eq_nil (unheard : start.history = [])
    (course : Course system start calls s tasks) (idle : ∀ call ∈ calls, call.change = none)
    (id : Nat) : s.heard id = [] ∧ Task.awaiting id tasks = [] := by
  induction course with
  | begin =>
      rw [Session.heard, unheard]
      exact ⟨rfl, rfl⟩
  | decide _ _ _ ih => exact ih idle
  | @advance calls s task rest course ih =>
      obtain ⟨heard, nothing⟩ := ih fun call earlier => idle call (List.mem_append_right _ earlier)
      rw [Task.awaiting_cons] at nothing
      obtain ⟨now, later⟩ := List.append_eq_nil_iff.mp nothing
      rw [Session.heard_advance, heard, now, Task.awaiting_append, later]
      refine ⟨rfl, ?_⟩
      rw [List.append_nil]
      apply List.filterMap_eq_nil_iff.mpr
      intro next left
      rcases Session.mem_advance left with
        ⟨caller, command, rfl, ⟨_, -, change, made, -⟩ | rfl⟩ | ⟨_, _, -, rfl | ⟨_, rfl⟩⟩
      · have none := idle (.of system s.subscribers.size s.state caller command)
          (List.mem_append_left _ (List.mem_singleton.mpr rfl))
        exact absurd (made.symm.trans none) (by simp)
      · rfl
      · rfl
      · rfl

end Switchboard
