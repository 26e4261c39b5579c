import Mathlib.Data.List.Forall2
import Switchboard.Proofs.Registry.Independence
import Switchboard.Proofs.Steadiness

/-!
# Observers have no influence

What comes of the commands of a registry depends neither on how observers end nor, if they only
watch, on whether there are any:

* **ends** — no answer tells of failures (`Registry.perform_uniform`), so programs that are alike
  but for the ends of observers are so at every moment (`Session.steady_moment`);
* **presence** — only two texts tell how many observers there are (`Registry.perform_observers`), so
  if no observer gives a command, the host gets what it would get if nobody observed
  (`Registry.unobserved_of_course`).

Both together are `Registry.failures_without_influence`.
-/

namespace Switchboard

/-- Whether the answer to a command shows how many observers there are. -/
def RegistryCommand.countsObservers : RegistryCommand → Bool
  | details => true
  | scopeDetails _ => true
  | _ => false

/-- The same command with the same answer, unless the answer shows how many observers there are. -/
def RegistryCommand.Matches (reply lone : RegistryCommand × RegistryAnswer) : Prop :=
  reply.1 = lone.1 ∧ (reply.1.countsObservers = false → reply.2 = lone.2)

namespace Registry

variable {r : Registry} {k : Catalogue} {config : Config} {graph : Graph}
  {calls : List (Call RegistryCommand RegistryAnswer)}
  {s : Session Registry RegistryCommand RegistryAnswer}
  {tasks : List (Task RegistryCommand RegistryAnswer)}

/-- How many observers there are is of no consequence, and only shown if a command asks for it. -/
theorem perform_observers (observers : Nat) (r : Registry) (command : RegistryCommand) :
    (perform observers r command).state = (perform 0 r command).state ∧
      (command.countsObservers = false →
        (perform observers r command).answer [] = (perform 0 r command).answer []) := by
  cases command with
  | details => exact ⟨rfl, nofun⟩
  | scopeDetails component => exact ⟨rfl, nofun⟩
  | _ => exact ⟨rfl, fun _ => rfl⟩

/-- A registry that is observed is what it would be if nobody observed it, and so are the answers
that the host was given. -/
structure Unobserved (k : Catalogue) (config : Config) (graph : Graph)
    (calls : List (Call RegistryCommand RegistryAnswer)) (r : Registry) : Prop where
  state : r = (alone k config graph (Call.requests calls)).state
  replies : List.Forall₂ RegistryCommand.Matches (Call.hosted calls).reverse
    (alone k config graph (Call.requests calls)).replies

/-- The host calls a command on both sides. -/
theorem Unobserved.call (unobserved : r.Unobserved k config graph calls) (observers : Nat)
    (command : RegistryCommand) :
    (perform observers r command).state.Unobserved k config graph
      (.of perform observers r none command :: calls) := by
  obtain ⟨same, answered⟩ := perform_observers observers r command
  obtain ⟨state, replies⟩ := alone_cons k config graph command (Call.requests calls)
  have requests : Call.requests (.of perform observers r none command :: calls) =
      command :: Call.requests calls := rfl
  have hosted : Call.hosted (.of perform observers r none command :: calls) =
      (command, (perform observers r command).answer []) :: Call.hosted calls := rfl
  constructor
  · rw [requests, state, ← unobserved.state, same]
  · rw [requests, hosted, replies, List.reverse_cons, ← unobserved.state]
    exact List.rel_append unobserved.replies (.cons ⟨rfl, answered⟩ .nil)

/-- Observers that give no commands are not noticed. -/
theorem unobserved_of_course
    (course : Course perform (.start (.empty k config graph)) calls s tasks)
    (watching : ∀ call ∈ calls, call.caller = none) :
    s.state.Unobserved k config graph calls := by
  revert watching
  apply course.keeps (P := fun calls r => (∀ call ∈ calls, call.caller = none) →
    r.Unobserved k config graph calls)
  · intro _
    have silent : alone k config graph [] = .start (.empty k config graph) := Session.run_nil ..
    constructor
    · exact congrArg Session.state silent.symm
    · show List.Forall₂ _ [] (alone k config graph []).replies
      rw [silent]
      exact .nil
  · intro calls observers r caller command ih watching
    obtain rfl : caller = none := watching _ List.mem_cons_self
    apply Unobserved.call
    apply ih
    intro call earlier
    exact watching call (List.mem_cons_of_mem _ earlier)

/-- **Failures have no influence.** Take two programs of a host that are alike but for the ways in
which observers end, those that other observers subscribe included. On a new registry they go side
by side: at every moment, the state is the same on both sides, the same observers are in force,
the same calls were made with the same answers, everyone was told the same, and all that happened is
the same in the same order, but for the records of failures; and both end at the same moment. If no
observer gives a command, the registry is in the end what it is if nobody observes, and all commands
of the host return what they return then, except for texts that show how many observers there
are. -/
theorem failures_without_influence (catalogue : Catalogue) (config : Config) (graph : Graph)
    {steps steps' : List (Step RegistryCommand)}
    (alike : steps.map Step.steady = steps'.map Step.steady) :
    let start : Session Registry RegistryCommand RegistryAnswer :=
      .start (.empty catalogue config graph)
    let lone := start.play perform ((steps.filterMap Step.command?).map .command)
    (∀ count, (start.moment perform steps count).Alike (start.moment perform steps' count)) ∧
    (∃ count calls, start.moment perform steps count = ⟨calls, start.play perform steps, []⟩ ∧
      start.moment perform steps' count = ⟨calls, start.play perform steps', []⟩) ∧
    ((∀ id command, .started (some id) (.command command) ∉ (start.play perform steps).history) →
      (start.play perform steps).state = lone.state ∧
      (start.play perform steps).replies.map Prod.fst = steps.filterMap Step.command? ∧
      List.Forall₂ RegistryCommand.Matches (start.play perform steps).replies lone.replies) := by
  intro start lone
  refine ⟨?_, Session.ends_alike perform_uniform start alike, ?_⟩
  · intro count
    exact Moment.alike_of_steady (Session.steady_moment perform_uniform start alike count)
  · intro watching
    obtain ⟨calls, course, asked⟩ := Course.play_requests perform start steps
    have unobserved := unobserved_of_course course (course.caller_eq_none watching)
    have same : alone catalogue config graph (Call.requests calls) = lone := by rw [alone, asked]
    -- All calls of the host have returned, in the order in which they were made.
    rw [course.replies_eq perform_uniform rfl, ← same]
    refine ⟨unobserved.state, ?_, unobserved.replies⟩
    rw [List.map_reverse]
    exact asked

/-- A desk without lines. -/
def desk : Session Registry RegistryCommand RegistryAnswer :=
  .start (.empty [] .empty .full)

/-- A line is added while two observers are subscribed, of which the first runs a script when it is
told of it. -/
def attended (script : List (Step RegistryCommand)) (first second : Outcome) :
    List (Step RegistryCommand) :=
  [.subscribe ⟨some "operator", script, 1, first⟩, .subscribe ⟨some "clerk", [], 0, second⟩,
    .command firstLine]

/-- An operator that adds a second line and then breaks off leaves what it leaves if it ends well,
though other failures are reported. If the operator adds nothing, the desk is as if nobody were
there. -/
theorem failures_without_influence_at_desk :
    (desk.moment perform (attended echo.steps (.panic "stuck") (.error "full")) 14).Alike
      (desk.moment perform (attended echo.steps .success .wordlessPanic) 14) ∧
    (desk.moment perform (attended echo.steps .success .wordlessPanic) 14).session.state.size = 2 ∧
    (desk.moment perform (attended echo.steps (.panic "stuck") (.error "full"))
      14).session.history.length = 18 ∧
    (desk.moment perform (attended echo.steps .success .wordlessPanic)
      14).session.history.length = 16 ∧
    (desk.play perform (attended [] (.panic "stuck") (.error "full"))).state =
      (desk.play perform [.command firstLine]).state := by
  have busy : (attended echo.steps (.panic "stuck") (.error "full")).map Step.steady =
      (attended echo.steps .success .wordlessPanic).map Step.steady := rfl
  have idle : (attended [] (.panic "stuck") (.error "full")).map Step.steady =
      (attended [] .success .success).map Step.steady := rfl
  obtain ⟨alike, -, -⟩ := failures_without_influence [] .empty .full busy
  obtain ⟨-, -, alone⟩ := failures_without_influence [] .empty .full idle
  refine ⟨alike 14, rfl, rfl, rfl, (alone ?_).1⟩
  have ended : (desk.moment perform (attended [] (.panic "stuck") (.error "full")) 8).session =
      desk.play perform (attended [] (.panic "stuck") (.error "full")) :=
    Session.eq_play_of_idle rfl
  have quiet : ((desk.moment perform (attended [] (.panic "stuck") (.error "full"))
      8).session.history.all fun happening =>
        match happening with
        | .started (some _) _ => false
        | _ => true) = true := rfl
  rw [ended] at quiet
  intro id command started
  exact Bool.false_ne_true (List.all_eq_true.mp quiet _ started)

end Registry

end Switchboard
