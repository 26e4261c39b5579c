import Mathlib.Data.List.Basic
import Switchboard.Proofs.Round

/-!
# Enrolment

A list of observers gives every newcomer a handle with a number that it counts up in sixty-four
bits, and takes an observer off the list when it is asked to for the number on its handle.

* **books** — the numbers given out are those that the counter has passed, and everyone is in force
  whose number was given out and for whom nobody has asked since (`Subscribers.Books`); each task
  keeps these books (`Session.books_advanceAs`), and so does a session however it unfolds
  (`Unfolds.books`);
* **handles** — while the counter has not come round, the handles in the list ascend and are below
  the next one (`Subscribers.handles_ascending`), and asking for one takes just its observer
  out of the list (`Subscribers.Ordered.listed_unsubscribe`);
* so over a whole run each handle is given out once and takes its observer off the list once
  (`enrolment_exact`).
-/

namespace Switchboard

variable {σ κ ρ : Type}

/-! ## Books -/

/-- Someone asked for an observer to be taken off the list after its id was given out. -/
def Sight.Withdrawn (trace : List (Sight κ ρ)) (id : Nat) : Prop :=
  ∃ before sight after, trace = before ++ sight :: after ∧ id ∈ issued before ∧
    sight.asked? = some id

theorem Sight.withdrawn_append {first second : List (Sight κ ρ)} {id : Nat} :
    Withdrawn (first ++ second) id ↔ Withdrawn first id ∨
      ∃ before sight after, second = before ++ sight :: after ∧ id ∈ issued (first ++ before) ∧
        sight.asked? = some id := by
  constructor
  · rintro ⟨before, sight, after, split, given, asked⟩
    -- The request is in the second part, or the first part goes on up to it at least.
    rcases List.append_eq_append_iff.mp split with ⟨begun, rfl, later⟩ | ⟨rest, rfl, earlier⟩
    · exact .inr ⟨begun, sight, after, later, given, asked⟩
    · cases rest with
      | nil =>
          refine .inr ⟨[], sight, after, earlier.symm, ?_, asked⟩
          rwa [List.append_nil, List.append_nil]
      | cons next rest =>
          obtain ⟨rfl, -⟩ := List.cons.inj earlier
          exact .inl ⟨before, sight, rest, rfl, given, asked⟩
  · rintro (⟨before, sight, after, rfl, given, asked⟩ | ⟨before, sight, after, rfl, given, asked⟩)
    · exact ⟨before, sight, after ++ second, by rw [List.append_assoc, List.cons_append], given,
        asked⟩
    · exact ⟨first ++ before, sight, after, by rw [List.append_assoc], given, asked⟩

/-- Nobody is withdrawn while nobody asks for it. -/
theorem Sight.withdrawn_of_unasked {trace more : List (Sight κ ρ)}
    (unasked : ∀ sight ∈ more, sight.asked? = none) {id : Nat} :
    Withdrawn (trace ++ more) id ↔ Withdrawn trace id := by
  refine withdrawn_append.trans (or_iff_left ?_)
  rintro ⟨before, sight, after, rfl, -, asked⟩
  rw [unasked sight (List.mem_append_right _ List.mem_cons_self)] at asked
  cases asked

/-- With a request, the observer it asks for is withdrawn if its id was given out before. -/
theorem Sight.withdrawn_of_asked {trace : List (Sight κ ρ)} {sight : Sight κ ρ} {other : Nat}
    (asked : sight.asked? = some other) {id : Nat} :
    Withdrawn (trace ++ [sight]) id ↔ Withdrawn trace id ∨ id ∈ issued trace ∧ id = other := by
  refine withdrawn_append.trans (or_congr_right ?_)
  constructor
  · rintro ⟨before, last, after, split, given, wanted⟩
    cases before with
    | nil =>
        obtain ⟨rfl, -⟩ := List.cons.inj split
        rw [List.append_nil] at given
        exact ⟨given, Option.some.inj (wanted.symm.trans asked)⟩
    | cons first before =>
        obtain ⟨-, none⟩ := List.cons.inj split
        cases before <;> cases none
  · rintro ⟨given, rfl⟩
    exact ⟨[], sight, [], rfl, by rwa [List.append_nil], asked⟩

/-- The request itself is seen when it is answered. -/
theorem Sight.withdrawn_request (trace : List (Sight κ ρ)) (caller : Option Nat) (other : Nat)
    (found : Bool) (id : Nat) :
    Withdrawn (trace ++ [.happened (.started caller (.unsubscribe other)),
      .happened (.returned caller (.unsubscribe other) (.unsubscribed found))]) id ↔
        Withdrawn trace id ∨ id ∈ issued trace ∧ id = other := by
  have unasked : ∀ sight ∈ ([.happened (.started caller (.unsubscribe other))] :
      List (Sight κ ρ)), sight.asked? = none := List.forall_mem_singleton.mpr rfl
  have given : issued (trace ++ [.happened (.started caller (.unsubscribe other))]) =
      issued trace := (issued_append ..).trans (List.append_nil _)
  rw [List.append_cons, withdrawn_of_asked rfl, withdrawn_of_unasked unasked, given]

/-- What was seen of a list of observers, which nobody had subscribed to before, tells who is
subscribed. -/
structure Subscribers.Books (l : Subscribers κ) (trace : List (Sight κ ρ)) : Prop where
  /-- Ids are given out in order. -/
  issued : Sight.issued trace = List.range l.roster.length
  /-- Everyone is in force whose id was given out and for whom nobody has asked since. -/
  active : ∀ id, id ∈ l.active ↔ id ∈ Sight.issued trace ∧ ¬ Sight.Withdrawn trace id
  /-- Everyone who was taken off the list was on it. -/
  size : l.size + (Sight.struck trace).length = (Sight.issued trace).length

namespace Subscribers

/-- An observer that is in force is taken out of its place. -/
theorem Ordered.active_unsubscribe {l : Subscribers κ} (ordered : l.Ordered) {id : Nat}
    (member : id ∈ l.active) :
    ∃ ahead behind, l.active = ahead ++ id :: behind ∧
      (l.unsubscribe id).1.active = ahead ++ behind := by
  obtain ⟨ahead, behind, split, before, after⟩ := ordered.split member
  refine ⟨ahead, behind, split, ?_⟩
  show l.active.filter (· != id) = _
  rw [split, List.filter_append, List.filter_append, filter_bne_of_absent after,
    filter_bne_of_absent fun again => Nat.lt_irrefl _ (before id again)]
  simp

namespace Books

variable {l later : Subscribers κ} {trace more : List (Sight κ ρ)}

theorem empty : (Subscribers.empty : Subscribers κ).Books ([] : List (Sight κ ρ)) where
  issued := rfl
  active id := by
    constructor
    · intro absent
      exact absurd absent List.not_mem_nil
    · rintro ⟨absent, -⟩
      exact absurd absent List.not_mem_nil
  size := rfl

/-- Nothing is entered while nothing is seen of anyone. -/
theorem unchanged (books : l.Books trace) (quiet : ∀ sight ∈ more, sight.Quiet)
    (active : later.active = l.active) (roster : later.roster.length = l.roster.length) :
    later.Books (trace ++ more) := by
  have issued : Sight.issued (trace ++ more) = Sight.issued trace := by
    rw [Sight.issued_append, Sight.issued_of_quiet quiet, List.append_nil]
  constructor
  · rw [issued, roster, books.issued]
  · intro id
    rw [active, issued, Sight.withdrawn_of_unasked fun sight seen => (quiet sight seen).2]
    exact books.active id
  · rw [issued, Sight.struck_append, Sight.struck_of_quiet quiet, List.append_nil]
    show later.active.length + _ = _
    rw [active]
    exact books.size

/-- A newcomer gets the next id, for which nobody can have asked. -/
theorem subscribe {o : Observer κ} (books : l.Books trace)
    (issued : Sight.issued more = [(l.subscribe o).2]) (struck : Sight.struck more = [])
    (unasked : ∀ sight ∈ more, sight.asked? = none) :
    (l.subscribe o).1.Books (trace ++ more) := by
  have given : Sight.issued (trace ++ more) = Sight.issued trace ++ [l.roster.length] := by
    rw [Sight.issued_append, issued]
    rfl
  have fresh : ¬ Sight.Withdrawn trace l.roster.length := by
    rintro ⟨before, sight, after, rfl, early, -⟩
    have known := List.mem_append_left (Sight.issued (sight :: after)) early
    rw [← Sight.issued_append, books.issued] at known
    exact Nat.lt_irrefl _ (List.mem_range.mp known)
  constructor
  · rw [given, books.issued]
    show _ = List.range (l.roster ++ [_]).length
    rw [List.length_append, List.length_singleton, List.range_succ]
  · intro id
    rw [given, Sight.withdrawn_of_unasked unasked]
    show id ∈ l.active ++ [l.roster.length] ↔ _
    rw [List.mem_append, List.mem_singleton, List.mem_append, List.mem_singleton, books.active id]
    constructor
    · rintro (⟨old, still⟩ | rfl)
      · exact ⟨.inl old, still⟩
      · exact ⟨.inr rfl, fresh⟩
    · rintro ⟨old | rfl, still⟩
      · exact .inl ⟨old, still⟩
      · exact .inr rfl
  · have before : l.active.length + _ = _ := books.size
    rw [given, Sight.struck_append, struck, List.append_nil, List.length_append, ← before]
    show (l.active ++ [_]).length + _ = _
    simp only [List.length_append, List.length_cons, List.length_nil]
    omega

/-- A request takes the observer it asks for off the list, if it is in force. -/
theorem unsubscribe {other : Nat} (books : l.Books trace) (ordered : l.Ordered)
    (issued : Sight.issued more = [])
    (struck : Sight.struck more = if (l.unsubscribe other).2 then [other] else [])
    (withdrawn : ∀ id, Sight.Withdrawn (trace ++ more) id ↔
      Sight.Withdrawn trace id ∨ id ∈ Sight.issued trace ∧ id = other) :
    (l.unsubscribe other).1.Books (trace ++ more) := by
  have given : Sight.issued (trace ++ more) = Sight.issued trace := by
    rw [Sight.issued_append, issued, List.append_nil]
  constructor
  · rw [given]
    exact books.issued
  · intro id
    rw [given, withdrawn]
    show id ∈ l.active.filter (· != other) ↔ _
    rw [List.mem_filter, bne_iff_ne, books.active id]
    constructor
    · rintro ⟨⟨old, still⟩, apart⟩
      refine ⟨old, ?_⟩
      rintro (gone | ⟨-, same⟩)
      · exact still gone
      · exact apart same
    · rintro ⟨old, still⟩
      exact ⟨⟨old, fun gone => still (.inl gone)⟩, fun same => still (.inr ⟨old, same⟩)⟩
  · have before : l.active.length + _ = _ := books.size
    rw [given, Sight.struck_append, List.length_append, ← before]
    by_cases found : other ∈ l.active
    · -- One goes, and one more is noted as taken off the list.
      obtain ⟨ahead, behind, split, left⟩ := ordered.active_unsubscribe found
      have one : Sight.struck more = [other] := by
        rw [struck]
        exact if_pos (List.contains_iff_mem.mpr found)
      show (l.unsubscribe other).1.active.length + _ = _
      rw [left, one, split]
      simp only [List.length_append, List.length_cons, List.length_nil]
      omega
    · rw [unsubscribe_of_absent found] at struck ⊢
      rw [struck]
      rfl

end Books

end Subscribers

/-- A task is entered in the books just as it is seen. -/
theorem Session.books_advanceAs {s : Session σ κ ρ} {trace : List (Sight κ ρ)}
    (books : s.subscribers.Books trace) (ordered : s.subscribers.Ordered) (system : System σ κ ρ)
    (outcome : Outcome) (task : Task κ ρ) :
    (s.advanceAs system outcome task).1.subscribers.Books
      (trace ++ s.sights system outcome task) := by
  rcases s.enrolment_cases system outcome task with
    ⟨caller, observer, rfl⟩ | ⟨caller, id, rfl⟩ | ⟨quiet, active, roster⟩
  · refine books.subscribe rfl rfl ?_
    exact List.forall_mem_cons.mpr ⟨rfl, List.forall_mem_singleton.mpr rfl⟩
  · exact books.unsubscribe ordered rfl (Sight.struck_request caller id _)
      (Sight.withdrawn_request trace caller id _)
  · exact books.unchanged quiet active roster

/-- What is seen of a list that nobody had subscribed to before tells who is subscribed. -/
theorem Unfolds.books {system : System σ κ ρ} {start s : Session σ κ ρ}
    {agenda tasks : List (Task κ ρ)} {trace : List (Sight κ ρ)}
    (fresh : start.subscribers = .empty) (unfolds : Unfolds system start agenda trace s tasks) :
    s.subscribers.Books trace := by
  induction unfolds with
  | begin => rw [fresh]; exact .empty
  | decide _ _ _ ih => exact ih
  | advance outcome unfolds ih =>
      have ordered : start.subscribers.Ordered := by rw [fresh]; exact .empty
      exact Session.books_advanceAs ih (unfolds.ordered ordered) system outcome _

/-! ## Handles -/

namespace Subscribers

/-- The number on a handle. It has sixty-four bits, so that in the end the counter comes round. -/
def handle (id : Nat) : UInt64 :=
  UInt64.ofNat id

/-- The number on the next handle. -/
def nextHandle (l : Subscribers κ) : UInt64 :=
  handle l.roster.length

/-- An observer with the number on its handle. -/
def row? (l : Subscribers κ) (id : Nat) : Option (UInt64 × Observer κ) :=
  (l.roster[id]?).map fun s => (handle id, s.observer)

/-- The list of observers: those in force, in order. -/
def listed (l : Subscribers κ) : List (UInt64 × Observer κ) :=
  l.active.filterMap l.row?

theorem handle_lt {a b : Nat} (less : a < b) (few : b < UInt64.size) : handle a < handle b := by
  rw [UInt64.lt_iff_toNat_lt, handle, handle, UInt64.toNat_ofNat_of_lt' (Nat.lt_trans less few),
    UInt64.toNat_ofNat_of_lt' few]
  exact less

/-- Before the counter comes round, handles ascend as ids do. -/
theorem handles_ascending {ids : List Nat} (ascending : ids.Pairwise (· < ·))
    (few : ∀ id ∈ ids, id < UInt64.size) : (ids.map handle).Pairwise (· < ·) := by
  rw [List.pairwise_map]
  exact ascending.imp_of_mem fun _ later less => handle_lt less (few _ later)

variable {l : Subscribers κ}

/-- Everyone in force is on the list. -/
theorem Ordered.exists_row (ordered : l.Ordered) {id : Nat} (member : id ∈ l.active) :
    ∃ observer, l.row? id = some (handle id, observer) := by
  have entered := List.getElem?_eq_getElem (ordered.known id member)
  rw [row?, entered]
  exact ⟨_, rfl⟩

theorem Ordered.map_fst_listed (ordered : l.Ordered) :
    l.listed.map Prod.fst = l.active.map handle := by
  rw [listed, List.map_filterMap, ← List.filterMap_eq_map]
  apply List.filterMap_congr
  intro id member
  obtain ⟨observer, entry⟩ := ordered.exists_row member
  rw [entry]
  rfl

/-- A request takes the observer it asks for out of the list, and nobody else. -/
theorem Ordered.listed_unsubscribe (ordered : l.Ordered) {id : Nat} (member : id ∈ l.active) :
    ∃ ahead observer behind, l.listed = ahead ++ (handle id, observer) :: behind ∧
      (l.unsubscribe id).1.listed = ahead ++ behind := by
  obtain ⟨front, back, split, left⟩ := ordered.active_unsubscribe member
  obtain ⟨observer, entry⟩ := ordered.exists_row member
  refine ⟨front.filterMap l.row?, observer, back.filterMap l.row?, ?_, ?_⟩
  · rw [listed, split, List.filterMap_append, List.filterMap_cons, entry]
  · rw [listed, left, List.filterMap_append]
    rfl

/-- **Handles over a whole run.** Start with a list of observers that nobody has subscribed to, and
let anyone, the host and observers within callbacks, subscribe, ask for observers to be taken off
the list, and cause notifications, while fewer than 2^64 handles are given out. At every moment the
handles in the list ascend and are below the next one, none has been given out twice, and there are
as many observers as have subscribed and not been taken off the list. A request that comes now is
granted exactly if its handle was given out and nobody has asked for it since. Then just the
observer with this handle goes, and the others stay in their order; otherwise nothing changes. -/
theorem enrolment_exact {system : System σ κ ρ} {state : σ} {trace : List (Sight κ ρ)}
    {s : Session σ κ ρ} {tasks : List (Task κ ρ)}
    (reached : Unfolds system (.start state) [] trace s tasks)
    (few : (Sight.issued trace).length < UInt64.size) :
    (s.subscribers.listed.map Prod.fst).Pairwise (· < ·) ∧
    (∀ entry ∈ s.subscribers.listed, entry.1 < s.subscribers.nextHandle) ∧
    ((Sight.issued trace).map handle).Nodup ∧
    s.subscribers.size + (Sight.struck trace).length = (Sight.issued trace).length ∧
    ∀ (caller : Option Nat) (id : UInt64),
      let after := (s.advance system (.run caller (.unsubscribe id.toNat))).1
      ∃ granted,
        after.history = .returned caller (.unsubscribe id.toNat) (.unsubscribed granted) ::
          .started caller (.unsubscribe id.toNat) :: s.history ∧
        (granted = true ↔ id.toNat ∈ Sight.issued trace ∧ ¬ Sight.Withdrawn trace id.toNat) ∧
        (granted = true → ∃ ahead observer behind,
          s.subscribers.listed = ahead ++ (id, observer) :: behind ∧
          after.subscribers.listed = ahead ++ behind) ∧
        (granted = false → after.subscribers = s.subscribers) := by
  have ordered : s.subscribers.Ordered := reached.ordered .empty
  have books : s.subscribers.Books trace := reached.books rfl
  have counted : s.subscribers.roster.length < UInt64.size := by
    rwa [books.issued, List.length_range] at few
  have bound : ∀ id ∈ s.subscribers.active, id < UInt64.size :=
    fun id member => Nat.lt_trans (ordered.known id member) counted
  refine ⟨?_, ?_, ?_, books.size, ?_⟩
  · rw [ordered.map_fst_listed]
    exact handles_ascending ordered.ascending bound
  · intro entry member
    have known : entry.1 ∈ s.subscribers.active.map handle := by
      rw [← ordered.map_fst_listed]
      exact List.mem_map_of_mem member
    obtain ⟨id, active, same⟩ := List.mem_map.mp known
    rw [← same]
    exact handle_lt (ordered.known id active) counted
  · -- Ids are given out in order, and so are handles.
    have ascending : ((Sight.issued trace).map handle).Pairwise (· < ·) := by
      rw [books.issued]
      refine handles_ascending List.pairwise_lt_range fun id member => ?_
      exact Nat.lt_trans (List.mem_range.mp member) counted
    exact ascending.imp UInt64.ne_of_lt
  · intro caller id
    have same : handle id.toNat = id := UInt64.ofNat_toNat
    refine ⟨(s.subscribers.unsubscribe id.toNat).2, rfl, ?_, ?_, ?_⟩
    · rw [← books.active]
      exact List.contains_iff_mem
    · intro granted
      have gone := ordered.listed_unsubscribe (List.contains_iff_mem.mp granted)
      rwa [same] at gone
    · intro refused
      have absent : id.toNat ∉ s.subscribers.active := by
        intro active
        rw [unsubscribe, List.contains_iff_mem.mpr active] at refused
        cases refused
      show (s.subscribers.unsubscribe id.toNat).1 = s.subscribers
      rw [unsubscribe_of_absent absent]

open Broadcast

/-- The host's notification is delivered. The first of two observers has enlisted a third one and
asked for the second. -/
def seenInCallback : List (Sight BroadcastCommand BroadcastAnswer) :=
  arrivals ++ .happened (.started none (.command (.notify closing))) :: errands

/-- Asking for the second observer again changes nothing, and asking for the third takes just that
one off the list. -/
theorem enrolment_exact_in_callback :
    (Sight.issued seenInCallback).length < UInt64.size ∧
    (callback.subscribers.listed.map Prod.fst).Pairwise (· < ·) ∧
    callback.subscribers.size + 1 = 3 ∧
    (Sight.Withdrawn seenInCallback 1 ∧
      (callback.advance perform (.run (some 0) (.unsubscribe 1))).1.subscribers =
        callback.subscribers) ∧
    ¬ Sight.Withdrawn seenInCallback 2 ∧ ∃ ahead observer behind,
      callback.subscribers.listed = ahead ++ (2, observer) :: behind ∧
      (callback.advance perform (.run (some 0) (.unsubscribe 2))).1.subscribers.listed =
        ahead ++ behind := by
  have moved : View.follow perform ⟨[], .start (), []⟩
      [.decide (.subscribe (guest "clerk")), .advance .success,
        .decide (.subscribe (guest "porter")), .advance .success,
        .decide (.command (.notify closing)), .advance .success, .advance .success,
        .decide (.subscribe (guest none)), .advance .success, .decide (.unsubscribe 1),
        .advance .success] =
      some ⟨seenInCallback, callback,
        [.conclude 0, .tell 1 closing, .reply none (.notify closing) .failures]⟩ := rfl
  have few : (Sight.issued seenInCallback).length < UInt64.size := by decide
  obtain ⟨ascending, -, -, size, requests⟩ := enrolment_exact (Unfolds.begin.follow moved) few
  refine ⟨few, ascending, size, ?_, ?_⟩
  · have withdrawn : Sight.Withdrawn seenInCallback 1 :=
      ⟨seenInCallback.dropLast, _, [], rfl, by decide, rfl⟩
    obtain ⟨granted, -, only, -, kept⟩ := requests (some 0) 1
    refine ⟨withdrawn, kept (Bool.eq_false_iff.mpr fun yes => ?_)⟩
    exact (only.mp yes).2 withdrawn
  · obtain ⟨granted, noted, only, gone, -⟩ := requests (some 0) 2
    have yes : granted = true := by
      cases noted
      rfl
    exact ⟨(only.mp yes).2, gone yes⟩

end Subscribers

end Switchboard
