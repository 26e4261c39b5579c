import Switchboard.Text.Numeral

/-!
# Components

A component offers contexts to other components and looks theirs up. It is known
by a number of sixty-four bits, and components are ordered by that number.
-/

namespace Switchboard

/-- The identity of a component. -/
structure ComponentId where
  number : UInt64
deriving DecidableEq, Inhabited

namespace ComponentId

/-- The name of a component in messages. -/
def text (id : ComponentId) : String :=
  "component#" ++ Text.Numeral.text id.number.toNat

/-- Whether `a` has the smaller number, or the same. -/
def precedes (a b : ComponentId) : Bool :=
  decide (a.number ≤ b.number)

/-- Components in ascending order; repetitions are kept. -/
def sorted (ids : List ComponentId) : List ComponentId :=
  ids.mergeSort precedes

theorem mem_sorted {id : ComponentId} {ids : List ComponentId} : id ∈ sorted ids ↔ id ∈ ids :=
  List.mem_mergeSort

/-- Components without repetition are strictly ascending once they are sorted. -/
theorem sorted_ascending {ids : List ComponentId} (once : ids.Nodup) :
    (sorted ids).Pairwise (·.number < ·.number) := by
  have ordered : (sorted ids).Pairwise (precedes · ·) := by
    apply List.pairwise_mergeSort
    · intro a b c first second
      simp only [precedes, decide_eq_true_eq] at first second ⊢
      exact UInt64.le_trans first second
    · intro a b
      simp only [precedes, Bool.or_eq_true, decide_eq_true_eq]
      exact UInt64.le_total a.number b.number
  have apart : (sorted ids).Nodup := (List.mergeSort_perm _ _).nodup_iff.mpr once
  refine (ordered.and apart).imp ?_
  rintro a b ⟨before, other⟩
  simp only [precedes, decide_eq_true_eq] at before
  refine UInt64.lt_of_le_of_ne before fun same => other ?_
  exact congrArg ComponentId.mk same

end ComponentId

end Switchboard
