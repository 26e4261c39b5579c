/-!
# Totals

The total of a measure over a list: how much its items weigh together. The total
of two lists in a row is the sum of theirs (`total_append`), and changing one item
changes the total by what that item changes (`total_modify`).
-/

namespace Switchboard

variable {α : Type}

/-- The measures of all items, added up. -/
def total (measure : α → Nat) : List α → Nat
  | [] => 0
  | item :: rest => measure item + total measure rest

theorem total_nil (measure : α → Nat) : total measure [] = 0 := rfl

theorem total_cons (measure : α → Nat) (item : α) (rest : List α) :
    total measure (item :: rest) = measure item + total measure rest := rfl

theorem total_append (measure : α → Nat) (first second : List α) :
    total measure (first ++ second) = total measure first + total measure second := by
  induction first with
  | nil => exact (Nat.zero_add _).symm
  | cons item rest ih => rw [List.cons_append, total_cons, total_cons, ih, Nat.add_assoc]

theorem total_map {β : Type} (measure : β → Nat) (f : α → β) (items : List α) :
    total measure (items.map f) = total (fun item => measure (f item)) items := by
  induction items with
  | nil => rfl
  | cons item rest ih => rw [List.map_cons, total_cons, total_cons, ih]

theorem total_congr {measure other : α → Nat} {items : List α}
    (same : ∀ item ∈ items, measure item = other item) :
    total measure items = total other items := by
  induction items with
  | nil => rfl
  | cons item rest ih =>
    rw [total_cons, total_cons, same item List.mem_cons_self,
      ih fun other later => same other (List.mem_cons_of_mem _ later)]

theorem total_eq_zero (measure : α → Nat) (items : List α)
    (weightless : ∀ item ∈ items, measure item = 0) : total measure items = 0 := by
  induction items with
  | nil => rfl
  | cons item rest ih =>
    rw [total_cons, weightless item List.mem_cons_self,
      ih fun other later => weightless other (List.mem_cons_of_mem _ later)]

/-- Changing an item trades its measure for that of what it becomes. -/
theorem total_modify (measure : α → Nat) (change : α → α) :
    ∀ {items : List α} {place : Nat} {item : α}, items[place]? = some item →
      total measure (items.modify place change) + measure item =
        total measure items + measure (change item)
  | [], place, item, found => by simp at found
  | head :: rest, 0, item, found => by
    rw [List.getElem?_cons_zero, Option.some.injEq] at found
    subst found
    rw [List.modify_zero_cons, total_cons, total_cons]
    omega
  | head :: rest, place + 1, item, found => by
    rw [List.getElem?_cons_succ] at found
    have tail := total_modify measure change found
    rw [List.modify_succ_cons, total_cons, total_cons]
    omega

/-- What passes a test and what does not weigh as much as everything. -/
theorem total_filter (measure : α → Nat) (test : α → Bool) (items : List α) :
    total measure items =
      total measure (items.filter test) + total measure (items.filter (!test ·)) := by
  induction items with
  | nil => rfl
  | cons item rest ih =>
    cases passes : test item with
    | true =>
      rw [List.filter_cons_of_pos passes, List.filter_cons_of_neg (by simp [passes]), total_cons,
        total_cons, ih, Nat.add_assoc]
    | false =>
      rw [List.filter_cons_of_neg (by simp [passes]), List.filter_cons_of_pos (by simp [passes]),
        total_cons, total_cons, ih, Nat.add_left_comm]

/-- The total can be taken class by class, if each item is in one of the classes. -/
theorem total_classes {β : Type} [DecidableEq β] (measure : α → Nat) (label : α → β) :
    ∀ {classes : List β} {items : List α}, classes.Nodup → (∀ item ∈ items, label item ∈ classes) →
      total measure items =
        total (fun c => total measure (items.filter (label · == c))) classes
  | [], [], _, _ => rfl
  | [], item :: _, _, covered => absurd (covered item List.mem_cons_self) List.not_mem_nil
  | c :: classes, items, distinct, covered => by
    obtain ⟨first, distinct⟩ := List.nodup_cons.mp distinct
    have others : ∀ item ∈ items.filter (fun item => !(label item == c)), label item ∈ classes := by
      intro item member
      obtain ⟨member, other⟩ := List.mem_filter.mp member
      exact (List.mem_cons.mp (covered item member)).resolve_left (by simpa using other)
    rw [total_cons, total_filter measure (label · == c), total_classes measure label distinct others]
    congr 1
    apply total_congr
    intro d member
    -- Taking out the first class takes nothing from the others.
    have apart : d ≠ c := fun same => first (same ▸ member)
    rw [List.filter_filter]
    congr 1
    apply List.filter_congr
    intro item _
    grind

end Switchboard
