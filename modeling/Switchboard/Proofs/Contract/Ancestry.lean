import Mathlib.Data.Set.Card
import Mathlib.Logic.Relation
import Switchboard.Contract

/-!
# Ancestry

The contracts that a contract extends, directly or through others (`Catalogue.Descends`), whatever
the catalogue declares: chains of any length, contracts that extend themselves, cycles. A contract
extends one contract at most, so its ancestors stand in one line:

* **comparable** — of two ancestors, one is an ancestor of the other (`Descends.comparable`);
* **loops** — what leads back to itself has only ancestors that do so, too (`Descends.loop`);
* **the bounded walk** — `Catalogue.descends` finds nothing but ancestors, and all of them if they
  are not more than it looks at (`Consistent.descends_iff`): a shortest way to an ancestor passes
  each ancestor once (`Descends.near`);
* **step by step** — the walk ends after thirty-two steps at the latest, with the answer of
  `Catalogue.descends`, and so decides ancestry (`descends_decides_ancestry`).
-/

namespace Switchboard

namespace Catalogue

variable {k : Catalogue} {S : Set Contract} {a b c p : Contract}

/-- `k.Extends c p`: the contract `c` is declared to extend `p`. -/
def Extends (k : Catalogue) (c p : Contract) : Prop :=
  k.parent? c = some p

/-- `k.Descends c a`: from `c`, one comes to `a` by going from contracts to those that they
extend, once or more often. -/
def Descends (k : Catalogue) : Contract → Contract → Prop :=
  Relation.TransGen k.Extends

/-- Some contracts that can be told apart by their identities, with all that they extend. -/
structure Consistent (k : Catalogue) (S : Set Contract) : Prop where
  closed : ∀ c ∈ S, ∀ p, k.Extends c p → p ∈ S
  faithful : ∀ c ∈ S, ∀ d ∈ S, c.id = d.id → c = d

/-! ## One line of ancestors -/

theorem extends_unique : Relator.RightUnique k.Extends := by
  intro c p q first second
  exact Option.some.inj (first.symm.trans second)

theorem Descends.trans (first : k.Descends c b) (second : k.Descends b a) : k.Descends c a :=
  Relation.TransGen.trans first second

/-- Of two ancestors of a contract, one is an ancestor of the other. -/
theorem Descends.comparable (first : k.Descends c a) (second : k.Descends c b) :
    a = b ∨ k.Descends a b ∨ k.Descends b a := by
  rcases Relation.ReflTransGen.total_of_right_unique extends_unique
    (Relation.TransGen.to_reflTransGen first) (Relation.TransGen.to_reflTransGen second) with h | h
  · rcases Relation.reflTransGen_iff_eq_or_transGen.mp h with same | above
    · exact .inl same.symm
    · exact .inr (.inl above)
  · rcases Relation.reflTransGen_iff_eq_or_transGen.mp h with same | above
    · exact .inl same
    · exact .inr (.inr above)

/-- What leads back to itself has only ancestors that do so. -/
theorem Descends.loop (back : k.Descends c c) (above : k.Descends c a) : k.Descends a a := by
  -- The way back goes through the parent, and from there on it leads to the parent again.
  have onward : ∀ {d p}, k.Descends d d → k.Extends d p → k.Descends p p := by
    intro d p back parent
    obtain ⟨q, first, rest⟩ := Relation.TransGen.head'_iff.mp back
    obtain rfl := extends_unique first parent
    exact .tail' rest parent
  induction above with
  | single parent => exact onward back parent
  | tail _ parent ih => exact onward ih parent

/-- Whatever some contracts extend among themselves, they do not lead out. -/
theorem Descends.mem (closed : ∀ c ∈ S, ∀ p, k.Extends c p → p ∈ S) (above : k.Descends c a)
    (member : c ∈ S) : a ∈ S := by
  induction above with
  | single parent => exact closed _ member _ parent
  | tail _ parent ih => exact closed _ ih _ parent

/-! ## Counting steps -/

/-- The contract that one comes to from `c` in so many steps. -/
def climb (k : Catalogue) : Nat → Contract → Option Contract
  | 0, c => some c
  | steps + 1, c => (k.parent? c).bind (k.climb steps)

theorem climb_add (m n : Nat) (c : Contract) :
    k.climb (m + n) c = (k.climb m c).bind (k.climb n) := by
  induction m generalizing c with
  | zero =>
      rw [Nat.zero_add]
      rfl
  | succ m ih =>
      rw [Nat.add_right_comm]
      show (k.parent? c).bind (k.climb (m + n)) =
        ((k.parent? c).bind (k.climb m)).bind (k.climb n)
      rw [Option.bind_assoc]
      congr 1
      funext p
      exact ih p

theorem climb_succ_eq_some {n : Nat} :
    k.climb (n + 1) c = some a ↔ ∃ p, k.Extends c p ∧ k.climb n p = some a :=
  Option.bind_eq_some_iff

theorem descends_iff_climb : k.Descends c a ↔ ∃ n, k.climb (n + 1) c = some a := by
  constructor
  · intro above
    induction above with
    | single parent => exact ⟨0, climb_succ_eq_some.mpr ⟨_, parent, rfl⟩⟩
    | @tail b a _ parent ih =>
        obtain ⟨n, reached⟩ := ih
        refine ⟨n + 1, ?_⟩
        rw [climb_add (n + 1) 1 c, reached]
        exact climb_succ_eq_some.mpr ⟨a, parent, rfl⟩
  · rintro ⟨n, reached⟩
    induction n generalizing c with
    | zero =>
        obtain ⟨p, parent, same⟩ := climb_succ_eq_some.mp reached
        cases same
        exact .single parent
    | succ n ih =>
        obtain ⟨p, parent, further⟩ := climb_succ_eq_some.mp reached
        exact .head parent (ih further)

/-- One who comes to the same contract twice may leave out the steps between. -/
theorem climb_shortcut {i j n : Nat} (again : k.climb i c = k.climb j c) (later : j ≤ n) :
    k.climb (i + (n - j)) c = k.climb n c := by
  calc
    k.climb (i + (n - j)) c = (k.climb j c).bind (k.climb (n - j)) := by rw [climb_add, again]
    _ = k.climb n c := by rw [← climb_add, Nat.add_sub_cancel' later]

/-- Whoever comes somewhere in some steps has come somewhere in fewer. -/
theorem climb_of_le {i n : Nat} (reached : k.climb n c = some a) (before : i ≤ n) :
    ∃ x, k.climb i c = some x := by
  rw [← Nat.add_sub_cancel' before, climb_add] at reached
  obtain ⟨x, here, -⟩ := Option.bind_eq_some_iff.mp reached
  exact ⟨x, here⟩

/-- To every ancestor there is a shortest way, and it comes nowhere twice. -/
theorem Descends.shortest (above : k.Descends c a) :
    ∃ n, k.climb (n + 1) c = some a ∧ ∀ i j, i < j → j ≤ n →
      k.climb (i + 1) c ≠ k.climb (j + 1) c := by
  have somewhere := descends_iff_climb.mp above
  refine ⟨Nat.find somewhere, Nat.find_spec somewhere, ?_⟩
  intro i j before last again
  have later : j + 1 ≤ Nat.find somewhere + 1 := by omega
  have shorter := (climb_shortcut again later).trans (Nat.find_spec somewhere)
  rw [Nat.add_sub_add_right, Nat.add_right_comm] at shorter
  exact Nat.find_min somewhere (by omega) shorter

/-- An ancestor is not further away than there are ancestors. -/
theorem Descends.near {limit : Nat} (above : k.Descends c a)
    (few : {x | k.Descends c x}.encard ≤ limit) :
    ∃ n < limit, k.climb (n + 1) c = some a := by
  obtain ⟨n, reached, once⟩ := above.shortest
  have injective : Set.InjOn (fun i => k.climb (i + 1) c) (Finset.range (n + 1)) := by
    intro i first j second same
    simp only [Finset.coe_range, Set.mem_Iio] at first second
    rcases Nat.lt_trichotomy i j with before | equal | after
    · exact absurd same (once i j before (by omega))
    · exact equal
    · exact absurd same.symm (once j i after (by omega))
  -- Every step of the way comes to an ancestor.
  have passed : (fun i => k.climb (i + 1) c) '' (Finset.range (n + 1)) ⊆
      some '' {x | k.Descends c x} := by
    rintro _ ⟨i, before, rfl⟩
    simp only [Finset.coe_range, Set.mem_Iio] at before
    obtain ⟨x, here⟩ := climb_of_le reached (Nat.succ_le_of_lt before)
    exact ⟨x, descends_iff_climb.mpr ⟨i, here⟩, here.symm⟩
  have counted : ((n + 1 : Nat) : ℕ∞) ≤ limit :=
    calc
      ((n + 1 : Nat) : ℕ∞) = ((Finset.range (n + 1) : Finset Nat) : Set Nat).encard := by
        rw [Set.encard_coe_eq_coe_finsetCard, Finset.card_range]
      _ = ((fun i => k.climb (i + 1) c) '' (Finset.range (n + 1))).encard :=
        injective.encard_image.symm
      _ ≤ (some '' {x | k.Descends c x}).encard := Set.encard_le_encard passed
      _ = {x | k.Descends c x}.encard := (Option.some_injective _).encard_image _
      _ ≤ limit := few
  exact ⟨n, by exact_mod_cast counted, reached⟩

/-! ## The bounded walk -/

/-- The walk looks at the ancestors that are so many steps away. -/
theorem descendsWithin_iff {limit : Nat} :
    k.descendsWithin limit c a = true ↔
      ∃ n < limit, ∃ x, k.climb (n + 1) c = some x ∧ x.id = a.id := by
  induction limit generalizing c with
  | zero => simp [descendsWithin]
  | succ limit ih =>
      rw [descendsWithin]
      cases parent : k.parent? c with
      | none => simp [climb, parent]
      | some p =>
          have same : p.same a = true ↔ p.id = a.id := beq_iff_eq
          rw [Bool.or_eq_true, same, ih]
          constructor
          · rintro (here | ⟨n, near, x, reached, alike⟩)
            · exact ⟨0, Nat.succ_pos _, p, climb_succ_eq_some.mpr ⟨p, parent, rfl⟩, here⟩
            · exact ⟨n + 1, Nat.succ_lt_succ near, x,
                climb_succ_eq_some.mpr ⟨p, parent, reached⟩, alike⟩
          · rintro ⟨n, near, x, reached, alike⟩
            obtain ⟨q, first, further⟩ := climb_succ_eq_some.mp reached
            obtain rfl : p = q := Option.some.inj (parent.symm.trans first)
            cases n with
            | zero =>
                cases further
                exact .inl alike
            | succ n => exact .inr ⟨n, Nat.lt_of_succ_lt_succ near, x, further, alike⟩

/-- The walk finds nothing but what is reached. -/
theorem exists_descends (found : k.descends c a = true) : ∃ x, k.Descends c x ∧ x.id = a.id := by
  obtain ⟨n, -, x, reached, alike⟩ := descendsWithin_iff.mp found
  exact ⟨x, descends_iff_climb.mpr ⟨n, reached⟩, alike⟩

/-- If no more is reached than it looks at, it finds all of that. -/
theorem descends_iff_exists (few : {x | k.Descends c x}.encard ≤ ancestryLimit) :
    k.descends c a = true ↔ ∃ x, k.Descends c x ∧ x.id = a.id := by
  constructor
  · exact exists_descends
  · rintro ⟨x, above, alike⟩
    obtain ⟨n, near, reached⟩ := above.near few
    exact descendsWithin_iff.mpr ⟨n, near, x, reached, alike⟩

/-- The walk finds nothing but ancestors. -/
theorem Consistent.descends_sound (consistent : k.Consistent S) (member : c ∈ S) (target : a ∈ S)
    (found : k.descends c a = true) : k.Descends c a := by
  obtain ⟨x, above, alike⟩ := exists_descends found
  rwa [← consistent.faithful x (above.mem consistent.closed member) a target alike]

/-- It finds them all, if they are not more than it looks at. -/
theorem Descends.found (above : k.Descends c a)
    (few : {x | k.Descends c x}.encard ≤ ancestryLimit) : k.descends c a = true :=
  (descends_iff_exists few).mpr ⟨a, above, rfl⟩

theorem Consistent.descends_iff (consistent : k.Consistent S) (member : c ∈ S) (target : a ∈ S)
    (few : {x | k.Descends c x}.encard ≤ ancestryLimit) :
    k.descends c a = true ↔ k.Descends c a :=
  ⟨consistent.descends_sound member target, fun above => above.found few⟩

/-! ## Catalogues -/

/-- Whatever is extended is in the catalogue. -/
theorem Extends.mem (parent : k.Extends c p) : p ∈ k := by
  obtain ⟨place, -, found⟩ := Option.bind_eq_some_iff.mp parent
  exact List.mem_of_getElem? found

/-- A catalogue without two contracts of one identity. -/
theorem Consistent.of_distinct (distinct : ∀ c ∈ k, ∀ d ∈ k, c.id = d.id → c = d) :
    k.Consistent {c | c ∈ k} where
  closed _ _ _ parent := parent.mem
  faithful := distinct

/-- No contract has more ancestors than there are contracts in the catalogue. -/
theorem encard_ancestors_le : {a | k.Descends c a}.encard ≤ k.length := by
  have listed : {a | k.Descends c a} ⊆ (k.toFinset : Set Contract) := by
    intro a above
    rw [List.coe_toFinset]
    obtain ⟨d, -, last⟩ := Relation.TransGen.tail'_iff.mp above
    exact last.mem
  calc
    {a | k.Descends c a}.encard ≤ (k.toFinset : Set Contract).encard := Set.encard_le_encard listed
    _ = (k.toFinset.card : ℕ∞) := Set.encard_coe_eq_coe_finsetCard _
    _ ≤ k.length := by exact_mod_cast k.toFinset_card_le

/-! ## Step by step -/

/-- A walk up from a contract. It is about to look at the next ancestor, if there is one, and has
looked at some before that, or it has come to an end. -/
inductive Walk where
  | looking (next : Option Contract) (seen : Nat)
  | ended (found : Bool)

namespace Walk

/-- A walk that begins. -/
def start (k : Catalogue) (c : Contract) : Walk :=
  .looking (k.parent? c) 0

/-- A walk looks at one more ancestor. It goes on if that is not the contract that it looks for,
and if it may look at another. -/
def step (k : Catalogue) (target : Contract) : Walk → Walk
  | .looking none _ => .ended false
  | .looking (some p) seen =>
    if p.same target then .ended true
    else if seen + 1 < ancestryLimit then .looking (k.parent? p) (seen + 1)
    else .ended false
  | .ended found => .ended found

theorem iterate_step_ended (found : Bool) (steps : Nat) :
    (step k a)^[steps] (.ended found) = .ended found :=
  Function.iterate_fixed rfl steps

/-- A walk that may look at so many more ancestors has ended when it has done so many steps. -/
theorem iterate_step_looking {limit seen : Nat} (left : seen + (limit + 1) = ancestryLimit) :
    (step k a)^[limit + 1] (.looking (k.parent? c) seen) =
      .ended (k.descendsWithin (limit + 1) c a) := by
  induction limit generalizing c seen with
  | zero =>
      have last : ¬ seen + 1 < ancestryLimit := by omega
      rw [Function.iterate_one, descendsWithin]
      cases parent : k.parent? c with
      | none => rfl
      | some p => cases same : p.same a <;> simp [step, same, last, descendsWithin]
  | succ limit ih =>
      have more : seen + 1 < ancestryLimit := by omega
      rw [Function.iterate_succ_apply, descendsWithin]
      cases parent : k.parent? c with
      | none => exact iterate_step_ended false _
      | some p =>
          cases same : p.same a with
          | true =>
              have here : step k a (.looking (some p) seen) = .ended true := by
                simp only [step, same, if_true]
              rw [here, iterate_step_ended]
              simp only [same, Bool.true_or]
          | false =>
              have onward : step k a (.looking (some p) seen) =
                  .looking (k.parent? p) (seen + 1) := by
                simp only [step, same, more, if_true, Bool.false_eq_true, if_false]
              rw [onward, ih (by omega)]
              simp only [same, Bool.false_or]

end Walk

/-- **The walk decides ancestry.** Whatever the catalogue declares, a walk has ended when it has
looked at thirty-two ancestors. What it finds is reached by going from contracts to those that they
extend; and if no more than thirty-two contracts are reached, it finds a contract exactly if one of
them has its identity, and so finds the contract where it starts exactly if it comes back there. If
contracts are told apart by their identities, then what is found from a contract that is found is
found. -/
theorem descends_decides_ancestry (k : Catalogue) (a b : Contract) :
    (Walk.step k b)^[32] (.start k a) = .ended (k.descends a b) ∧
    (k.descends a b = true → ∃ x, k.Descends a x ∧ x.id = b.id) ∧
    ({x | k.Descends a x}.encard ≤ 32 →
      (k.descends a b = true ↔ ∃ x, k.Descends a x ∧ x.id = b.id) ∧
      (k.descends a a = true ↔ ∃ x, k.Descends a x ∧ x.id = a.id) ∧
      ∀ S, k.Consistent S → a ∈ S → b ∈ S → ∀ c, k.descends a b = true →
        k.descends b c = true → k.descends a c = true) := by
  refine ⟨Walk.iterate_step_looking rfl, exists_descends, fun few => ?_⟩
  refine ⟨descends_iff_exists few, descends_iff_exists few, ?_⟩
  intro S consistent first second c found further
  obtain ⟨x, above, alike⟩ := exists_descends further
  -- Under the identity of `b` there is only `b`, so the second way goes on where the first ends.
  have below := consistent.descends_sound first second found
  exact (descends_iff_exists few).mpr ⟨x, below.trans above, alike⟩

/-- Some contracts of which each extends the next, and the last one the first. -/
def ring (size : Nat) : Catalogue :=
  (List.range size).map fun place =>
    { Contract.capability ⟨place, "Link"⟩ "link" .device with parent := some ((place + 1) % size) }

theorem consistent_ring (size : Nat) : (ring size).Consistent {c | c ∈ ring size} := by
  apply Consistent.of_distinct
  intro c first d second same
  obtain ⟨i, -, rfl⟩ := List.mem_map.mp first
  obtain ⟨j, -, rfl⟩ := List.mem_map.mp second
  obtain rfl : i = j := congrArg ContractId.number same
  rfl

/-- A walk around a ring of thirty-two contracts comes back to where it started, and two walks make
one. Around a ring of one contract more it does not come back. -/
theorem descends_decides_ancestry_on_ring :
    {x | (ring 32).Descends (ring 32)[0] x}.encard ≤ 32 ∧
      (ring 32).descends (ring 32)[0] (ring 32)[0] = true ∧
      (ring 32).descends (ring 32)[0] (ring 32)[10] = true ∧
      (ring 33).Descends (ring 33)[0] (ring 33)[0] ∧
      (ring 33).descends (ring 33)[0] (ring 33)[0] = false := by
  have few : {x | (ring 32).Descends (ring 32)[0] x}.encard ≤ 32 := encard_ancestors_le
  have around : (ring 32).Descends (ring 32)[0] (ring 32)[0] :=
    descends_iff_climb.mpr ⟨31, rfl⟩
  have around' : (ring 33).Descends (ring 33)[0] (ring 33)[0] :=
    descends_iff_climb.mpr ⟨32, rfl⟩
  obtain ⟨-, -, decided⟩ := descends_decides_ancestry (ring 32) (ring 32)[0] (ring 32)[20]
  obtain ⟨-, back, through⟩ := decided few
  have further := through _ (consistent_ring 32) (List.getElem_mem _) (List.getElem_mem _)
    (ring 32)[10] (by decide) (by decide)
  exact ⟨few, back.mpr ⟨_, around, rfl⟩, further, around', by decide⟩

end Catalogue

end Switchboard
