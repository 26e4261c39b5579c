import Mathlib.Data.Finset.Card
import Mathlib.Order.WellFoundedSet
import Switchboard.Proofs.Contract.Ancestry
import Switchboard.Proofs.Registry.Admission

/-!
# One identity

An object may stand for a contract that it lists if it has a single identity: at most one of the
contracts that it lists is extended by no other. What this comes to, as a rule on pairs:

* **counting** — what counts are the listed contracts without root markers, each once, in the
  order in which they are listed first (`Contract.mem_counted`, `Contract.counted_inOrder`);
* **the top** — above each contract that does not lead back to itself, there is one that no listed
  contract descends from (`Catalogue.exists_top`), so if only one such top is left, any two
  contracts below it are related (`Catalogue.Consistent.related_of_single`);
* **exactly** — if nothing leads back to itself, an object passes just if any two contracts that it
  lists are the same or related, and a refusal names the tops (`Catalogue.single_identity_exact`);
* **loops** — a contract that leads back to itself is no top, since it is extended by a listed
  contract, namely itself. So it is never counted, and may be listed beside anything
  (`Catalogue.conform_ignores_loops`).
-/

namespace Switchboard

namespace Contract

/-- The contracts that a declaration lists, the root markers left out. -/
def listed (direct : List Contract) : List Contract :=
  direct.filter (!·.isRoot)

/-! ## What is counted -/

theorem firstMentions_subset {l : List Contract} : firstMentions l ⊆ l := by
  induction l with
  | nil => exact List.Subset.refl _
  | cons c rest ih =>
      intro d mentioned
      rcases List.mem_cons.mp mentioned with here | later
      · exact List.mem_cons.mpr (.inl here)
      · exact List.mem_cons_of_mem _ (ih (List.mem_filter.mp later).1)

/-- Whatever is mentioned has a first mention. -/
theorem exists_firstMention {l : List Contract} {c : Contract} (member : c ∈ l) :
    ∃ d ∈ firstMentions l, d.id = c.id := by
  induction l with
  | nil => exact absurd member List.not_mem_nil
  | cons e rest ih =>
      by_cases first : e.id = c.id
      · exact ⟨e, List.mem_cons_self, first⟩
      · rcases List.mem_cons.mp member with rfl | later
        · exact absurd rfl first
        · obtain ⟨d, mentioned, same⟩ := ih later
          refine ⟨d, List.mem_cons_of_mem _ (List.mem_filter.mpr ⟨mentioned, ?_⟩), same⟩
          simpa [Contract.same, same] using fun h : c.id = e.id => first h.symm

variable {S : Set Contract} {direct l : List Contract} {c d : Contract}

theorem mem_firstMentions (distinct : ∀ c ∈ l, ∀ d ∈ l, c.id = d.id → c = d) :
    c ∈ firstMentions l ↔ c ∈ l := by
  constructor
  · intro mentioned
    exact firstMentions_subset mentioned
  · intro member
    obtain ⟨d, mentioned, same⟩ := exists_firstMention member
    rwa [← distinct d (firstMentions_subset mentioned) c member same]

/-- First mentions stand in the order in which contracts are mentioned first. -/
theorem firstMentions_inOrder (distinct : ∀ c ∈ l, ∀ d ∈ l, c.id = d.id → c = d) :
    (firstMentions l).Pairwise fun a b => l.idxOf a < l.idxOf b := by
  induction l with
  | nil => exact .nil
  | cons c rest ih =>
      have later : ∀ d ∈ (firstMentions rest).filter (!·.same c), c ≠ d := by
        intro d kept same
        subst same
        simpa [Contract.same] using (List.mem_filter.mp kept).2
      have tail := ih fun a first b second =>
        distinct a (List.mem_cons_of_mem _ first) b (List.mem_cons_of_mem _ second)
      rw [firstMentions, List.pairwise_cons]
      constructor
      · intro d kept
        rw [List.idxOf_cons_self, List.idxOf_cons_ne _ (later d kept)]
        exact Nat.succ_pos _
      · refine (tail.filter _).imp_of_mem ?_
        intro a b first second before
        rw [List.idxOf_cons_ne _ (later a first), List.idxOf_cons_ne _ (later b second)]
        exact Nat.succ_lt_succ before

/-- A contract is found among those that are counted if it is listed. -/
theorem declaredIn_counted : c.declaredIn (counted direct) = true ↔
    c.id ∈ (listed direct).map Contract.id := by
  rw [declaredIn, List.any_eq_true, List.mem_map]
  constructor
  · rintro ⟨d, mentioned, same⟩
    exact ⟨d, firstMentions_subset mentioned, beq_iff_eq.mp same⟩
  · rintro ⟨d, member, same⟩
    obtain ⟨e, mentioned, alike⟩ := exists_firstMention member
    exact ⟨e, mentioned, beq_iff_eq.mpr (alike.trans same)⟩

end Contract

namespace Catalogue

open Contract (listed counted)

variable {k : Catalogue} {S : Set Contract} {direct : List Contract} {a b c t : Contract}

/-- One of two contracts is an ancestor of the other. -/
def Related (k : Catalogue) (a b : Contract) : Prop :=
  k.Descends a b ∨ k.Descends b a

section

variable (consistent : k.Consistent S) (known : ∀ d ∈ listed direct, d ∈ S)

include consistent known

theorem Consistent.distinct : ∀ a ∈ listed direct, ∀ b ∈ listed direct, a.id = b.id → a = b := by
  intro a first b second
  exact consistent.faithful a (known a first) b (known b second)

theorem Consistent.mem_counted : c ∈ counted direct ↔ c ∈ listed direct :=
  Contract.mem_firstMentions (consistent.distinct known)

/-- The identities are the listed contracts from which no walk finds its way down. -/
theorem Consistent.mem_identities : t ∈ k.identities (counted direct) ↔
    t ∈ listed direct ∧ ∀ d ∈ listed direct, k.descends d t = false := by
  rw [identities, List.mem_filter, consistent.mem_counted known, Bool.not_eq_true',
    List.any_eq_false]
  simp only [consistent.mem_counted known, Bool.not_eq_true]

theorem Consistent.identities_inOrder : (k.identities (counted direct)).Pairwise fun a b =>
    (listed direct).idxOf a < (listed direct).idxOf b :=
  (Contract.firstMentions_inOrder (consistent.distinct known)).filter _

/-- There is at most one identity if any two of them are the same. -/
theorem Consistent.length_identities_le : (k.identities (counted direct)).length ≤ 1 ↔
    ∀ a ∈ k.identities (counted direct), ∀ b ∈ k.identities (counted direct), a = b := by
  have once : (k.identities (counted direct)).Nodup := by
    refine (consistent.identities_inOrder known).imp ?_
    rintro a _ before rfl
    exact Nat.lt_irrefl _ before
  rw [← List.toFinset_card_of_nodup once, Finset.card_le_one]
  simp only [List.mem_toFinset]

end

/-! ## Tops -/

/-- `k.Below d c`: the contract `d` descends from `c`, which does not lead back to itself. -/
def Below (k : Catalogue) (d c : Contract) : Prop :=
  k.Descends d c ∧ ¬ k.Descends c c

theorem isStrictOrder_below : IsStrictOrder Contract k.Below where
  irrefl c below := below.2 below.1
  trans := by
    rintro c d e ⟨first, -⟩ ⟨second, loopless⟩
    exact ⟨first.trans second, loopless⟩

/-- Above each contract that does not lead back to itself, there is a top. -/
theorem exists_top {D : List Contract} (member : a ∈ D) (loopless : ¬ k.Descends a a) :
    ∃ t ∈ D, (t = a ∨ k.Descends t a) ∧ ∀ d ∈ D, ¬ k.Descends d t := by
  have order := isStrictOrder_below (k := k)
  have grounded : Set.WellFoundedOn {d | d ∈ D} k.Below := D.finite_toSet.wellFoundedOn
  -- Whoever goes on to a listed contract below the last one comes to a top in the end.
  refine grounded.induction (P := fun c => ¬ k.Descends c c → ∃ t ∈ D, (t = c ∨ k.Descends t c) ∧
    ∀ d ∈ D, ¬ k.Descends d t) member ?_ loopless
  intro c member ih loopless
  by_cases extended : ∃ d ∈ D, k.Descends d c
  · obtain ⟨d, other, above⟩ := extended
    have loopless' : ¬ k.Descends d d := fun back => loopless (back.loop above)
    obtain ⟨t, top, here | higher, alone⟩ := ih d other ⟨above, loopless⟩ loopless'
    · exact ⟨t, top, .inr (here ▸ above), alone⟩
    · exact ⟨t, top, .inr (higher.trans above), alone⟩
  · refine ⟨c, member, .inl rfl, ?_⟩
    intro d other above
    exact extended ⟨d, other, above⟩

/-- If there is at most one identity, any two listed contracts are related that do not lead back
to themselves. -/
theorem Consistent.related_of_single (consistent : k.Consistent S)
    (known : ∀ d ∈ listed direct, d ∈ S)
    (single : (k.identities (counted direct)).length ≤ 1) (first : a ∈ listed direct)
    (second : b ∈ listed direct) (other : a ≠ b) (loopless : ¬ k.Descends a a)
    (loopless' : ¬ k.Descends b b) : k.Related a b := by
  have identity : ∀ t ∈ listed direct, (∀ d ∈ listed direct, ¬ k.Descends d t) →
      t ∈ k.identities (counted direct) := by
    intro t top alone
    refine (consistent.mem_identities known).mpr ⟨top, fun d member => ?_⟩
    refine Bool.eq_false_iff.mpr fun found => alone d member ?_
    exact consistent.descends_sound (known d member) (known t top) found
  obtain ⟨t, top, above, alone⟩ := exists_top first loopless
  obtain ⟨u, top', above', alone'⟩ := exists_top second loopless'
  obtain rfl : t = u := (consistent.length_identities_le known).mp single
    t (identity t top alone) u (identity u top' alone')
  rcases above with rfl | above <;> rcases above' with rfl | above'
  · exact absurd rfl other
  · exact .inl above'
  · exact .inr above
  · exact (above.comparable above').resolve_left other

/-- Within the reach of the walk there is at most one identity if any two listed contracts are
related that do not lead back to themselves. -/
theorem Consistent.single_of_related (consistent : k.Consistent S)
    (known : ∀ d ∈ listed direct, d ∈ S)
    (few : ∀ d ∈ listed direct, {x | k.Descends d x}.encard ≤ ancestryLimit)
    (related : ∀ a ∈ listed direct, ∀ b ∈ listed direct, a ≠ b → ¬ k.Descends a a →
      ¬ k.Descends b b → k.Related a b) :
    (k.identities (counted direct)).length ≤ 1 := by
  -- The walk finds its way down from no listed contract to an identity, itself included.
  have alone : ∀ t ∈ k.identities (counted direct), t ∈ listed direct ∧
      ∀ d ∈ listed direct, ¬ k.Descends d t := by
    intro t identity
    obtain ⟨top, unseen⟩ := (consistent.mem_identities known).mp identity
    refine ⟨top, fun d member above => ?_⟩
    exact Bool.false_ne_true ((unseen d member).symm.trans (above.found (few d member)))
  rw [consistent.length_identities_le known]
  intro a identity b identity'
  obtain ⟨first, unextended⟩ := alone a identity
  obtain ⟨second, unextended'⟩ := alone b identity'
  by_contra other
  rcases related a first b second other (unextended a first) (unextended' b second) with
    down | down
  · exact unextended' a first down
  · exact unextended b second down

/-! ## Verdicts -/

theorem conform_of_undeclared (undeclared : c.id ∉ (listed direct).map Contract.id) :
    k.conform direct c = .error (.notImplemented c.name) := by
  have absent : c.declaredIn (counted direct) = false := by
    rwa [← Bool.not_eq_true, Contract.declaredIn_counted]
  simp [conform, absent]

theorem conform_of_several (declared : c.id ∈ (listed direct).map Contract.id)
    (several : 1 < (k.identities (counted direct)).length) :
    k.conform direct c =
      .error (.severalCapabilities c.name ((k.identities (counted direct)).map (·.name))) := by
  simp [conform, Contract.declaredIn_counted.mpr declared, several]

theorem conform_of_single (declared : c.id ∈ (listed direct).map Contract.id)
    (single : (k.identities (counted direct)).length ≤ 1) : k.conform direct c = .ok () :=
  conform_eq_ok_iff.mpr ⟨Contract.declaredIn_counted.mpr declared, single⟩

/-- The contracts `tops` are those of the listed ones from which no other of these descends, each
once, in the order in which they are listed first. -/
structure Tops (k : Catalogue) (listed tops : List Contract) : Prop where
  mem_iff : ∀ t, t ∈ tops ↔ t ∈ listed ∧ ∀ d ∈ listed, d ≠ t → ¬ k.Descends d t
  inOrder : tops.Pairwise fun a b => listed.idxOf a < listed.idxOf b

/-- Where nothing leads back to itself, the identities are the tops. -/
theorem Consistent.tops (consistent : k.Consistent S) (known : ∀ d ∈ listed direct, d ∈ S)
    (loopless : ∀ d ∈ listed direct, ¬ k.Descends d d)
    (few : ∀ d ∈ listed direct, {x | k.Descends d x}.encard ≤ ancestryLimit) :
    k.Tops (listed direct) (k.identities (counted direct)) where
  mem_iff t := by
    rw [consistent.mem_identities known]
    refine and_congr_right fun member => forall₂_congr fun d other => ?_
    rw [← Bool.not_eq_true, consistent.descends_iff (known d other) (known t member) (few d other)]
    constructor
    · intro alone _
      exact alone
    · intro alone above
      exact alone (fun same => loopless t member (same ▸ above)) above
  inOrder := consistent.identities_inOrder known

/-- **One identity, exactly.** Take any contracts that can be told apart by their identities, none
of which leads back to itself or has more than thirty-two ancestors, and any declaration that lists
some of them, in any order, with repetitions and root markers. An object that declares so may stand
for a contract exactly if it lists it, and of any two contracts that it lists, root markers apart,
they are the same or one is an ancestor of the other. It does not implement a contract exactly if it
does not list it. In all other cases it is refused for the tops among the listed contracts, each
named once, in the order in which they are listed first. -/
theorem single_identity_exact (consistent : k.Consistent S)
    (loopless : ∀ c ∈ S, ¬ k.Descends c c) (few : ∀ c ∈ S, {a | k.Descends c a}.encard ≤ 32)
    (known : ∀ d ∈ listed direct, d ∈ S) (c : Contract) :
    (k.conform direct c = .ok () ↔
      c.id ∈ (listed direct).map Contract.id ∧
        ∀ a ∈ listed direct, ∀ b ∈ listed direct, a = b ∨ k.Related a b) ∧
    (k.conform direct c = .error (.notImplemented c.name) ↔
      c.id ∉ (listed direct).map Contract.id) ∧
    (c.id ∈ (listed direct).map Contract.id →
      ¬ (∀ a ∈ listed direct, ∀ b ∈ listed direct, a = b ∨ k.Related a b) →
      ∃ tops, k.Tops (listed direct) tops ∧
        k.conform direct c = .error (.severalCapabilities c.name (tops.map (·.name)))) := by
  have near : ∀ d ∈ listed direct, {x | k.Descends d x}.encard ≤ ancestryLimit :=
    fun d member => few d (known d member)
  have proper : ∀ d ∈ listed direct, ¬ k.Descends d d :=
    fun d member => loopless d (known d member)
  have single_iff : (k.identities (counted direct)).length ≤ 1 ↔
      ∀ a ∈ listed direct, ∀ b ∈ listed direct, a = b ∨ k.Related a b := by
    constructor
    · intro single a first b second
      refine or_iff_not_imp_left.mpr fun other => ?_
      exact consistent.related_of_single known single first second other (proper a first)
        (proper b second)
    · intro related
      refine consistent.single_of_related known near ?_
      intro a first b second other _ _
      exact (related a first b second).resolve_left other
  refine ⟨?_, ?_, ?_⟩
  · rw [conform_eq_ok_iff, Contract.declaredIn_counted, single_iff]
  · constructor
    · -- Whatever is listed is refused for other reasons, if at all.
      intro refused declared
      rcases Nat.lt_or_ge 1 (k.identities (counted direct)).length with several | single
      · rw [conform_of_several declared several] at refused
        cases refused
      · rw [conform_of_single declared single] at refused
        cases refused
    · exact conform_of_undeclared
  · intro declared unrelated
    refine ⟨_, consistent.tops known proper near, conform_of_several declared ?_⟩
    exact Nat.lt_of_not_ge fun single => unrelated (single_iff.mp single)

/-- A plain processor, one with a bus that extends it, and a terminal. -/
def boards : Catalogue := [
  .cpu ⟨0, "Cpu"⟩,
  { Contract.capability ⟨1, "Bus"⟩ "bus" .cpu with parent := some 0 },
  .device ⟨2, "Terminal"⟩]

/-- What a board declares that has a processor with a bus, mentioned twice, and a terminal. -/
def boardContracts : List Contract :=
  [boards[1], .rootMarker ⟨3, "Context"⟩, boards[0], boards[2], boards[1]]

/-- A board is refused as a processor, for its bus and its terminal. -/
theorem single_identity_exact_on_board :
    (boards.Consistent {c | c ∈ boards} ∧ (∀ c ∈ boards, ¬ boards.Descends c c) ∧
      (∀ c ∈ boards, {a | boards.Descends c a}.encard ≤ 32) ∧
      ∀ d ∈ listed boardContracts, d ∈ boards) ∧
    ∃ tops, boards.Tops (listed boardContracts) tops ∧ tops.map (·.name) = ["bus", "device"] ∧
      boards.conform boardContracts boards[0] =
        .error (.severalCapabilities "cpu" (tops.map (·.name))) := by
  have consistent : boards.Consistent {c | c ∈ boards} := .of_distinct (by decide)
  have few : ∀ c ∈ boards, {a | boards.Descends c a}.encard ≤ 32 :=
    fun c _ => encard_ancestors_le.trans (by decide)
  have loopless : ∀ c ∈ boards, ¬ boards.Descends c c := by
    intro c member back
    have unseen : ∀ c ∈ boards, boards.descends c c = false := by decide
    exact Bool.false_ne_true ((unseen c member).symm.trans (back.found (few c member)))
  have known : ∀ d ∈ listed boardContracts, d ∈ boards := by decide
  obtain ⟨passes, -, refused⟩ := single_identity_exact consistent loopless few known boards[0]
  have verdict : boards.conform boardContracts boards[0] =
      .error (.severalCapabilities "cpu" ["bus", "device"]) := by rfl
  have declared : boards[0].id ∈ (listed boardContracts).map Contract.id := by decide
  obtain ⟨tops, exact, named⟩ := refused declared fun related => by
    rw [verdict] at passes
    cases passes.mpr ⟨declared, related⟩
  refine ⟨⟨consistent, loopless, few, known⟩, tops, exact, ?_, named⟩
  rw [verdict, Except.error.injEq, Rejection.severalCapabilities.injEq] at named
  exact named.2.symm

/-! ## Loops -/

/-- **Loops are not counted.** Take any contracts that can be told apart by their identities,
whatever they extend, and any declaration that lists some of them. If an object that declares so may
stand for a contract, then any two contracts that it lists, root markers apart, are related, unless
one of them leads back to itself: such a contract may be listed beside anything. If none of the
listed contracts has more than thirty-two ancestors, nothing else is needed but that the object
lists the contract it is to stand for. -/
theorem conform_ignores_loops (consistent : k.Consistent S) (known : ∀ d ∈ listed direct, d ∈ S)
    (c : Contract) :
    (k.conform direct c = .ok () → ∀ a ∈ listed direct, ∀ b ∈ listed direct, a ≠ b →
      k.Related a b ∨ k.Descends a a ∨ k.Descends b b) ∧
    ((∀ d ∈ listed direct, {a | k.Descends d a}.encard ≤ 32) →
      (k.conform direct c = .ok () ↔ c.id ∈ (listed direct).map Contract.id ∧
        ∀ a ∈ listed direct, ∀ b ∈ listed direct, a ≠ b →
          k.Related a b ∨ k.Descends a a ∨ k.Descends b b)) := by
  have sound : k.conform direct c = .ok () → ∀ a ∈ listed direct, ∀ b ∈ listed direct, a ≠ b →
      k.Related a b ∨ k.Descends a a ∨ k.Descends b b := by
    intro accepted a first b second other
    have single := (conform_eq_ok_iff.mp accepted).2
    by_cases back : k.Descends a a
    · exact .inr (.inl back)
    · by_cases back' : k.Descends b b
      · exact .inr (.inr back')
      · exact .inl (consistent.related_of_single known single first second other back back')
  refine ⟨sound, fun few => ⟨fun accepted => ⟨?_, sound accepted⟩, ?_⟩⟩
  · exact Contract.declaredIn_counted.mp (conform_eq_ok_iff.mp accepted).1
  · rintro ⟨declared, related⟩
    refine conform_of_single declared (consistent.single_of_related known few ?_)
    intro a first b second other loopless loopless'
    rcases related a first b second other with line | back | back
    · exact line
    · exact absurd back loopless
    · exact absurd back loopless'

/-- A timer that extends itself, and a processor. -/
def loops : Catalogue := [
  { Contract.capability ⟨0, "Timer"⟩ "timer" .device with parent := some 0 },
  .cpu ⟨1, "Cpu"⟩]

/-- An object that declares a processor and a timer that extends itself may stand for a processor,
although the two are not related. The timer is the one that leads back to itself. -/
theorem conform_ignores_loops_beside_processor :
    loops.Consistent {c | c ∈ loops} ∧ (∀ d ∈ listed loops, d ∈ loops) ∧
      loops.conform loops loops[1] = .ok () ∧ ¬ loops.Related loops[0] loops[1] ∧
      loops.Descends loops[0] loops[0] := by
  have consistent : loops.Consistent {c | c ∈ loops} := .of_distinct (by decide)
  have known : ∀ d ∈ listed loops, d ∈ loops := by decide
  have accepted : loops.conform loops loops[1] = .ok () := by rfl
  have unseen : ∀ a b, loops.descends a b = false → ¬ loops.Descends a b := by
    intro a b unseen above
    have found := above.found (encard_ancestors_le.trans (by decide))
    exact Bool.false_ne_true (unseen.symm.trans found)
  have unrelated : ¬ loops.Related loops[0] loops[1] := by
    rintro (down | up)
    · exact unseen _ _ (by decide) down
    · exact unseen _ _ (by decide) up
  refine ⟨consistent, known, accepted, unrelated, ?_⟩
  rcases (conform_ignores_loops consistent known loops[1]).1 accepted loops[0] (by decide)
    loops[1] (by decide) (by decide) with related | back | back
  · exact absurd related unrelated
  · exact back
  · exact absurd back (unseen _ _ (by decide))

end Catalogue

end Switchboard
