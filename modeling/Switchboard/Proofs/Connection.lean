import Mathlib.Data.Finset.Card
import Switchboard.Connection

/-!
# Edges of a table

A table of connections keeps a row of owners for each requester. What it means is a set of directed
edges (`ConnectionTable.edges`), and everything that can be asked of the table is about that set:

* **answers** — two components are connected if the edge is in the set
  (`ConnectionTable.mem_edges`), what a requester may see are the ends of its edges in ascending
  order (`ConnectionTable.visibleFrom_ascending`, `ConnectionTable.mem_visibleFrom`), and the table
  counts its edges (`ConnectionTable.card_edges`);
* **edits** — each edit of the table does to the set what it says (`ConnectionTable.edges_connect`
  and the following), and leaves no requester with an empty row (`ConnectionTable.Tidy`);
* **in the long run** — so a table that was edited in any way answers for the set that was edited
  in the same way (`GraphCommand.table_refines_edges`).
-/

namespace Switchboard

/-- A directed edge: a requester, and an owner that it may see. -/
abbrev Edge := ComponentId × ComponentId

namespace ConnectionTable

variable {t : ConnectionTable} {r o a b c : ComponentId} {edge : Edge}

/-- The edges of a table, row by row. -/
def edgeList (t : ConnectionTable) : List Edge :=
  t.rows.pairs.flatMap fun row => row.2.keys.map (row.1, ·)

/-- The edges of a table. -/
def edges (t : ConnectionTable) : Finset Edge :=
  t.edgeList.toFinset

/-- No requester has an empty row. -/
def Tidy (t : ConnectionTable) : Prop :=
  ∀ r owners, t.rows.get? r = some owners → owners.isEmpty = false

/-! ## Answers -/

theorem connected_iff : t.connected r o = true ↔
    ∃ owners, t.rows.get? r = some owners ∧ o ∈ owners.keys := by
  rw [connected, row, Dictionary.contains_eq_isSome, Option.isSome_iff_exists,
    ← Dictionary.mem_keys_iff]
  cases t.rows.get? r with
  | none => simp [Dictionary.keys, Dictionary.empty]
  | some owners => simp

theorem mem_edges : (r, o) ∈ t.edges ↔ t.connected r o = true := by
  rw [connected_iff, edges, List.mem_toFinset, edgeList, List.mem_flatMap]
  constructor
  · rintro ⟨row, member, found⟩
    obtain ⟨owner, present, same⟩ := List.mem_map.mp found
    cases same
    exact ⟨row.2, Dictionary.get?_eq_some_iff.mpr member, present⟩
  · rintro ⟨owners, found, present⟩
    exact ⟨(r, owners), Dictionary.get?_eq_some_iff.mp found, List.mem_map.mpr ⟨o, present, rfl⟩⟩

/-- No edge is listed twice: rows have different requesters, and a row has different owners. -/
theorem nodup_edgeList (t : ConnectionTable) : t.edgeList.Nodup := by
  rw [edgeList, List.nodup_flatMap]
  constructor
  · intro row _
    exact row.2.distinct.map (Prod.mk_right_injective row.1)
  · refine (List.pairwise_map.mp t.rows.distinct).imp ?_
    intro row other apart edge first second
    obtain ⟨_, -, rfl⟩ := List.mem_map.mp first
    obtain ⟨_, -, same⟩ := List.mem_map.mp second
    exact apart (congrArg Prod.fst same).symm

theorem length_edgeList (t : ConnectionTable) : t.edgeList.length = t.edgeCount := by
  rw [edgeList, edgeCount, Dictionary.values, total_map]
  induction t.rows.pairs with
  | nil => rfl
  | cons row rest ih =>
      rw [List.flatMap_cons, List.length_append, ih, total_cons, List.length_map]
      simp [Dictionary.keys, Dictionary.size]

theorem card_edges (t : ConnectionTable) : t.edges.card = t.edgeCount := by
  rw [edges, List.toFinset_card_of_nodup t.nodup_edgeList, length_edgeList]

theorem mem_visibleFrom : o ∈ t.visibleFrom r ↔ (r, o) ∈ t.edges := by
  rw [visibleFrom, ComponentId.mem_sorted, mem_edges, connected,
    Dictionary.contains_eq_isSome, Option.isSome_iff_exists, Dictionary.mem_keys_iff]

/-- What a requester may see is listed in strictly ascending order. -/
theorem visibleFrom_ascending (t : ConnectionTable) (r : ComponentId) :
    (t.visibleFrom r).Pairwise (·.number < ·.number) :=
  ComponentId.sorted_ascending (t.row r).distinct

/-! ## Rows -/

theorem connected_eq (t : ConnectionTable) (r o : ComponentId) :
    t.connected r o = ((t.row r).get? o).isSome := by
  rw [connected, Dictionary.contains_eq_isSome]

/-- A row that is forgotten when it is empty still answers as it would. -/
theorem get?_kept (owners : ComponentSet) (o : ComponentId) :
    Dictionary.get? ((if owners.isEmpty then none else some owners).getD .empty) o =
      owners.get? o := by
  split
  · rename_i nobody
    exact (Dictionary.isEmpty_iff.mp nobody o).symm
  · rfl

theorem get?_rows_setRow (t : ConnectionTable) (a r : ComponentId) (owners : ComponentSet) :
    (t.setRow a owners).rows.get? r =
      if a = r then (if owners.isEmpty then none else some owners) else t.rows.get? r := by
  unfold setRow
  by_cases nobody : owners.isEmpty = true
  · rw [if_pos nobody, if_pos nobody, Dictionary.get?_erase]
    simp only [eq_comm]
  · rw [if_neg nobody, if_neg nobody, Dictionary.get?_put]

theorem get?_rows_removeComponent (t : ConnectionTable) (c r : ComponentId) :
    (t.removeComponent c).rows.get? r = (if r = c then none else t.rows.get? r).bind fun owners =>
      if (owners.erase c).isEmpty then none else some (owners.erase c) := by
  rw [removeComponent, Dictionary.get?_filterMapValues, Dictionary.get?_erase]

theorem connected_connect (t : ConnectionTable) (a b r o : ComponentId) :
    (t.connect a b).connected r o = true ↔ (r, o) = (a, b) ∨ t.connected r o = true := by
  have row_connect : (t.connect a b).row r =
      if a = r then (t.row a).put b () else t.row r := by
    rw [row, connect, Dictionary.get?_put]
    split <;> rfl
  rw [connected_eq, connected_eq, row_connect, Prod.mk.injEq]
  by_cases here : a = r
  · subst here
    rw [if_pos rfl, Dictionary.get?_put]
    by_cases same : b = o
    · simp [same]
    · simp [same, Ne.symm same]
  · simp [here, Ne.symm here]

theorem connected_setRow (t : ConnectionTable) (a r o : ComponentId) (owners : ComponentSet) :
    (t.setRow a owners).connected r o =
      if a = r then (owners.get? o).isSome else t.connected r o := by
  rw [connected_eq, connected_eq, row, get?_rows_setRow]
  split
  · rw [get?_kept]
  · rfl

theorem connected_disconnect (t : ConnectionTable) (a b r o : ComponentId) :
    (t.disconnect a b).1.connected r o = true ↔ (r, o) ≠ (a, b) ∧ t.connected r o = true := by
  unfold disconnect
  cases found : t.rows.get? a with
  | none =>
      -- A requester without a row has no edge to lose.
      have absent : t.connected a b = false := by
        rw [connected_eq, row, found]
        rfl
      refine ⟨fun connected => ⟨?_, connected⟩, And.right⟩
      rintro same
      cases same
      exact Bool.false_ne_true (absent.symm.trans connected)
  | some owners =>
      dsimp only
      rw [connected_setRow, connected_eq, ne_eq, Prod.mk.injEq]
      by_cases here : a = r
      · subst here
        rw [if_pos rfl, Dictionary.get?_erase, row, found]
        by_cases same : o = b <;> simp [same]
      · simp [here, Ne.symm here]

theorem disconnect_snd (t : ConnectionTable) (a b : ComponentId) :
    (t.disconnect a b).2 = t.connected a b := by
  unfold disconnect
  rw [connected, row]
  cases t.rows.get? a <;> rfl

theorem connected_removeComponent (t : ConnectionTable) (c r o : ComponentId) :
    (t.removeComponent c).connected r o = true ↔
      (r ≠ c ∧ o ≠ c) ∧ t.connected r o = true := by
  rw [connected_eq, connected_eq, row, row, get?_rows_removeComponent]
  by_cases start : r = c
  · simp [start, Dictionary.empty, Dictionary.get?]
  · rw [if_neg start]
    cases t.rows.get? r with
    | none => simp [Dictionary.empty, Dictionary.get?]
    | some owners =>
        rw [Option.bind_some, get?_kept, Dictionary.get?_erase]
        by_cases last : o = c <;> simp [start, last]

/-! ## Edits -/

theorem edges_connect (t : ConnectionTable) (a b : ComponentId) :
    (t.connect a b).edges = insert (a, b) t.edges := by
  ext ⟨r, o⟩
  rw [Finset.mem_insert, mem_edges, mem_edges, connected_connect]

theorem edges_connectBoth (t : ConnectionTable) (a b : ComponentId) :
    (t.connectBoth a b).edges = insert (b, a) (insert (a, b) t.edges) := by
  rw [connectBoth, edges_connect, edges_connect]

theorem edges_disconnect (t : ConnectionTable) (a b : ComponentId) :
    (t.disconnect a b).1.edges = t.edges.erase (a, b) := by
  ext ⟨r, o⟩
  rw [Finset.mem_erase, mem_edges, mem_edges, connected_disconnect]

theorem edges_removeComponent (t : ConnectionTable) (c : ComponentId) :
    (t.removeComponent c).edges = t.edges.filter fun edge => edge.1 ≠ c ∧ edge.2 ≠ c := by
  ext ⟨r, o⟩
  rw [Finset.mem_filter, mem_edges, mem_edges, connected_removeComponent, and_comm]

/-! ## Tidiness -/

theorem tidy_empty : Tidy empty := by
  intro r owners found
  cases found

/-- A row that was kept is not empty. -/
theorem isEmpty_of_kept {owners left : ComponentSet}
    (kept : (if left.isEmpty then none else some left) = some owners) : owners.isEmpty = false := by
  split at kept
  · cases kept
  · rename_i somebody
    cases kept
    exact Bool.eq_false_iff.mpr somebody

theorem Tidy.connect (tidy : t.Tidy) (a b : ComponentId) : (t.connect a b).Tidy := by
  intro r owners found
  rw [ConnectionTable.connect, Dictionary.get?_put] at found
  split at found
  · cases found
    refine Bool.eq_false_iff.mpr fun nobody => ?_
    have there := Dictionary.isEmpty_iff.mp nobody b
    rw [Dictionary.get?_put, if_pos rfl] at there
    cases there
  · exact tidy r owners found

theorem Tidy.disconnect (tidy : t.Tidy) (a b : ComponentId) : (t.disconnect a b).1.Tidy := by
  unfold ConnectionTable.disconnect
  split
  · exact tidy
  · intro r owners found
    rw [get?_rows_setRow] at found
    split at found
    · exact isEmpty_of_kept found
    · exact tidy r owners found

theorem Tidy.removeComponent (t : ConnectionTable) (c : ComponentId) :
    (t.removeComponent c).Tidy := by
  intro r owners found
  rw [get?_rows_removeComponent, Option.bind_eq_some_iff] at found
  obtain ⟨before, -, kept⟩ := found
  exact isEmpty_of_kept kept

end ConnectionTable

/-! ## In the long run -/

namespace GraphCommand

open ConnectionTable

/-- What a command does to a set of edges. -/
def edit (edges : Finset Edge) : GraphCommand → Finset Edge
  | connect requester owner => insert (requester, owner) edges
  | connectBoth a b => insert (b, a) (insert (a, b) edges)
  | disconnect requester owner => edges.erase (requester, owner)
  | removeComponent component =>
    edges.filter fun edge => edge.1 ≠ component ∧ edge.2 ≠ component
  | connected .. => edges
  | visibleFrom _ => edges
  | edgeCount => edges

/-- The edges that some commands leave, if there were none before. -/
def edgesLeft (commands : List GraphCommand) : Finset Edge :=
  commands.foldl edit ∅

/-- The graph that some commands leave. -/
def graphLeft (g : Graph) (commands : List GraphCommand) : Graph :=
  commands.foldl (fun g command => (command.run g).1) g

/-- A command does to a table what it does to its edges, and keeps it tidy. -/
theorem run_table (t : ConnectionTable) (command : GraphCommand) (tidy : t.Tidy) :
    ∃ next, (command.run (.table t)).1 = .table next ∧ next.Tidy ∧
      next.edges = command.edit t.edges := by
  cases command with
  | connect a b => exact ⟨t.connect a b, rfl, tidy.connect a b, t.edges_connect a b⟩
  | connectBoth a b =>
      exact ⟨t.connectBoth a b, rfl, (tidy.connect a b).connect b a, t.edges_connectBoth a b⟩
  | disconnect a b =>
      exact ⟨(t.disconnect a b).1, rfl, tidy.disconnect a b, t.edges_disconnect a b⟩
  | removeComponent c =>
      exact ⟨t.removeComponent c, rfl, .removeComponent t c, t.edges_removeComponent c⟩
  | connected r o => exact ⟨t, rfl, tidy, rfl⟩
  | visibleFrom r => exact ⟨t, rfl, tidy, rfl⟩
  | edgeCount => exact ⟨t, rfl, tidy, rfl⟩

/-- So do any commands. -/
theorem graphLeft_table (commands : List GraphCommand) (t : ConnectionTable) (tidy : t.Tidy) :
    ∃ next, graphLeft (.table t) commands = .table next ∧ next.Tidy ∧
      next.edges = commands.foldl edit t.edges := by
  induction commands generalizing t with
  | nil => exact ⟨t, rfl, tidy, rfl⟩
  | cons command rest ih =>
      obtain ⟨next, stepped, tidy', edges⟩ := run_table t command tidy
      obtain ⟨last, left, tidy'', edges'⟩ := ih next tidy'
      refine ⟨last, ?_, tidy'', ?_⟩
      · rw [graphLeft, List.foldl_cons, stepped]
        exact left
      · rw [List.foldl_cons, ← edges]
        exact edges'

/-- **A table is its edges.** Start from a table without edges, edit and question it in any way, and
do the same to a set of edges. At any time, two components are connected exactly if the edge is in
the set; taking an edge away answers whether it was in the set; what a requester may see are, in
strictly ascending order, the ends of the edges that start at it; the table counts as many edges as
are in the set; and no requester in it has an empty row. -/
theorem table_refines_edges (commands : List GraphCommand) :
    (∀ r o, (run (graphLeft (.table .empty) commands) (.connected r o)).2 =
      .flag (decide ((r, o) ∈ edgesLeft commands))) ∧
    (∀ r o, (run (graphLeft (.table .empty) commands) (.disconnect r o)).2 =
      .flag (decide ((r, o) ∈ edgesLeft commands))) ∧
    (∀ r, ∃ owners, (run (graphLeft (.table .empty) commands) (.visibleFrom r)).2 =
        .components owners ∧ owners.Pairwise (·.number < ·.number) ∧
      ∀ o, o ∈ owners ↔ (r, o) ∈ edgesLeft commands) ∧
    (run (graphLeft (.table .empty) commands) .edgeCount).2 =
      .count (edgesLeft commands).card ∧
    ∃ t, graphLeft (.table .empty) commands = .table t ∧
      ∀ r owners, t.rows.get? r = some owners → owners.isEmpty = false := by
  obtain ⟨t, left, tidy, edges⟩ := graphLeft_table commands .empty tidy_empty
  have same : edgesLeft commands = t.edges := edges.symm
  have connected : ∀ r o, t.connected r o = decide ((r, o) ∈ t.edges) := by
    intro r o
    rw [Bool.eq_iff_iff, decide_eq_true_eq, mem_edges]
  rw [left, same]
  refine ⟨?_, ?_, ?_, ?_, t, rfl, tidy⟩
  · intro r o
    exact congrArg GraphAnswer.flag (connected r o)
  · intro r o
    exact congrArg GraphAnswer.flag ((t.disconnect_snd r o).trans (connected r o))
  · intro r
    exact ⟨t.visibleFrom r, rfl, t.visibleFrom_ascending r, fun o => mem_visibleFrom⟩
  · exact congrArg GraphAnswer.count t.card_edges.symm

end GraphCommand

end Switchboard
