import Switchboard.Component
import Switchboard.Dictionary
import Switchboard.Total

/-!
# Connections

Which components may see the contexts of which owners. A graph is consulted at
every lookup; it is either fixed by a rule, or a table of directed edges that may
be changed at any time. A table keeps, for each requester, the owners it may see,
and forgets a requester that may see none.
-/

namespace Switchboard

/-- A set of components. -/
abbrev ComponentSet := Dictionary ComponentId Unit

/-- A table of directed edges: for each requester the owners it may see. -/
structure ConnectionTable where
  rows : Dictionary ComponentId ComponentSet

namespace ConnectionTable

/-- The table without edges. -/
def empty : ConnectionTable := ⟨.empty⟩

/-- The owners that a requester may see. -/
def row (t : ConnectionTable) (requester : ComponentId) : ComponentSet :=
  (t.rows.get? requester).getD .empty

/-- Whether there is an edge. -/
def connected (t : ConnectionTable) (requester owner : ComponentId) : Bool :=
  (t.row requester).contains owner

/-- Add an edge. -/
def connect (t : ConnectionTable) (requester owner : ComponentId) : ConnectionTable :=
  ⟨t.rows.put requester ((t.row requester).put owner ())⟩

/-- Add the edges in both directions. -/
def connectBoth (t : ConnectionTable) (a b : ComponentId) : ConnectionTable :=
  (t.connect a b).connect b a

/-- Replace the row of a requester, or forget the requester if the row is empty. -/
def setRow (t : ConnectionTable) (requester : ComponentId) (owners : ComponentSet) :
    ConnectionTable :=
  if owners.isEmpty then ⟨t.rows.erase requester⟩ else ⟨t.rows.put requester owners⟩

/-- Remove an edge, and say whether it was there. -/
def disconnect (t : ConnectionTable) (requester owner : ComponentId) : ConnectionTable × Bool :=
  match t.rows.get? requester with
  | none => (t, false)
  | some owners => (t.setRow requester (owners.erase owner), owners.contains owner)

/-- Remove every edge that starts or ends at a component. -/
def removeComponent (t : ConnectionTable) (component : ComponentId) : ConnectionTable :=
  ⟨(t.rows.erase component).filterMapValues fun _ owners =>
    let left := owners.erase component
    if left.isEmpty then none else some left⟩

/-- The owners that a requester may see, in ascending order. -/
def visibleFrom (t : ConnectionTable) (requester : ComponentId) : List ComponentId :=
  ComponentId.sorted (t.row requester).keys

/-- How many edges there are. -/
def edgeCount (t : ConnectionTable) : Nat :=
  total Dictionary.size t.rows.values

/-- The table with certain edges, added in order. -/
def ofEdges (edges : List (ComponentId × ComponentId)) : ConnectionTable :=
  edges.foldl (fun t edge => t.connect edge.1 edge.2) empty

end ConnectionTable

/-- A rule for who may see whom. -/
inductive Graph where
  /-- Everyone sees everyone. -/
  | full
  /-- No one sees anyone else. -/
  | isolated
  /-- A test of requester and owner decides. -/
  | rule (test : ComponentId → ComponentId → Bool)
  /-- The edges of a table decide. -/
  | table (edges : ConnectionTable)

namespace Graph

/-- Whether a requester may see an owner. A component has no edge to itself unless
the graph says so. -/
def connects (g : Graph) (requester owner : ComponentId) : Bool :=
  match g with
  | full => true
  | isolated => false
  | rule test => test requester owner
  | table edges => edges.connected requester owner

/-- The table of a graph; another graph has no edges of its own. -/
def edges : Graph → ConnectionTable
  | table edges => edges
  | _ => .empty

/-- Change the table of a graph; a graph of another kind stays as it is. -/
def change (g : Graph) (f : ConnectionTable → ConnectionTable) : Graph :=
  match g with
  | table edges => table (f edges)
  | g => g

end Graph

/-- What can be asked of a graph. -/
inductive GraphCommand where
  | connected (requester owner : ComponentId)
  | connect (requester owner : ComponentId)
  | connectBoth (a b : ComponentId)
  | disconnect (requester owner : ComponentId)
  | removeComponent (component : ComponentId)
  | visibleFrom (requester : ComponentId)
  | edgeCount
deriving DecidableEq

/-- What a graph answers. -/
inductive GraphAnswer where
  | done
  | flag (value : Bool)
  | components (ids : List ComponentId)
  | count (n : Nat)
deriving DecidableEq

/-- Carry out a command on a graph. -/
def GraphCommand.run (g : Graph) : GraphCommand → Graph × GraphAnswer
  | connected requester owner => (g, .flag (g.connects requester owner))
  | connect requester owner => (g.change (·.connect requester owner), .done)
  | connectBoth a b => (g.change (·.connectBoth a b), .done)
  | disconnect requester owner =>
    (g.change fun t => (t.disconnect requester owner).1,
      .flag (g.edges.disconnect requester owner).2)
  | removeComponent component => (g.change (·.removeComponent component), .done)
  | visibleFrom requester => (g, .components (g.edges.visibleFrom requester))
  | edgeCount => (g, .count g.edges.edgeCount)

/-- Carry out commands in order, and give the answers. -/
def GraphCommand.runAll (g : Graph) : List GraphCommand → List GraphAnswer
  | [] => []
  | command :: rest =>
    let (g, answer) := command.run g
    answer :: runAll g rest

end Switchboard
