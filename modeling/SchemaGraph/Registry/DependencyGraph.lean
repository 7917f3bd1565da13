import SchemaGraph.Data.Reachable
import SchemaGraph.Registry.Canonical

/-! Which slots wait for which, in one phase.
A cycle is a set of slots that all reach each other, or a slot that waits for itself.
-/

namespace SchemaGraph

structure DependencyGraph where
  size : Nat
  /-- From the slot that waits to the one it waits for, each pair once. -/
  edges : List (Slot × Slot)

namespace DependencyGraph

/-- The edges that a record gives rise to. References that lead nowhere give none. -/
def edgesFrom (phase : Phase) (locate : Reference → Option Slot) (record : TypeRecord)
    (slot : Slot) : List (Slot × Slot) :=
  (record.dependenciesOf phase).filterMap fun reference =>
    (locate reference).map fun target => (slot, target)

def build (registry : Registry) (phase : Phase) (locate : Reference → Option Slot)
    : DependencyGraph where
  size := registry.size
  edges :=
    (registry.records.zipIdx.flatMap fun entry =>
      edgesFrom phase locate entry.1 entry.2).eraseDups

def slots (graph : DependencyGraph) : List Slot :=
  List.range graph.size

/-- The slots that a slot waits for. -/
def successors (graph : DependencyGraph) (slot : Slot) : List Slot :=
  (graph.edges.filter fun edge => edge.1 = slot).map Prod.snd

/-- The slots that wait for a slot. -/
def predecessors (graph : DependencyGraph) (slot : Slot) : List Slot :=
  (graph.edges.filter fun edge => edge.2 = slot).map Prod.fst

/-- The slots that one or more edges lead to from the slot. -/
def descendants (graph : DependencyGraph) (slot : Slot) : List Slot :=
  Reachable.reached graph.successors graph.slots slot

/-- The slots from which one or more edges lead to the slot. -/
def ancestors (graph : DependencyGraph) (slot : Slot) : List Slot :=
  Reachable.reached graph.predecessors graph.slots slot

/-- The cycle through the slot, in ascending order. -/
def cycleOf (graph : DependencyGraph) (slot : Slot) : Option (List Slot) :=
  let after := graph.descendants slot
  let before := graph.ancestors slot
  if slot ∈ after then
    some (graph.slots.filter fun other => other ∈ after && other ∈ before)
  else
    none

/-- All cycles, each of them at its least slot. -/
def cycles (graph : DependencyGraph) : List (List Slot) :=
  graph.slots.filterMap fun slot =>
    (graph.cycleOf slot).filter fun cycle => cycle.head? = some slot

end DependencyGraph
end SchemaGraph
