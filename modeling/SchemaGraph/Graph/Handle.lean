import SchemaGraph.Graph.Basic

/-! The handle that a graph is published through. It is bound once. -/

namespace SchemaGraph

structure Handle where
  graph : Option TypeGraph

namespace Handle

def unbound : Handle := ⟨none⟩

instance : Inhabited Handle := ⟨unbound⟩

def isBound (handle : Handle) : Bool :=
  handle.graph.isSome

def bind (handle : Handle) (graph : TypeGraph) : Except SetupError Handle :=
  if handle.isBound then .error .alreadyBound else .ok ⟨some graph⟩

end Handle
end SchemaGraph
