import SchemaGraph.Registry.Basic

/-! How far single types have come. A status never goes back. -/

namespace SchemaGraph

structure TypeState where
  status : Status
  isQueryType : Bool
  alternateNames : List String
deriving DecidableEq, Inhabited

namespace TypeState

def new (alternateNames : List String) : TypeState :=
  ⟨.initialized, false, alternateNames⟩

/-- Moves to the status unless that lies behind; tells whether it moved. -/
def advance (state : TypeState) (status : Status) : TypeState × Bool :=
  if status.rank < state.status.rank then (state, false) else ({ state with status }, true)

/-- Adds the names that are not there yet. -/
def addNames (state : TypeState) (names : List String) : TypeState :=
  { state with
    alternateNames :=
      names.foldl (fun sofar name => if name ∈ sofar then sofar else sofar ++ [name])
        state.alternateNames }

end TypeState

/-- The states of the types that have entered completion. -/
abbrev TypeStates := Entries Slot TypeState

end SchemaGraph
