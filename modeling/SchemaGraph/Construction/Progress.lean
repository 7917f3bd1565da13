import SchemaGraph.Schedule.Batch
import SchemaGraph.TypeState

/-! How far the construction of a graph has come.
The construction is a list of stages, and goes on to the next stage as long as nothing is wrong.
-/

namespace SchemaGraph

/-- What an observer of a construction is told. -/
inductive Event where
  /-- All types have been discovered. -/
  | allDiscovered (registry : Registry)
  | named (definition : Definition) (state : TypeState)
  /-- All types have their names, and no extension is merged yet. -/
  | allNamed (registry : Registry)
  | completed (definition : Definition) (state : TypeState)
  | allCompleted (registry : Registry)

/-- What is known beside the registry and its errors. -/
structure Journal where
  bindings : Bindings
  states : TypeStates
  events : List Event

def Journal.empty : Journal := ⟨[], [], []⟩

abbrev Progress := Workspace Journal

abbrev Stage := Progress → Progress

namespace Progress

def start : Progress := ⟨Registry.empty, [], Journal.empty⟩

def announce (progress : Progress) (event : Event) : Progress :=
  { progress with
    state := { progress.state with events := progress.state.events ++ [event] } }

def setState (progress : Progress) (slot : Slot) (state : TypeState) : Progress :=
  { progress with
    state :=
      { progress.state with states := Entries.insert progress.state.states slot state } }

/-- Runs the stages in order, up to and including the first after which something is wrong. -/
def runStages (progress : Progress) (stages : List Stage) : Progress :=
  match stages with
  | [] => progress
  | stage :: rest =>
      let after := stage progress
      if after.problems.isEmpty then runStages after rest else after

end Progress
end SchemaGraph
