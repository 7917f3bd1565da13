import SchemaGraph.Error.Problem
import SchemaGraph.Registry.DependencyGraph
import SchemaGraph.Schedule.Batch

/-! Runs over all registered types, with a report for every type that is stuck.
A type is stuck when no batch can be formed and it still waits; the report lists what it waits for
and the cycle that it lies on.
-/

namespace SchemaGraph.Schedule

variable {σ : Type}

/-- The type that a reference denotes, by its name, or else the reference. -/
def describeReference (registry : Registry) (reference : Reference) : String :=
  match registry.resolve reference with
  | some record => record.displayName
  | none => reference.display

/-- The dependencies that are not processed, each once. -/
def missing (registry : Registry) (phase : Phase) (processed : List Reference)
    (record : TypeRecord) : List Reference :=
  (registry.canonicalAll (record.dependenciesOf phase)).filter fun reference =>
    !reference.isIn processed

def stuckProblem (registry : Registry) (phase : Phase) (processed : List Reference)
    (graph : DependencyGraph) (record : TypeRecord) (slot : Slot) : Problem :=
  .stuck record.displayName phase
    ((missing registry phase processed record).map (describeReference registry))
    ((graph.cycleOf slot).map fun cycle =>
      (cycle.filterMap registry.get?).map TypeRecord.displayName)

/-- One error for each stuck slot. -/
def deadlockErrors (registry : Registry) (phase : Phase) (processed : List Reference)
    (stuck : List Slot) : List SchemaError :=
  let graph := DependencyGraph.build registry phase registry.locate
  stuck.filterMap fun slot =>
    (registry.get? slot).map fun record =>
      (stuckProblem registry phase processed graph record slot).toError

/-- Runs the action over all registered types. It succeeds when every type was processed and no
action failed. -/
def run (phase : Phase) (action : Action σ) (workspace : Workspace σ)
    : BatchRun × Workspace σ :=
  let (run, processed, final) :=
    runPending phase action workspace.registry.slots [] workspace
  if run.success && run.unprocessed ≠ [] then
    ({ run with success := false },
      final.reportAll (deadlockErrors final.registry phase processed run.unprocessed))
  else
    (run, final)

end SchemaGraph.Schedule
