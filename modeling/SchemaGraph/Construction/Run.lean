import SchemaGraph.Construction.Actions
import SchemaGraph.Discovery.Closure
import SchemaGraph.Linking
import SchemaGraph.Schedule.Deadlock

/-! Running a plan.
The stages discover the types, name them, merge their extensions, compile their bindings, complete
and at last validate them. A run that goes wrong gives all errors up to the stage it stopped in;
only a run in which nothing is wrong publishes its graph.
-/

namespace SchemaGraph

namespace Plan

def discoverTypes (plan : Plan) : Stage := fun progress =>
  let discovery := progress.registry.discover plan.catalog plan.seeds
  { progress with registry := discovery.registry }.reportAll discovery.errors

/-- Collects the discovered bindings and links objects to their implicit interfaces. -/
def prepareTypes (plan : Plan) : Stage := fun progress =>
  let bindings := progress.registry.collectBindings progress.state.bindings
  {
    progress with
    registry := (progress.registry.linkInterfaces plan.inspector).1
    state := { progress.state with bindings }
  }

def nameTypes (plan : Plan) : Stage := fun progress =>
  let announced := progress.announce (.allDiscovered progress.registry)
  (Schedule.run .named plan.nameType (plan.prepareTypes announced)).2

def mergeExtensions (plan : Plan) : Stage := fun progress =>
  let announced := progress.announce (.allNamed progress.registry)
  let merging :=
    Merging.run plan.options.unmatchedExtensions
      {
        registry := announced.registry
        bindings := announced.state.bindings
        states := announced.state.states
        errors := announced.errors
        merged := 0
        dropped := 0
      }
  {
    registry := merging.registry
    errors := merging.errors
    state :=
      { announced.state with bindings := merging.bindings, states := merging.states }
  }

/-- Adds the bindings of the providers and compiles all bindings. -/
def compileBindings (plan : Plan) : Stage := fun progress =>
  let bound :=
    (Provider.bindAll plan.providers progress.registry plan.inspector plan.options.naming
      progress.state.bindings).1
  let (bindings, problems, _) := Binding.compileAll plan.inspector bound
  { progress with state := { progress.state with bindings } }.reportAll
    (problems.map Problem.toError)

def completeTypes (plan : Plan) : Stage := fun progress =>
  (Schedule.run .completed plan.completeType progress).2

def validateTypes (plan : Plan) : Stage := fun progress =>
  let announced := progress.announce (.allCompleted progress.registry)
  if plan.options.validate then announced.reportAll (plan.validator announced.registry)
  else announced

def stages (plan : Plan) : List Stage :=
  [plan.discoverTypes, plan.nameTypes, plan.mergeExtensions, plan.compileBindings,
    plan.completeTypes, plan.validateTypes]

/-- The progress at the end, or where something was wrong first. -/
def progress (plan : Plan) : Progress :=
  Progress.start.runStages plan.stages

end Plan

def Progress.graph (progress : Progress) : TypeGraph :=
  TypeGraph.build progress.registry progress.state.bindings progress.state.states

/-- What a run comes to. -/
structure Outcome where
  result : Except (List SchemaError) TypeGraph
  handle : Handle
  events : List Event

/-- Runs the plan and publishes the graph through the handle. -/
def Plan.run (plan : Plan) (handle : Handle) : Outcome :=
  let progress := plan.progress
  let events := progress.state.events
  if progress.problems.isEmpty then
    match handle.bind progress.graph with
    | .ok bound => ⟨.ok progress.graph, bound, events⟩
    | .error _ => ⟨.error [Problem.handleBound.toError], handle, events⟩
  else
    ⟨.error progress.problems, handle, events⟩

end SchemaGraph
