import SchemaGraph.Completion.Name
import SchemaGraph.Completion.Structure
import SchemaGraph.Construction.Progress
import SchemaGraph.Construction.Setup

/-! The two actions on single types: completing the name, and completing the structure. -/

namespace SchemaGraph

/-- The error for a slot whose name is that of the holder's type. -/
def duplicateName (registry : Registry) (slot holder : Slot) : SchemaError :=
  let name := ((registry.get? slot).map TypeRecord.displayName).getD ""
  let other := ((registry.get? holder).map fun record => record.definition.id.name).getD ""
  (Problem.nameTaken name other).toError

namespace Progress

/-- The state of the slot, or the one that a type starts with. -/
def stateOr (progress : Progress) (slot : Slot) (initial : TypeState) : TypeState :=
  (Entries.get? progress.state.states slot).getD initial

/-- Moves the slot to the status and tells so, with the definition that is registered then. -/
def advance (progress : Progress) (slot : Slot) (state : TypeState) (status : Status)
    (event : Definition → TypeState → Event) : Progress :=
  let advanced := (state.advance status).1
  let after := progress.setState slot advanced
  match after.registry.get? slot with
  | some record => after.announce (event record.definition advanced)
  | none => after

/-- Stores the completed definition, registers its name and moves the type to `named`. -/
def registerNamed (progress : Progress) (slot : Slot) (record : TypeRecord)
    (definition : Definition) (state : TypeState) : Bool × Progress :=
  let registry := (progress.registry.register (record.withDefinition definition)).1
  match registry.registerName slot with
  | .error holder =>
      (false, { progress with registry }.report (duplicateName registry slot holder))
  | .ok registry =>
      let named : Progress := { progress with registry }
      (true, named.advance slot state .named .named)

end Progress

namespace Plan

/-- Completes the name of a type and registers it. -/
def nameType (plan : Plan) (slot : Slot) (progress : Progress) : Bool × Progress :=
  match progress.registry.get? slot with
  | none => (false, progress)
  | some record =>
      let state := progress.stateOr slot (TypeState.new record.discovered.alternateNames)
      let entered := progress.setState slot state
      match record.definition.completeName plan.options.naming with
      | .error problem => (false, entered.report problem.toError)
      | .ok definition => entered.registerNamed slot record definition state

def completion (plan : Plan) (progress : Progress) (definition : Definition) : Completion where
  registry := progress.registry
  bindings := progress.state.bindings
  middleware := plan.middleware
  isOfType := plan.isOfType
  isQueryType := plan.isQueryType definition

/-- Completes the structure of a type. What could be completed is stored in any case. Extensions
were merged into their bases and are left alone. -/
def completeType (plan : Plan) (slot : Slot) (progress : Progress) : Bool × Progress :=
  match progress.registry.get? slot with
  | none => (false, progress)
  | some record =>
      if record.isExtension then
        (true, progress)
      else
        let state :=
          { progress.stateOr slot (TypeState.new []) with
            isQueryType := plan.isQueryType record.definition }
        let (definition, problems) :=
          (plan.completion progress record.definition).complete record.definition
        let stored : Progress :=
          { progress with
            registry := (progress.registry.register (record.withDefinition definition)).1 }
        let after : Progress :=
          (stored.setState slot state).reportAll (problems.map Problem.toError)
        if problems.isEmpty then (true, after.advance slot state .completed .completed)
        else (false, after)

end Plan
end SchemaGraph
