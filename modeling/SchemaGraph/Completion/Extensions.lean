import SchemaGraph.Definition.Merge
import SchemaGraph.Error.Problem
import SchemaGraph.Registry.Canonical
import SchemaGraph.TypeState

/-! Merging extensions into the types that they extend.
Extensions are grouped by the name that they extend, in the order in which the names first come.
Their bindings resolve on the base's host type from then on.
-/

namespace SchemaGraph

/-- What becomes of an extension whose base does not exist. -/
inductive UnmatchedPolicy where
  | drop
  | report
deriving DecidableEq, Inhabited

/-- What merging works on, with the numbers of merged and dropped extensions. -/
structure Merging where
  registry : Registry
  bindings : Bindings
  states : TypeStates
  errors : List SchemaError
  merged : Nat
  dropped : Nat

namespace Merging

/-- The extensions of each name, in slot order. -/
def groups (registry : Registry) : Entries String (List Slot) :=
  registry.records.zipIdx.foldl
    (fun sofar entry =>
      match entry.1.isExtension, entry.1.name with
      | true, some name =>
          Entries.insert sofar name ((Entries.get? sofar name).getD [] ++ [entry.2])
      | _, _ => sofar)
    []

def canonicalDependency (registry : Registry) (dependency : Dependency) : Dependency :=
  { dependency with reference := registry.canonicalOrSelf dependency.reference }

/-- The dependencies of the extension that lead to something the base does not wait for. -/
def newDependencies (registry : Registry) (base extension : TypeRecord) : List Dependency :=
  let existing := base.dependencies.map (canonicalDependency registry)
  extension.dependencies.filter fun dependency =>
    !(canonicalDependency registry dependency).isIn existing

/-- The base with what the extension adds. -/
def mergedRecord (registry : Registry) (base extension : TypeRecord) : TypeRecord :=
  let definition :=
    match extension.definition.extensionBody? with
    | some body => base.definition.merge body
    | none => base.definition
  (base.withDefinition definition).addDependencies (newDependencies registry base extension)

/-- The binding on the host type of the base. Its member still lives on the extension's host type,
which becomes the provider where that differs. -/
def retarget (base : RuntimeType) (binding : Binding) : Binding :=
  {
    binding with
    provider :=
      if binding.provider = none && binding.source ≠ base then some binding.source
      else binding.provider
    source := base
  }

/-- The bindings of the extension replace those of the same fields. -/
def mergeBindings (bindings : Bindings) (base : RuntimeType) (extension : TypeRecord)
    : Bindings :=
  extension.discovered.bindings.foldl
    (fun sofar entry => Entries.insert sofar entry.1 (retarget base entry.2)) bindings

/-- The alternate names of the extension, from its state or else from its discovery. -/
def alternateNames (registry : Registry) (states : TypeStates) (slot : Slot) : List String :=
  match Entries.get? states slot with
  | some state => state.alternateNames
  | none =>
      match registry.get? slot with
      | some record => record.discovered.alternateNames
      | none => []

def mergeOne (merging : Merging) (baseSlot extensionSlot : Slot) (base extension : TypeRecord)
    : Merging :=
  let registry := (merging.registry.register (mergedRecord merging.registry base extension)).1
  let state := (Entries.get? merging.states baseSlot).getD (TypeState.new [])
  {
    merging with
    registry
    bindings := mergeBindings merging.bindings base.runtime extension
    states :=
      Entries.insert merging.states baseSlot
        (state.addNames (alternateNames registry merging.states extensionSlot))
    merged := merging.merged + 1
  }

/-- Merges the extensions of one base; one of another kind ends the group with an error. -/
def mergeInto (name : String) (baseSlot : Slot) (merging : Merging) : List Slot → Merging
  | [] => merging
  | slot :: rest =>
      match merging.registry.get? baseSlot, merging.registry.get? slot with
      | some base, some extension =>
          if extension.kind ≠ base.kind then
            { merging with
              errors :=
                merging.errors ++ [(Problem.kindMismatch name extension.definition.id).toError] }
          else
            mergeInto name baseSlot (merging.mergeOne baseSlot slot base extension) rest
      | _, _ => mergeInto name baseSlot merging rest

/-- The errors of a group whose base does not exist. -/
def missingBaseErrors (registry : Registry) (name : String) (extensions : List Slot)
    : List SchemaError :=
  extensions.map fun slot =>
    let id :=
      match registry.get? slot with
      | some record => record.definition.id
      | none => ⟨""⟩
    (Problem.missingBase name id).toError

def mergeGroup (policy : UnmatchedPolicy) (merging : Merging) (group : String × List Slot)
    : Merging :=
  match merging.registry.findByName group.1 with
  | some baseSlot => mergeInto group.1 baseSlot merging group.2
  | none =>
      match policy with
      | .drop => { merging with dropped := merging.dropped + group.2.length }
      | .report =>
          { merging with
            errors :=
              merging.errors ++ missingBaseErrors merging.registry group.1 group.2 }

/-- Merges every extension and rebuilds the indexes. -/
def run (policy : UnmatchedPolicy) (merging : Merging) : Merging :=
  let final := (groups merging.registry).foldl (mergeGroup policy) merging
  { final with registry := final.registry.rebuild }

end Merging
end SchemaGraph
