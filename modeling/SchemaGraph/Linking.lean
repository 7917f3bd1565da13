import SchemaGraph.Inspector
import SchemaGraph.Registry.Basic

/-! Implicit interfaces.
An object whose host type can stand for the host type of an interface waits for that interface, so
that the interface is complete first.
-/

namespace SchemaGraph.Registry

/-- Whether the record is a type of the kind with a concrete host type, and no extension. -/
def isConcrete (kind : Kind) (record : TypeRecord) : Bool :=
  !record.isExtension && !record.runtime.isObject && record.kind = kind

/-- The host types of all interfaces, in the order of registration. -/
def interfaceRuntimes (registry : Registry) : List RuntimeType :=
  (registry.records.filter (isConcrete .interface)).map TypeRecord.runtime

/-- The slots of all objects with their host types. -/
def objectRuntimes (registry : Registry) : List (Slot × RuntimeType) :=
  (registry.records.zipIdx.filter fun entry => isConcrete .object entry.1).map fun entry =>
    (entry.2, entry.1.runtime)

/-- The dependencies on the interfaces that an object's host type can stand for. -/
def interfaceLinks (inspector : Inspector) (interfaces : List RuntimeType)
    (object : RuntimeType) : List Dependency :=
  (interfaces.filter fun interface =>
      interface ≠ object && inspector.accepts interface object).map fun interface =>
    ⟨Reference.runtime interface .output, .completed⟩

/-- Adds the links of one object; also counts those that were not there. -/
def linkObject (inspector : Inspector) (interfaces : List RuntimeType)
    (sofar : Registry × Nat) (object : Slot × RuntimeType) : Registry × Nat :=
  match sofar.1.get? object.1 with
  | none => sofar
  | some record =>
      match interfaceLinks inspector interfaces object.2 with
      | [] => sofar
      | links =>
          let linked := record.addDependencies links
          ((sofar.1.register linked).1,
            sofar.2 + (linked.dependencies.length - record.dependencies.length))

/-- Links every object to its implicit interfaces and counts the new dependencies. -/
def linkInterfaces (registry : Registry) (inspector : Inspector) : Registry × Nat :=
  let (linked, count) :=
    registry.objectRuntimes.foldl (linkObject inspector registry.interfaceRuntimes)
      (registry, 0)
  (linked.rebuild, count)

end SchemaGraph.Registry
