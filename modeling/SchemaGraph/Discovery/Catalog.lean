import SchemaGraph.Error.Problem
import SchemaGraph.Registry.Basic

/-! Descriptors of types, and catalogues of them.
A catalogue describes a reference by its first descriptor that matches.
-/

namespace SchemaGraph

/-- Everything known about a type before it is registered. -/
structure Descriptor where
  definition : Definition
  /-- Further references that the type can be found by. -/
  aliases : List Reference
  dependencies : List Dependency
  discovered : Discovered

abbrev Catalog := List Descriptor

namespace Descriptor

/-- Describes a definition and nothing else. -/
def ofDefinition (definition : Definition) : Descriptor :=
  ⟨definition, [], [], Discovered.nothing⟩

/-- Binds a field, unless it is bound. -/
def bind (descriptor : Descriptor) (field : FieldKey) (binding : Binding) : Descriptor :=
  { descriptor with
    discovered :=
      { descriptor.discovered with
        bindings := Entries.insertNew descriptor.discovered.bindings field binding } }

/-- Binds a member that the type's own host type declares. -/
def bindMember (descriptor : Descriptor) (bound : FieldMember) : Descriptor :=
  descriptor.bind bound.field ⟨none, descriptor.definition.runtime, .member bound⟩

def schemaReference (descriptor : Descriptor) : Reference :=
  TypeRecord.canonicalReference descriptor.definition descriptor.discovered.scope

/-- Whether the reference denotes the described type by what it points at: the schema identity, or
the host type of a named type in a position that the kind fits. -/
def isTarget (descriptor : Descriptor) (reference : Reference) : Bool :=
  let definition := descriptor.definition
  match reference.target with
  | .schema id => definition.id = id
  | .runtime type =>
      definition.isNamedType && !definition.runtime.isObject && definition.runtime = type
        && definition.kind.fits reference.position
  | .byName _ => false

/-- Whether the descriptor describes the type that the reference denotes. -/
def describes (descriptor : Descriptor) (reference : Reference) : Bool :=
  reference.scope = descriptor.discovered.scope
    && (reference.isIn descriptor.aliases || descriptor.isTarget reference)

/-- The record of the described type, found by a reference. -/
def toRecord (descriptor : Descriptor) (foundBy : Reference) : TypeRecord :=
  TypeRecord.new descriptor.definition (descriptor.aliases ++ [foundBy])
    descriptor.dependencies descriptor.discovered

/-- What discovery goes on with: the declared dependencies and then all references of the
structure. -/
def mentions (descriptor : Descriptor) : List Reference :=
  descriptor.dependencies.map Dependency.reference ++ descriptor.definition.references

theorem primary_toRecord (descriptor : Descriptor) (foundBy : Reference)
    : (descriptor.toRecord foundBy).primary = descriptor.schemaReference :=
  TypeRecord.primary_new _ _ _ _

end Descriptor

namespace Catalog

def schemaReferences (catalog : Catalog) : List Reference :=
  catalog.map Descriptor.schemaReference

/-- The first descriptor that describes the reference. -/
def describe (catalog : Catalog) (reference : Reference) : Option Descriptor :=
  catalog.find? fun descriptor => descriptor.describes reference

/-- As `describe`, with an error for a reference that no descriptor describes. -/
def create (catalog : Catalog) (reference : Reference) : Except SchemaError Descriptor :=
  match catalog.describe reference with
  | some descriptor => .ok descriptor
  | none => .error (Problem.undescribed reference).toError

end Catalog
end SchemaGraph
