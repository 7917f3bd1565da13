import SchemaGraph.Definition.Merge
import SchemaGraph.TypeState

/-! The finished graph of types.
Types are found by their names and, where no type has the name, by their alternate names; fields are
resolved through their pipelines.
-/

namespace SchemaGraph

structure TypeGraph where
  registry : Registry
  /-- The compiled resolvers, without middleware. -/
  resolvers : Entries FieldKey Resolver
  alternateNames : Entries String Slot

namespace TypeGraph

def empty : TypeGraph := ⟨Registry.empty, [], []⟩

/-- The alternate names of the named types, in slot order. -/
def alternateEntries (registry : Registry) (states : TypeStates) : List (String × Slot) :=
  (registry.records.zipIdx.filter fun entry => entry.1.isNamedType).flatMap fun entry =>
    match Entries.get? states entry.2 with
    | some state => state.alternateNames.map fun name => (name, entry.2)
    | none => []

/-- Members that were not compiled are left behind; of two types with one alternate name, the
earlier one keeps it. -/
def build (registry : Registry) (bindings : Bindings) (states : TypeStates) : TypeGraph where
  registry
  resolvers :=
    bindings.filterMap fun entry =>
      entry.2.form.resolver?.map fun resolver => (entry.1, resolver)
  alternateNames :=
    (alternateEntries registry states).foldl
      (fun sofar entry => Entries.insertNew sofar entry.1 entry.2) []

def size (graph : TypeGraph) : Nat :=
  graph.registry.size

/-- The named type with the name, or else with that alternate name. -/
def getType (graph : TypeGraph) (name : String) : Option TypeRecord :=
  ((graph.registry.findByName name).or (Entries.get? graph.alternateNames name)).bind
    graph.registry.get?

def getDirective (graph : TypeGraph) (name : String) : Option TypeRecord :=
  (graph.registry.findDirective name).bind graph.registry.get?

/-- All types but directives and extensions, in the order of registration. -/
def namedTypes (graph : TypeGraph) : List TypeRecord :=
  graph.registry.records.filter TypeRecord.isNamedType

def objectTypes (graph : TypeGraph) : List ObjectType :=
  graph.namedTypes.filterMap fun record => record.definition.asObject?

/-- The first object type that is a root of queries. -/
def queryType (graph : TypeGraph) : Option ObjectType :=
  graph.objectTypes.find? ObjectType.isQueryType

def field (graph : TypeGraph) (key : FieldKey) : Option Field :=
  (graph.getType key.typeName).bind fun record => record.definition.field? key.fieldName

/-- What tells whether a value is of the object type. -/
def isOfType (graph : TypeGraph) (typeName : String) : Option (Value → Bool) :=
  ((graph.getType typeName).bind fun record => record.definition.asObject?).bind
    ObjectType.isOfType

/-- The resolver that is bound to the field. -/
def resolver (graph : TypeGraph) (key : FieldKey) : Option Resolver :=
  Entries.get? graph.resolvers key

/-- The names of the object types that implement the interface, each once. -/
def implementations (graph : TypeGraph) (interface : String) : List String :=
  ((graph.objectTypes.filter fun type => interface ∈ type.implemented).filterMap fun type =>
    type.header.name).foldl Definition.addValue []

/-- Runs the pipeline of the field. -/
def resolveField (graph : TypeGraph) (key : FieldKey) : Resolver := fun parent arguments =>
  match graph.field key with
  | none => .error ⟨"unknown field `" ++ key.display ++ "`"⟩
  | some field =>
      match field.pipeline with
      | none => .error ⟨"field `" ++ key.display ++ "` has no pipeline"⟩
      | some pipeline => pipeline parent arguments

end TypeGraph
end SchemaGraph
