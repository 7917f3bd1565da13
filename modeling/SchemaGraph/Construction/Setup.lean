import SchemaGraph.Completion.Extensions
import SchemaGraph.Completion.Bindings
import SchemaGraph.Completion.Validation
import SchemaGraph.Discovery.Catalog
import SchemaGraph.Graph.Handle

/-! What a graph is constructed from.
A setup lists the parts as they are given; a plan has all of them.
-/

namespace SchemaGraph

structure Options where
  unmatchedExtensions : UnmatchedPolicy
  naming : Naming
  /-- Whether the finished types are validated. -/
  validate : Bool

def Options.standard : Options := ⟨.drop, Naming.standard, true⟩

instance : Inhabited Options := ⟨Options.standard⟩

/-- Everything that a construction needs. -/
structure Plan where
  seeds : List Reference
  catalog : Catalog
  inspector : Inspector
  providers : List Provider
  middleware : List Middleware
  /-- Decides whether a value is of an object type that has no predicate, by the type's name. -/
  isOfType : String → Value → Bool
  /-- Decides which types are roots of queries, before they are complete. -/
  isQueryType : Definition → Bool
  validator : Validator
  options : Options

/-- The object type named `Query`. -/
def Definition.isStandardQuery (definition : Definition) : Bool :=
  definition.kind = .object && !definition.isExtension && definition.name = some "Query"

/-- The parts of a plan as far as they are given. The catalog and the inspector have no default. -/
structure Setup where
  seeds : List Reference := []
  catalog : Option Catalog := none
  inspector : Option Inspector := none
  providers : List Provider := []
  middleware : List Middleware := []
  isOfType : String → Value → Bool := hasTypename
  isQueryType : Definition → Bool := Definition.isStandardQuery
  validator : Validator := Validator.standard
  options : Options := Options.standard

namespace Setup

/-- Describes types by the catalog and seeds all of its types. -/
def withCatalog (setup : Setup) (catalog : Catalog) : Setup :=
  { setup with
    seeds := setup.seeds ++ catalog.schemaReferences
    catalog := some catalog }

def withSeeds (setup : Setup) (seeds : List Reference) : Setup :=
  { setup with seeds := setup.seeds ++ seeds }

/-- The plan, if nothing is missing and the graph can still be published through the handle. -/
def plan (setup : Setup) (handle : Handle) : Except SetupError Plan :=
  match setup.catalog, setup.inspector with
  | none, _ => .error .missingCatalog
  | some _, none => .error .missingInspector
  | some catalog, some inspector =>
      if handle.isBound then
        .error .alreadyBound
      else
        .ok
          {
            seeds := setup.seeds
            catalog
            inspector
            providers := setup.providers
            middleware := setup.middleware
            isOfType := setup.isOfType
            isQueryType := setup.isQueryType
            validator := setup.validator
            options := setup.options
          }

end Setup
end SchemaGraph
