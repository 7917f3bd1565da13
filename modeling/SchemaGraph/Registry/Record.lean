import SchemaGraph.Definition.Basic
import SchemaGraph.Error.Basic

/-! What is known about a registered type.
The canonical reference is made when the record is; everything that changes the record keeps it, and
keeps its references from agreeing with one another.
-/

namespace SchemaGraph

/-- What was found out about a type while it was discovered. -/
structure Discovered where
  errors : List SchemaError
  bindings : Bindings
  /-- Further names that the type can be found by. -/
  alternateNames : List String
  scope : Option String

def Discovered.nothing : Discovered := ⟨[], [], [], none⟩

/-- What a type is referred to by. No two of the references agree. -/
structure Synonyms where
  /-- The canonical reference: the schema identity in the scope of the discovery. -/
  primary : Reference
  /-- Other references that denote the type. -/
  aliases : List Reference
  apart : Reference.Apart (primary :: aliases)

def Synonyms.all (synonyms : Synonyms) : List Reference :=
  synonyms.primary :: synonyms.aliases

/-- Adds the reference unless one of them agrees with it. -/
def Synonyms.add (synonyms : Synonyms) (reference : Reference) : Synonyms :=
  if known : reference.isIn synonyms.all then synonyms
  else
    { synonyms with
      aliases := synonyms.aliases ++ [reference]
      apart := synonyms.apart.concat known }

structure TypeRecord where
  synonyms : Synonyms
  definition : Definition
  dependencies : List Dependency
  discovered : Discovered

namespace TypeRecord

def primary (record : TypeRecord) : Reference :=
  record.synonyms.primary

def aliases (record : TypeRecord) : List Reference :=
  record.synonyms.aliases

def references (record : TypeRecord) : List Reference :=
  record.primary :: record.aliases

theorem apart (record : TypeRecord) : Reference.Apart record.references :=
  record.synonyms.apart

def withReference (record : TypeRecord) (reference : Reference) : TypeRecord :=
  { record with synonyms := record.synonyms.add reference }

def withDefinition (record : TypeRecord) (definition : Definition) : TypeRecord :=
  { record with definition }

def addDependencies (record : TypeRecord) (additions : List Dependency) : TypeRecord :=
  { record with dependencies := Dependency.addAll record.dependencies additions }

def withDependencies (record : TypeRecord) (dependencies : List Dependency) : TypeRecord :=
  { record with dependencies := Dependency.addAll [] dependencies }

/-- The canonical reference of a definition discovered in a scope. -/
def canonicalReference (definition : Definition) (scope : Option String) : Reference :=
  (Reference.schema definition.id).withScope scope

def new (definition : Definition) (references : List Reference)
    (dependencies : List Dependency) (discovered : Discovered) : TypeRecord :=
  references.foldl withReference
    {
      synonyms :=
        {
          primary := canonicalReference definition discovered.scope
          aliases := []
          apart := Reference.apart_singleton _
        }
      definition
      dependencies := Dependency.addAll [] dependencies
      discovered
    }

/-- What the type waits for in a phase, in the order of declaration. -/
def dependenciesOf (record : TypeRecord) (phase : Phase) : List Reference :=
  (record.dependencies.filter fun dependency => dependency.phase = phase).map
    Dependency.reference

def name (record : TypeRecord) : Option String :=
  record.definition.name

def kind (record : TypeRecord) : Kind :=
  record.definition.kind

def runtime (record : TypeRecord) : RuntimeType :=
  record.definition.runtime

def isExtension (record : TypeRecord) : Bool :=
  record.definition.isExtension

def isDirective (record : TypeRecord) : Bool :=
  record.definition.isDirective

def isNamedType (record : TypeRecord) : Bool :=
  record.definition.isNamedType

/-- The name, or the canonical reference as long as there is none. -/
def displayName (record : TypeRecord) : String :=
  record.name.getD record.primary.display

@[simp] theorem primary_withReference (record : TypeRecord) (reference : Reference)
    : (record.withReference reference).primary = record.primary := by
  simp only [withReference, primary, Synonyms.add]
  split <;> rfl

theorem primary_foldl_withReference (references : List Reference) (record : TypeRecord)
    : (references.foldl withReference record).primary = record.primary := by
  induction references generalizing record with
  | nil => rfl
  | cons reference rest ih => rw [List.foldl_cons, ih, primary_withReference]

theorem primary_new (definition : Definition) (references : List Reference)
    (dependencies : List Dependency) (discovered : Discovered)
    : (new definition references dependencies discovered).primary
      = canonicalReference definition discovered.scope :=
  primary_foldl_withReference _ _

end TypeRecord
end SchemaGraph
