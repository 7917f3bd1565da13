import SchemaGraph.Member

/-! Errors of a schema: one problem each, with a code that never changes.
Every phase collects its errors and goes on, so a failed run carries the whole list.
-/

namespace SchemaGraph

inductive ErrorCode where
  | unresolvedReference
  | duplicateName
  | unresolvedDependency
  | extensionKindMismatch
  | extensionTargetMissing
  | resolverCompilation
  | invalidName
  | unresolvedFieldType
  | invalidTypeReference
  | invalidStructure
  | validation
  | discovery
deriving DecidableEq, Inhabited

namespace ErrorCode

def all : List ErrorCode :=
  [unresolvedReference, duplicateName, unresolvedDependency, extensionKindMismatch,
    extensionTargetMissing, resolverCompilation, invalidName, unresolvedFieldType,
    invalidTypeReference, invalidStructure, validation, discovery]

def display : ErrorCode → String
  | unresolvedReference => "SCHEMA_UNRESOLVED_REFERENCE"
  | duplicateName => "SCHEMA_DUPLICATE_NAME"
  | unresolvedDependency => "SCHEMA_UNRESOLVED_DEPENDENCY"
  | extensionKindMismatch => "SCHEMA_EXTENSION_KIND_MISMATCH"
  | extensionTargetMissing => "SCHEMA_EXTENSION_TARGET_MISSING"
  | resolverCompilation => "SCHEMA_RESOLVER_COMPILATION"
  | invalidName => "SCHEMA_INVALID_NAME"
  | unresolvedFieldType => "SCHEMA_UNRESOLVED_FIELD_TYPE"
  | invalidTypeReference => "SCHEMA_INVALID_TYPE_REFERENCE"
  | invalidStructure => "SCHEMA_INVALID_STRUCTURE"
  | validation => "SCHEMA_VALIDATION"
  | discovery => "SCHEMA_DISCOVERY"

def shown : ErrorCode → String
  | unresolvedReference => "UnresolvedReference"
  | duplicateName => "DuplicateName"
  | unresolvedDependency => "UnresolvedDependency"
  | extensionKindMismatch => "ExtensionKindMismatch"
  | extensionTargetMissing => "ExtensionTargetMissing"
  | resolverCompilation => "ResolverCompilation"
  | invalidName => "InvalidName"
  | unresolvedFieldType => "UnresolvedFieldType"
  | invalidTypeReference => "InvalidTypeReference"
  | invalidStructure => "InvalidStructure"
  | validation => "Validation"
  | discovery => "Discovery"

end ErrorCode

structure SchemaError where
  code : ErrorCode
  message : String
  typeName : Option String
  field : Option FieldKey
  reference : Option Reference
  /-- Further data by name, in the order of the names. -/
  details : List (String × String)
deriving DecidableEq, Inhabited

namespace SchemaError

def new (code : ErrorCode) (message : String) : SchemaError :=
  ⟨code, message, none, none, none, []⟩

def withType (error : SchemaError) (typeName : String) : SchemaError :=
  { error with typeName := some typeName }

/-- A field also tells the type, unless that is known already. -/
def withField (error : SchemaError) (field : FieldKey) : SchemaError :=
  { error with typeName := error.typeName.or (some field.typeName), field := some field }

def withReference (error : SchemaError) (reference : Reference) : SchemaError :=
  { error with reference := some reference }

/-- Keeps the names in order and takes the later of two texts under one name. -/
def insertDetail (key text : String) : List (String × String) → List (String × String)
  | [] => [(key, text)]
  | (first, old) :: rest =>
      if key = first then (key, text) :: rest
      else if key < first then (key, text) :: (first, old) :: rest
      else (first, old) :: insertDetail key text rest

def withDetail (error : SchemaError) (key text : String) : SchemaError :=
  { error with details := insertDetail key text error.details }

def detail? (error : SchemaError) (key : String) : Option String :=
  Entries.get? error.details key

/-- The message, and the code between parentheses. -/
def display (error : SchemaError) : String :=
  error.message ++ " (" ++ error.code.display ++ ")"

/-- The summary of a run that failed with these errors. -/
def summary (errors : List SchemaError) : String :=
  "schema initialization failed with " ++ toString errors.length ++ " error(s)"

end SchemaError

/-- A reference that denotes no registered type. -/
structure UnresolvedReference where
  reference : Reference
deriving DecidableEq

namespace UnresolvedReference

def message (error : UnresolvedReference) : String :=
  "unable to resolve type reference `" ++ error.reference.display ++ "`"

def toSchemaError (error : UnresolvedReference) : SchemaError :=
  (SchemaError.new .unresolvedReference error.message).withReference error.reference

end UnresolvedReference

/-- Why a run cannot start, or cannot publish its graph. -/
inductive SetupError where
  | missingCatalog
  | missingInspector
  | alreadyBound
deriving DecidableEq

def SetupError.message : SetupError → String
  | missingCatalog => "missing required component: descriptor provider"
  | missingInspector => "missing required component: type inspector"
  | alreadyBound => "the schema handle is already bound to a type graph"

end SchemaGraph
