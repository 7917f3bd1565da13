import SchemaGraph.Location
import SchemaGraph.Member

/-! The definitions of schema types.
A definition starts out with references to other types; completion adds the names that they resolve
to. An extension wraps a definition that adds to another type of the same kind and name.
-/

namespace SchemaGraph

inductive Wrapper where
  | list
  | nonNull
deriving DecidableEq, Inhabited

/-- A reference inside list and non-null wrappers, the outermost wrapper first. -/
structure WrappedType where
  reference : Reference
  wrappers : List Wrapper
deriving DecidableEq, Inhabited

namespace WrappedType

def bare (reference : Reference) : WrappedType :=
  ⟨reference, []⟩

def wrap (type : WrappedType) (wrapper : Wrapper) : WrappedType :=
  { type with wrappers := wrapper :: type.wrappers }

/-- Writes the wrappers around a name: brackets for a list, a mark behind for non-null. -/
def renderWrappers (wrappers : List Wrapper) (name : String) : String :=
  match wrappers with
  | [] => name
  | .list :: inner => "[" ++ renderWrappers inner name ++ "]"
  | .nonNull :: inner => renderWrappers inner name ++ "!"

def render (type : WrappedType) (name : String) : String :=
  renderWrappers type.wrappers name

end WrappedType

/-- An argument of a field or directive. -/
structure Argument where
  name : String
  type : WrappedType
  /-- The written type, once it is complete. -/
  resolvedType : Option String
deriving DecidableEq, Inhabited

/-- A field of an object, interface or input object. -/
structure Field where
  name : String
  description : Option String
  type : WrappedType
  arguments : List Argument
  /-- The member that the field was declared from. -/
  member : Option Member
  /-- The written type, once it is complete. -/
  resolvedType : Option String
  /-- What computes the field, once its type is complete. -/
  pipeline : Option Resolver

/-- Every reference that the field mentions: its own type, then those of the arguments. -/
def Field.references (field : Field) : List Reference :=
  field.type.reference :: field.arguments.map fun argument => argument.type.reference

/-- What every definition has. -/
structure Header where
  id : SchemaId
  /-- The explicit name before the name is complete, the complete name afterwards. -/
  name : Option String
  description : Option String
  runtime : RuntimeType
deriving DecidableEq, Inhabited

structure ObjectType where
  header : Header
  fields : List Field
  interfaces : List Reference
  /-- The names of the interfaces, once the type is complete. -/
  implemented : List String
  isOfType : Option (Value → Bool)
  isQueryType : Bool

structure InterfaceType where
  header : Header
  fields : List Field
  interfaces : List Reference
  /-- The names of the interfaces, once the type is complete. -/
  implemented : List String

structure UnionType where
  header : Header
  members : List Reference
  /-- The names of the members, once the type is complete. -/
  resolvedMembers : List String

structure InputObjectType where
  header : Header
  fields : List Field

structure EnumType where
  header : Header
  values : List String

structure ScalarType where
  header : Header

structure DirectiveType where
  header : Header
  arguments : List Argument
  locations : Locations
  repeatable : Bool

inductive Definition where
  | object (type : ObjectType)
  | interface (type : InterfaceType)
  | union (type : UnionType)
  | inputObject (type : InputObjectType)
  | enum (type : EnumType)
  | scalar (type : ScalarType)
  | directive (type : DirectiveType)
  | extension (body : Definition)

namespace Definition

/-- The header; that of an extension is its body's. -/
def header : Definition → Header
  | object type => type.header
  | interface type => type.header
  | union type => type.header
  | inputObject type => type.header
  | enum type => type.header
  | scalar type => type.header
  | directive type => type.header
  | extension body => body.header

def mapHeader (change : Header → Header) : Definition → Definition
  | object type => object { type with header := change type.header }
  | interface type => interface { type with header := change type.header }
  | union type => union { type with header := change type.header }
  | inputObject type => inputObject { type with header := change type.header }
  | enum type => enum { type with header := change type.header }
  | scalar type => scalar { type with header := change type.header }
  | directive type => directive { type with header := change type.header }
  | extension body => extension (body.mapHeader change)

def id (definition : Definition) : SchemaId :=
  definition.header.id

def name (definition : Definition) : Option String :=
  definition.header.name

def runtime (definition : Definition) : RuntimeType :=
  definition.header.runtime

def withName (definition : Definition) (name : String) : Definition :=
  definition.mapHeader fun header => { header with name := some name }

/-- The kind; that of an extension is the kind it extends. -/
def kind : Definition → Kind
  | object _ => .object
  | interface _ => .interface
  | union _ => .union
  | inputObject _ => .inputObject
  | enum _ => .enum
  | scalar _ => .scalar
  | directive _ => .directive
  | extension body => body.kind

def isExtension : Definition → Bool
  | extension _ => true
  | _ => false

def isDirective : Definition → Bool
  | directive _ => true
  | _ => false

/-- Whether the definition introduces a named type, as directives and extensions do not. -/
def isNamedType (definition : Definition) : Bool :=
  !definition.isDirective && !definition.isExtension

def fields : Definition → List Field
  | object type => type.fields
  | interface type => type.fields
  | inputObject type => type.fields
  | extension body => body.fields
  | _ => []

/-- The first field of the name. -/
def field? (definition : Definition) (name : String) : Option Field :=
  definition.fields.find? fun field => field.name = name

/-- Every reference that the structure mentions. -/
def references : Definition → List Reference
  | object type => type.fields.flatMap Field.references ++ type.interfaces
  | interface type => type.fields.flatMap Field.references ++ type.interfaces
  | union type => type.members
  | inputObject type => type.fields.flatMap Field.references
  | directive type => type.arguments.map fun argument => argument.type.reference
  | enum _ => []
  | scalar _ => []
  | extension body => body.references

def asObject? : Definition → Option ObjectType
  | object type => some type
  | _ => none

def asInterface? : Definition → Option InterfaceType
  | interface type => some type
  | _ => none

/-- What an extension adds. -/
def extensionBody? : Definition → Option Definition
  | extension body => some body
  | _ => none

@[simp] theorem header_mapHeader (change : Header → Header) (definition : Definition)
    : (definition.mapHeader change).header = change definition.header := by
  induction definition with
  | extension body ih => exact ih
  | _ => rfl

@[simp] theorem kind_mapHeader (change : Header → Header) (definition : Definition)
    : (definition.mapHeader change).kind = definition.kind := by
  induction definition with
  | extension body ih => exact ih
  | _ => rfl

@[simp] theorem id_withName (definition : Definition) (name : String)
    : (definition.withName name).id = definition.id := by
  simp [id, withName]

@[simp] theorem name_withName (definition : Definition) (name : String)
    : (definition.withName name).name = some name := by
  simp [Definition.name, withName]

end Definition
end SchemaGraph
