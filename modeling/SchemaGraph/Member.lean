import SchemaGraph.Kind
import SchemaGraph.Resolver

/-! Members of host types, and their bindings to fields of schema types.
A field is bound to a member first; compilation replaces the member by a resolver.
-/

namespace SchemaGraph

/-- A field by the names of its type and its own. -/
structure FieldKey where
  typeName : String
  fieldName : String
deriving DecidableEq, Inhabited

namespace FieldKey

def display (key : FieldKey) : String :=
  key.typeName ++ "." ++ key.fieldName

/-- Keys are ordered by type and then by field, both by code points. -/
def atMost (left right : FieldKey) : Bool :=
  left.typeName < right.typeName
    || left.typeName = right.typeName && !(right.fieldName < left.fieldName)

def sort (keys : List FieldKey) : List FieldKey :=
  keys.mergeSort atMost

end FieldKey

structure Parameter where
  name : String
  type : RuntimeType
  /-- Whether the parameter receives the parent value. -/
  isParent : Bool

inductive Shape where
  | property
  | method (parameters : List Parameter)

/-- A property or method of a host type. -/
structure Member where
  name : String
  declaringType : RuntimeType
  shape : Shape
  invoker : Option Resolver

namespace Member

def isProperty (member : Member) : Bool :=
  match member.shape with
  | .property => true
  | .method _ => false

/-- The parameters of a method; a property has none. -/
def parameters (member : Member) : List Parameter :=
  match member.shape with
  | .property => []
  | .method parameters => parameters

def parentParameters (member : Member) : List Parameter :=
  member.parameters.filter Parameter.isParent

end Member

/-- A member bound to a field. -/
structure FieldMember where
  field : FieldKey
  member : Member

/-- A field binding before or after compilation. -/
inductive BindingForm where
  | member (bound : FieldMember)
  | compiled (resolver : Resolver)

namespace BindingForm

def isCompiled : BindingForm → Bool
  | member _ => false
  | compiled _ => true

def resolver? : BindingForm → Option Resolver
  | member _ => none
  | compiled resolver => some resolver

end BindingForm

/-- How a field gets its value. -/
structure Binding where
  /-- The host type that declares the member, where it is not the parent's own type. -/
  provider : Option RuntimeType
  /-- The host type of the parent value. -/
  source : RuntimeType
  form : BindingForm

/-- Field bindings in the order in which their fields were first bound. -/
abbrev Bindings := Entries FieldKey Binding

namespace Binding

/-- Whether the member lives on the parent's own type. -/
def isOwn (binding : Binding) : Bool :=
  match binding.provider with
  | none => true
  | some provider => provider = binding.source

def withSource (binding : Binding) (source : RuntimeType) : Binding :=
  { binding with source }

end Binding
end SchemaGraph
