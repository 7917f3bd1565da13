import SchemaGraph.Definition.Basic
import SchemaGraph.Error.Problem
import SchemaGraph.Naming

/-! Completing the name of a definition.
An explicit name wins; otherwise the host type gives one, and the general `object` type cannot.
-/

namespace SchemaGraph.Definition

/-- The name that the definition is to have. -/
def chooseName (naming : Naming) (definition : Definition) : Except Problem String :=
  match definition.name with
  | some name => .ok name
  | none =>
      if definition.runtime.isObject then .error (.nameless definition.id)
      else .ok (naming.typeName definition.runtime definition.kind)

/-- The definition with its name, or what is wrong with the name. -/
def completeName (naming : Naming) (definition : Definition) : Except Problem Definition :=
  match definition.chooseName naming with
  | .error problem => .error problem
  | .ok name =>
      if Naming.isValidName name then .ok (definition.withName name)
      else .error (.invalidName name definition.id)

end SchemaGraph.Definition
