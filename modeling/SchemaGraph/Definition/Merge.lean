import SchemaGraph.Definition.Basic

/-! Folding an extension's body into the definition that it extends.
Fields of one name are replaced, new ones follow; references and values are added unless they are
there already. Identity, name and host type stay those of the base.
-/

namespace SchemaGraph.Definition

/-- Puts the field in the place of the first one of its name, or else behind all others. -/
def replaceField (fields : List Field) (field : Field) : List Field :=
  match fields with
  | [] => [field]
  | first :: rest =>
      if first.name = field.name then field :: rest else first :: replaceField rest field

def mergeFields (base additions : List Field) : List Field :=
  additions.foldl replaceField base

/-- Adds the value behind the others unless it is there. -/
def addValue (values : List String) (value : String) : List String :=
  if value ∈ values then values else values ++ [value]

/-- Bodies of another kind, and extensions of extensions, add nothing to the structure. -/
def mergeStructure (base body : Definition) : Definition :=
  match base, body with
  | object type, object added =>
      object {
        type with
        fields := mergeFields type.fields added.fields
        interfaces := Reference.addAll type.interfaces added.interfaces
        isOfType := type.isOfType.or added.isOfType
      }
  | interface type, interface added =>
      interface {
        type with
        fields := mergeFields type.fields added.fields
        interfaces := Reference.addAll type.interfaces added.interfaces
      }
  | union type, union added =>
      union { type with members := Reference.addAll type.members added.members }
  | inputObject type, inputObject added =>
      inputObject { type with fields := mergeFields type.fields added.fields }
  | enum type, enum added =>
      enum { type with values := added.values.foldl addValue type.values }
  | _, _ => base

/-- The base keeps its description if it has one. -/
def merge (base body : Definition) : Definition :=
  (mergeStructure base body).mapHeader fun header =>
    { header with description := header.description.or body.header.description }

end SchemaGraph.Definition
