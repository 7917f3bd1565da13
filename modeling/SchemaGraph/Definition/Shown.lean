import SchemaGraph.Definition.Basic
import SchemaGraph.Error.Basic

/-! Shown forms of members, bindings, definitions and errors. -/

namespace SchemaGraph

def FieldKey.shown (key : FieldKey) : String :=
  Shown.record "FieldReference"
    [("type_name", quoted key.typeName), ("field_name", quoted key.fieldName)]

def Parameter.shown (parameter : Parameter) : String :=
  Shown.record "ParameterDescriptor"
    [("name", quoted parameter.name), ("ty", parameter.type.shown),
      ("is_parent", Shown.bool parameter.isParent)]

def Shape.shown : Shape → String
  | property => "Property"
  | method parameters =>
      Shown.record "Method" [("parameters", Shown.list (parameters.map Parameter.shown))]

/-- Only the presence of the invoker shows. -/
def Member.shown (member : Member) : String :=
  Shown.record "MemberDescriptor"
    [("name", quoted member.name), ("declaring_type", member.declaringType.shown),
      ("kind", member.shape.shown), ("has_invoker", Shown.bool member.invoker.isSome)]

def FieldMember.shown (bound : FieldMember) : String :=
  Shown.record "FieldMember"
    [("type_name", quoted bound.field.typeName), ("field_name", quoted bound.field.fieldName),
      ("member", bound.member.shown)]

def BindingForm.shown : BindingForm → String
  | member bound => Shown.variant "Member" [bound.shown]
  | compiled _ => Shown.variant "Compiled" [".."]

def Binding.shown (binding : Binding) : String :=
  Shown.record "RegisteredResolver"
    [("resolver_type", Shown.option (binding.provider.map RuntimeType.shown)),
      ("source_type", binding.source.shown), ("field", binding.form.shown)]

def Wrapper.shown : Wrapper → String
  | list => "List"
  | nonNull => "NonNull"

def WrappedType.shown (type : WrappedType) : String :=
  Shown.record "FieldType"
    [("reference", type.reference.shown),
      ("wrappers", Shown.list (type.wrappers.map Wrapper.shown))]

def Argument.shown (argument : Argument) : String :=
  Shown.record "ArgumentDefinition"
    [("name", quoted argument.name), ("ty", argument.type.shown),
      ("resolved_type", Shown.optionText argument.resolvedType)]

/-- The description does not show, and of the pipeline only its presence. -/
def Field.shown (field : Field) : String :=
  Shown.record "FieldDefinition"
    [("name", quoted field.name), ("ty", field.type.shown),
      ("arguments", Shown.list (field.arguments.map Argument.shown)),
      ("member", Shown.option (field.member.map Member.shown)),
      ("resolved_type", Shown.optionText field.resolvedType),
      ("has_pipeline", Shown.bool field.pipeline.isSome)]

def Header.shown (header : Header) : String :=
  Shown.record "TypeHeader"
    [("id", header.id.shown), ("name", Shown.optionText header.name),
      ("description", Shown.optionText header.description),
      ("runtime_type", header.runtime.shown)]

namespace Definition

def shownFields (fields : List Field) : String :=
  Shown.list (fields.map Field.shown)

def shownReferences (references : List Reference) : String :=
  Shown.list (references.map Reference.shown)

def shownTexts (texts : List String) : String :=
  Shown.list (texts.map quoted)

def shown : Definition → String
  | object type =>
      Shown.variant "Object"
        [Shown.record "ObjectType"
          [("header", type.header.shown), ("fields", shownFields type.fields),
            ("interfaces", shownReferences type.interfaces),
            ("implements", shownTexts type.implemented),
            ("has_is_of_type", Shown.bool type.isOfType.isSome),
            ("is_query_type", Shown.bool type.isQueryType)]]
  | interface type =>
      Shown.variant "Interface"
        [Shown.record "InterfaceType"
          [("header", type.header.shown), ("fields", shownFields type.fields),
            ("interfaces", shownReferences type.interfaces),
            ("implements", shownTexts type.implemented)]]
  | union type =>
      Shown.variant "Union"
        [Shown.record "UnionType"
          [("header", type.header.shown), ("members", shownReferences type.members),
            ("resolved_members", shownTexts type.resolvedMembers)]]
  | inputObject type =>
      Shown.variant "InputObject"
        [Shown.record "InputObjectType"
          [("header", type.header.shown), ("fields", shownFields type.fields)]]
  | enum type =>
      Shown.variant "Enum"
        [Shown.record "EnumType"
          [("header", type.header.shown), ("values", shownTexts type.values)]]
  | scalar type =>
      Shown.variant "Scalar" [Shown.record "ScalarType" [("header", type.header.shown)]]
  | directive type =>
      Shown.variant "Directive"
        [Shown.record "DirectiveType"
          [("header", type.header.shown),
            ("arguments", Shown.list (type.arguments.map Argument.shown)),
            ("locations", type.locations.shown),
            ("repeatable", Shown.bool type.repeatable)]]
  | extension body =>
      Shown.variant "Extension" [Shown.record "TypeExtension" [("body", body.shown)]]

end Definition

def SchemaError.shown (error : SchemaError) : String :=
  Shown.record "SchemaError"
    [("code", error.code.shown), ("message", quoted error.message),
      ("type_name", Shown.optionText error.typeName),
      ("field", Shown.option (error.field.map FieldKey.shown)),
      ("reference", Shown.option (error.reference.map Reference.shown)),
      ("extensions",
        Shown.table (error.details.map fun detail => (quoted detail.1, quoted detail.2)))]

end SchemaGraph
