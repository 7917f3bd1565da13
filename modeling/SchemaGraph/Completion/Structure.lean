import SchemaGraph.Definition.Merge
import SchemaGraph.Error.Problem
import SchemaGraph.Registry.Canonical

/-! Completing the structure of a definition.
References are resolved to names, fields get their pipelines, and every violation is a problem of
its own. The definition is completed as far as it can be, whatever problems there are.
-/

namespace SchemaGraph

/-- What a definition is completed with. -/
structure Completion where
  registry : Registry
  bindings : Bindings
  middleware : List Middleware
  /-- Decides whether a value is of an object type that has no predicate, by the type's name. -/
  isOfType : String → Value → Bool
  /-- Whether the type is the root of queries. -/
  isQueryType : Bool

namespace Completion

/-- The names among the results, each once, in the order in which they first come. -/
def distinctNames (results : List (Except Problem String)) : List String :=
  (results.filterMap Except.toOption).foldl Definition.addValue []

def problemOf {α : Type} : Except Problem α → Option Problem
  | .error problem => some problem
  | .ok _ => none

/-- The name of the type that the reference denotes, if that can be used in the position. -/
def usableName (registry : Registry) (position : Position) (site : Site) (reference : Reference)
    : Except Problem String :=
  match registry.resolve reference with
  | none => .error (.unresolvedType reference site)
  | some target =>
      if target.isExtension || !target.kind.fits position then
        .error (.wrongPosition target.kind target.displayName position reference site)
      else .ok target.displayName

/-- The written type, if there is one. -/
def writtenType (type : WrappedType) (name : Except Problem String) : Option String :=
  name.toOption.map type.render

def completeArgument (registry : Registry) (site : String → Site) (argument : Argument)
    : Argument × List Problem :=
  let name := usableName registry .input (site argument.name) argument.type.reference
  ({ argument with resolvedType := writtenType argument.type name }, (problemOf name).toList)

def completeArguments (registry : Registry) (site : String → Site) (arguments : List Argument)
    : List Argument × List Problem :=
  let completed := arguments.map (completeArgument registry site)
  (completed.map Prod.fst, completed.flatMap Prod.snd)

/-- Completes the type of the field and then those of its arguments. -/
def completeField (registry : Registry) (owner : String) (position : Position) (field : Field)
    : Field × List Problem :=
  let key : FieldKey := ⟨owner, field.name⟩
  let name := usableName registry position (.field key) field.type.reference
  let (arguments, problems) :=
    completeArguments registry (.fieldArgument key) field.arguments
  ({ field with resolvedType := writtenType field.type name, arguments },
    (problemOf name).toList ++ problems)

def completeFields (registry : Registry) (owner : String) (position : Position)
    (fields : List Field) : List Field × List Problem :=
  let completed := fields.map (completeField registry owner position)
  (completed.map Prod.fst, completed.flatMap Prod.snd)

/-- The name of the interface that the reference denotes. -/
def interfaceName (registry : Registry) (owner : String) (reference : Reference)
    : Except Problem String :=
  match registry.resolve reference with
  | none => .error (.unresolvedPart reference owner)
  | some target =>
      if target.kind ≠ .interface || target.isExtension then
        .error (.notAnInterface target.displayName reference owner)
      else .ok target.displayName

def interfaceNames (registry : Registry) (owner : String) (interfaces : List Reference)
    : List String × List Problem :=
  let results := interfaces.map (interfaceName registry owner)
  (distinctNames results, results.filterMap problemOf)

/-- The name of the object type that a member of a union denotes. -/
def memberName (registry : Registry) (owner : String) (reference : Reference)
    : Except Problem String :=
  match registry.resolve reference with
  | none => .error (.unresolvedPart reference owner)
  | some target =>
      if target.kind ≠ .object then .error (.notAnObject target.displayName reference owner)
      else .ok target.displayName

/-- The compiled resolver that is bound to the field, or else a read of the parent under the name of
the property that the field was declared from, or under its own. -/
def fieldResolver (bindings : Bindings) (owner : String) (field : Field) : Resolver :=
  match (Entries.get? bindings ⟨owner, field.name⟩).bind fun binding => binding.form.resolver? with
  | some resolver => resolver
  | none =>
      match field.member with
      | some member => parentProperty (if member.isProperty then member.name else field.name)
      | none => parentProperty field.name

def addPipeline (completion : Completion) (owner : String) (field : Field) : Field :=
  { field with
    pipeline :=
      some (wrapAll completion.middleware (fieldResolver completion.bindings owner field)) }

/-- How messages name a definition that may lack a name. -/
def ownerName (header : Header) : String :=
  header.name.getD ""

def completeObject (completion : Completion) (type : ObjectType)
    : ObjectType × List Problem :=
  let owner := ownerName type.header
  let (fields, fieldProblems) := completeFields completion.registry owner .output type.fields
  let (implemented, interfaceProblems) :=
    interfaceNames completion.registry owner type.interfaces
  ({
      type with
      fields := fields.map (completion.addPipeline owner)
      implemented
      isOfType := some (type.isOfType.getD (completion.isOfType owner))
      isQueryType := completion.isQueryType
    },
    fieldProblems ++ interfaceProblems)

def completeInterface (registry : Registry) (type : InterfaceType)
    : InterfaceType × List Problem :=
  let owner := ownerName type.header
  let (fields, fieldProblems) := completeFields registry owner .output type.fields
  let (implemented, interfaceProblems) := interfaceNames registry owner type.interfaces
  ({ type with fields, implemented }, fieldProblems ++ interfaceProblems)

/-- A union without members stays as it is. -/
def completeUnion (registry : Registry) (type : UnionType) : UnionType × List Problem :=
  let owner := ownerName type.header
  if type.members = [] then
    (type, [.noMembers owner])
  else
    let results := type.members.map (memberName registry owner)
    ({ type with resolvedMembers := distinctNames results }, results.filterMap problemOf)

def completeInputObject (registry : Registry) (type : InputObjectType)
    : InputObjectType × List Problem :=
  let (fields, problems) :=
    completeFields registry (ownerName type.header) .input type.fields
  ({ type with fields }, problems)

def enumProblems (type : EnumType) : List Problem :=
  if type.values = [] then [.noValues (ownerName type.header)] else []

/-- Messages name a directive behind an `@`. -/
def completeDirective (registry : Registry) (type : DirectiveType)
    : DirectiveType × List Problem :=
  let owner := "@" ++ ownerName type.header
  let (arguments, problems) :=
    completeArguments registry (.directiveArgument owner) type.arguments
  ({ type with arguments },
    problems ++ if type.locations.isEmpty then [.noLocations owner] else [])

/-- Completes a definition and gives all its problems; an extension is left alone. -/
def complete (completion : Completion) (definition : Definition)
    : Definition × List Problem :=
  match definition with
  | .object type =>
      let (type, problems) := completion.completeObject type
      (.object type, problems)
  | .interface type =>
      let (type, problems) := completeInterface completion.registry type
      (.interface type, problems)
  | .union type =>
      let (type, problems) := completeUnion completion.registry type
      (.union type, problems)
  | .inputObject type =>
      let (type, problems) := completeInputObject completion.registry type
      (.inputObject type, problems)
  | .enum type => (.enum type, enumProblems type)
  | .scalar type => (.scalar type, [])
  | .directive type =>
      let (type, problems) := completeDirective completion.registry type
      (.directive type, problems)
  | .extension body => (.extension body, [])

end Completion
end SchemaGraph
