import SchemaGraph.Error.Basic

/-! Everything that can be wrong with a schema, and how it is worded.
A problem is the cause; `Problem.toError` gives its code, message and data.
-/

namespace SchemaGraph

/-- Why a binding cannot be compiled. -/
inductive BindingFault where
  | notDeclaredOnProvider (member : String) (provider : RuntimeType)
  | notOnSource (member : String) (declaringType source : RuntimeType)
  | severalParents (member : String)
  | parentRejectsSource (parameter member : String) (source : RuntimeType)
  | noInvoker (member : String)
deriving DecidableEq

def BindingFault.message : BindingFault → String
  | notDeclaredOnProvider member provider =>
      "The member `" ++ member ++ "` is not declared on the resolver type `" ++ provider.display
        ++ "`."
  | notOnSource member declaringType source =>
      "The member `" ++ member ++ "` of `" ++ declaringType.display
        ++ "` cannot be resolved on the source type `" ++ source.display ++ "`."
  | severalParents member =>
      "The member `" ++ member ++ "` declares more than one parent parameter."
  | parentRejectsSource parameter member source =>
      "The parent parameter `" ++ parameter ++ "` of `" ++ member ++ "` does not accept `"
        ++ source.display ++ "`."
  | noInvoker member => "The method `" ++ member ++ "` has no invoker."

/-- Where a wrapped type is written: on a field, or on an argument of a field or directive. -/
inductive Site where
  | field (key : FieldKey)
  | fieldArgument (key : FieldKey) (argument : String)
  | directiveArgument (owner argument : String)
deriving DecidableEq

/-- Adds what is known about the place. -/
def Site.locate (site : Site) (error : SchemaError) : SchemaError :=
  match site with
  | field key => error.withField key
  | fieldArgument key argument =>
      ((error.withType key.typeName).withDetail "argument" argument).withField key
  | directiveArgument owner argument => (error.withType owner).withDetail "argument" argument

/-- What a position demands of a type. -/
def Position.demand : Position → String
  | any => "a type"
  | input => "an input type"
  | output => "an output type"

inductive Problem where
  /-- No descriptor describes the reference. -/
  | undescribed (reference : Reference)
  /-- A type has neither a name nor a host type to derive one from. -/
  | nameless (id : SchemaId)
  | invalidName (name : String) (id : SchemaId)
  /-- Another type, `holder`, has the name already. -/
  | nameTaken (name : String) (holder : String)
  /-- The name that an extension extends belongs to no type. -/
  | missingBase (name : String) (extensionId : SchemaId)
  | kindMismatch (name : String) (extensionId : SchemaId)
  | uncompilable (field : FieldKey) (fault : BindingFault)
  | noValues (owner : String)
  | noMembers (owner : String)
  | noLocations (owner : String)
  /-- An interface or member reference denotes nothing. -/
  | unresolvedPart (reference : Reference) (owner : String)
  | notAnObject (name : String) (reference : Reference) (owner : String)
  | notAnInterface (name : String) (reference : Reference) (owner : String)
  | unresolvedType (reference : Reference) (site : Site)
  | wrongPosition (kind : Kind) (name : String) (position : Position) (reference : Reference)
      (site : Site)
  /-- A type waits for `missing` and possibly lies on a cycle. -/
  | stuck (name : String) (phase : Phase) (missing : List String) (cycle : Option (List String))
  | noFields (kind : Kind) (owner : String)
  | missingField (field interface owner : String)
  | handleBound
deriving DecidableEq

namespace Problem

def code : Problem → ErrorCode
  | undescribed .. => .discovery
  | nameless .. | invalidName .. => .invalidName
  | nameTaken .. => .duplicateName
  | missingBase .. => .extensionTargetMissing
  | kindMismatch .. => .extensionKindMismatch
  | uncompilable .. => .resolverCompilation
  | noValues .. | noMembers .. | noLocations .. | handleBound => .invalidStructure
  | unresolvedPart .. => .unresolvedReference
  | notAnObject .. | notAnInterface .. | wrongPosition .. => .invalidTypeReference
  | unresolvedType .. => .unresolvedFieldType
  | stuck .. => .unresolvedDependency
  | noFields .. | missingField .. => .validation

def message : Problem → String
  | undescribed reference =>
      "Unable to create a type for the reference `" ++ reference.display ++ "`."
  | nameless id => "Unable to infer a name for the type `" ++ id.name ++ "`."
  | invalidName name id =>
      "The name `" ++ name ++ "` of the type `" ++ id.name ++ "` is not a valid name."
  | nameTaken name _ => "The name `" ++ name ++ "` was already registered by another type."
  | missingBase name extensionId =>
      "Unable to find the type `" ++ name ++ "` extended by `" ++ extensionId.name ++ "`."
  | kindMismatch name _ =>
      "The kind of the extension does not match the kind of the type `" ++ name ++ "`."
  | uncompilable _ fault => fault.message
  | noValues owner => "The enum type `" ++ owner ++ "` has no values."
  | noMembers owner => "The union type `" ++ owner ++ "` has no member types."
  | noLocations owner => "The directive `" ++ owner ++ "` declares no locations."
  | unresolvedPart reference owner =>
      "Unable to resolve the type reference `" ++ reference.display ++ "` used by `" ++ owner
        ++ "`."
  | notAnObject name _ owner =>
      "The type `" ++ name ++ "` is not an object type and cannot be a member of the union `"
        ++ owner ++ "`."
  | notAnInterface name _ owner =>
      "The type `" ++ name ++ "` is not an interface and cannot be implemented by `" ++ owner
        ++ "`."
  | unresolvedType reference _ =>
      "Unable to resolve the type reference `" ++ reference.display ++ "`."
  | wrongPosition kind name position _ _ =>
      "The " ++ kind.display ++ " type `" ++ name ++ "` cannot be used as " ++ position.demand
        ++ "."
  | stuck name _ missing _ =>
      "Unable to resolve dependencies "
        ++ String.intercalate ", " (missing.map fun entry => "`" ++ entry ++ "`")
        ++ " for type `" ++ name ++ "`."
  | noFields kind owner =>
      "The " ++ kind.display ++ " type `" ++ owner ++ "` has to at least define one field."
  | missingField field interface owner =>
      "The field `" ++ field ++ "` of interface `" ++ interface
        ++ "` must be implemented by object type `" ++ owner ++ "`."
  | handleBound => SetupError.alreadyBound.message

/-- Adds the data that goes with the message. -/
def annotate (error : SchemaError) : Problem → SchemaError
  | undescribed reference => error.withReference reference
  | nameless _ => error
  | invalidName name _ => error.withType name
  | nameTaken name holder => (error.withType name).withDetail "registeredBy" holder
  | missingBase name _ => error.withType name
  | kindMismatch name extensionId =>
      (error.withType name).withDetail "extension" extensionId.name
  | uncompilable field _ => error.withField field
  | noValues owner | noMembers owner | noLocations owner | noFields _ owner =>
      error.withType owner
  | unresolvedPart reference owner | notAnObject _ reference owner
  | notAnInterface _ reference owner => (error.withType owner).withReference reference
  | unresolvedType reference site | wrongPosition _ _ _ reference site =>
      (site.locate error).withReference reference
  | stuck name phase missing cycle =>
      let waiting :=
        ((error.withType name).withDetail "kind" phase.display).withDetail "dependencies"
          (String.intercalate ", " missing)
      match cycle with
      | some members => waiting.withDetail "cycle" (String.intercalate " -> " members)
      | none => waiting
  | missingField _ interface owner =>
      (error.withType owner).withDetail "interface" interface
  | handleBound => error

def toError (problem : Problem) : SchemaError :=
  annotate (SchemaError.new problem.code problem.message) problem

end Problem
end SchemaGraph
