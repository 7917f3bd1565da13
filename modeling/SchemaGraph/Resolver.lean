import SchemaGraph.Value.Shown

/-! Resolvers: functions from a parent value and arguments to a field's value.
Middleware wraps one resolver into another.
-/

namespace SchemaGraph

/-- Why a resolver gave no value. -/
structure FieldError where
  message : String
deriving DecidableEq, Inhabited

abbrev Resolver := Value → Arguments → Except FieldError Value

abbrev Middleware := Resolver → Resolver

/-- Reads the key from the parent. A missing key and a missing parent give `null`. -/
def parentProperty (key : String) : Resolver := fun parent _ =>
  match parent with
  | .object entries => .ok ((Entries.get? entries key).getD .null)
  | .null => .ok .null
  | other =>
      .error ⟨"cannot read `" ++ key ++ "` from a non-object parent value " ++ other.shown⟩

/-- The first middleware is the outermost one. -/
def wrapAll (middleware : List Middleware) (resolver : Resolver) : Resolver :=
  middleware.foldr (fun wrap next => wrap next) resolver

/-- Whether an object says by its `__typename` that it has the type. -/
def hasTypename (typeName : String) (value : Value) : Bool :=
  (value.get? "__typename").bind Value.text? = some typeName

end SchemaGraph
