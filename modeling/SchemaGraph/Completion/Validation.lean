import SchemaGraph.Error.Problem
import SchemaGraph.Registry.Basic

/-! Rules for a schema whose types are all complete.
Objects and interfaces have a field, and an object declares every field of its interfaces.
-/

namespace SchemaGraph

abbrev Validator := Registry → List SchemaError

namespace Validator

def fieldProblems (kind : Kind) (owner : String) (fields : List Field) : List Problem :=
  if fields.isEmpty then [.noFields kind owner] else []

/-- The fields of the interface that the object lacks. A name that denotes no interface asks for
nothing. -/
def missingFields (registry : Registry) (owner : String) (fields : List Field)
    (interface : String) : List Problem :=
  match (registry.getByName interface).bind fun record => record.definition.asInterface? with
  | none => []
  | some declared =>
      (declared.fields.filter fun field =>
          !fields.any fun other => other.name = field.name).map fun field =>
        .missingField field.name interface owner

def recordProblems (registry : Registry) (record : TypeRecord) : List Problem :=
  match record.definition with
  | .object type =>
      fieldProblems .object record.displayName type.fields
        ++ type.implemented.flatMap (missingFields registry record.displayName type.fields)
  | .interface type => fieldProblems .interface record.displayName type.fields
  | _ => []

/-- Checks every named type in the order of registration. -/
def standard : Validator := fun registry =>
  ((registry.records.filter TypeRecord.isNamedType).flatMap (recordProblems registry)).map
    Problem.toError

end Validator
end SchemaGraph
