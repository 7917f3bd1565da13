import SchemaGraph.Text.Shown

/-! The places that a directive may be applied to, as sets with one bit a place. -/

namespace SchemaGraph

inductive Location where
  | query
  | mutation
  | subscription
  | field
  | fragmentDefinition
  | fragmentSpread
  | inlineFragment
  | schema
  | scalar
  | object
  | fieldDefinition
  | argumentDefinition
  | interface
  | union
  | enum
  | enumValue
  | inputObject
  | inputFieldDefinition
deriving DecidableEq, Inhabited

/-- A set of places; the place number `n` of `Location.all` has the bit `2 ^ n`. -/
structure Locations where
  bits : UInt32
deriving DecidableEq, Inhabited

namespace Location

def all : List Location :=
  [query, mutation, subscription, field, fragmentDefinition, fragmentSpread, inlineFragment,
    schema, scalar, object, fieldDefinition, argumentDefinition, interface, union, enum,
    enumValue, inputObject, inputFieldDefinition]

def display : Location → String
  | query => "QUERY"
  | mutation => "MUTATION"
  | subscription => "SUBSCRIPTION"
  | field => "FIELD"
  | fragmentDefinition => "FRAGMENT_DEFINITION"
  | fragmentSpread => "FRAGMENT_SPREAD"
  | inlineFragment => "INLINE_FRAGMENT"
  | schema => "SCHEMA"
  | scalar => "SCALAR"
  | object => "OBJECT"
  | fieldDefinition => "FIELD_DEFINITION"
  | argumentDefinition => "ARGUMENT_DEFINITION"
  | interface => "INTERFACE"
  | union => "UNION"
  | enum => "ENUM"
  | enumValue => "ENUM_VALUE"
  | inputObject => "INPUT_OBJECT"
  | inputFieldDefinition => "INPUT_FIELD_DEFINITION"

def toLocations (location : Location) : Locations :=
  ⟨1 <<< (all.idxOf location).toUInt32⟩

end Location

namespace Locations

def empty : Locations := ⟨0⟩

def isEmpty (locations : Locations) : Bool :=
  locations = empty

def union (left right : Locations) : Locations :=
  ⟨left.bits ||| right.bits⟩

def ofList (locations : List Location) : Locations :=
  locations.foldl (fun sofar location => sofar.union location.toLocations) empty

/-- Whether the left set holds every place of the right one. -/
def includes (left right : Locations) : Bool :=
  left.bits &&& right.bits = right.bits

def intersects (left right : Locations) : Bool :=
  left.bits &&& right.bits ≠ 0

/-- The places that occur in requests rather than in schemas. -/
def executable : Locations :=
  ofList
    [.query, .mutation, .subscription, .field, .fragmentDefinition, .fragmentSpread,
      .inlineFragment]

def toList (locations : Locations) : List Location :=
  Location.all.filter fun location => locations.includes location.toLocations

/-- The places joined by bars, or a zero for the empty set. -/
def shown (locations : Locations) : String :=
  Shown.variant "DirectiveLocation"
    [if locations.isEmpty then "0x0"
      else String.intercalate " | " (locations.toList.map Location.display)]

end Locations
end SchemaGraph
