import SchemaGraph.Data.Entries

/-! The dynamic values that resolvers read and return.
An object holds each key once, in the order in which the keys first came; two objects are equal
whatever the order of their keys.
-/

namespace SchemaGraph

inductive Value where
  | null
  | bool (flag : Bool)
  | int (number : Int)
  | float (number : Float)
  | text (content : String)
  | list (items : List Value)
  | object (entries : List (String × Value))

namespace Value

instance : Inhabited Value := ⟨null⟩

/-- An object of the pairs in order; a repeated key keeps its place and takes the later value. -/
def ofEntries (entries : List (String × Value)) : Value :=
  object (Entries.ofList entries)

/-- What an object holds under the key; nothing for any other value. -/
def get? (value : Value) (key : String) : Option Value :=
  match value with
  | object entries => Entries.get? entries key
  | _ => none

def text? : Value → Option String
  | text content => some content
  | _ => none

def isNull : Value → Bool
  | null => true
  | _ => false

mutual
/-- Numbers compare as numbers of their own sort, so that no float equals an integer and
not-a-number equals nothing. -/
def equal : Value → Value → Bool
  | null, null => true
  | bool left, bool right => left = right
  | int left, int right => left = right
  | float left, float right => left == right
  | text left, text right => left = right
  | list left, list right => equalItems left right
  | object left, object right => left.length = right.length && entriesWithin left right
  | _, _ => false

def equalItems : List Value → List Value → Bool
  | [], [] => true
  | left :: lefts, right :: rights => equal left right && equalItems lefts rights
  | _, _ => false

/-- Every entry has an equal value under the same key of the other object. -/
def entriesWithin : List (String × Value) → List (String × Value) → Bool
  | [], _ => true
  | (key, value) :: rest, other =>
      (match Entries.get? other key with
        | some found => equal value found
        | none => false)
      && entriesWithin rest other
end

instance : BEq Value := ⟨equal⟩

end Value

/-- The arguments of a field by name. -/
abbrev Arguments := Entries String Value

end SchemaGraph
