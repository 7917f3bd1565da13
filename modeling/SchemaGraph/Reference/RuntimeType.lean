import SchemaGraph.Hash.TypeHash

/-! Host types, which schema types are backed by.
A generic host type carries its arguments. Two host types are the same when name and arguments are;
the digest follows from them.
-/

namespace SchemaGraph

inductive RuntimeType where
  | generic (name : String) (arguments : List RuntimeType)

namespace RuntimeType

mutual
def decideEq : (left right : RuntimeType) → Decidable (left = right)
  | generic leftName leftArguments, generic rightName rightArguments =>
      match decEq leftName rightName, decideEqList leftArguments rightArguments with
      | isTrue hn, isTrue ha => isTrue (by rw [hn, ha])
      | isFalse hn, _ => isFalse (fun h => hn (generic.inj h).1)
      | _, isFalse ha => isFalse (fun h => ha (generic.inj h).2)

def decideEqList : (left right : List RuntimeType) → Decidable (left = right)
  | [], [] => isTrue rfl
  | [], _ :: _ => isFalse nofun
  | _ :: _, [] => isFalse nofun
  | left :: lefts, right :: rights =>
      match decideEq left right, decideEqList lefts rights with
      | isTrue hh, isTrue ht => isTrue (by rw [hh, ht])
      | isFalse hh, _ => isFalse (fun h => hh (List.cons.inj h).1)
      | _, isFalse ht => isFalse (fun h => ht (List.cons.inj h).2)
end

instance : DecidableEq RuntimeType := decideEq

def named (name : String) : RuntimeType :=
  generic name []

instance : Inhabited RuntimeType := ⟨named ""⟩

/-- The host type of everything that has no concrete host type. -/
def object : RuntimeType :=
  named "object"

def isObject (type : RuntimeType) : Bool :=
  type = object

/-- The name without the arguments. -/
def name : RuntimeType → String
  | generic name _ => name

def arguments : RuntimeType → List RuntimeType
  | generic _ arguments => arguments

def isGeneric (type : RuntimeType) : Bool :=
  type.arguments ≠ []

mutual
def hash : RuntimeType → TypeHash
  | generic name arguments => TypeHash.ofGeneric name (hashes arguments)

def hashes : List RuntimeType → List TypeHash
  | [] => []
  | argument :: rest => hash argument :: hashes rest
end

mutual
/-- The name, and the arguments if there are any between angle brackets. -/
def display : RuntimeType → String
  | generic name [] => name
  | generic name (first :: rest) => name ++ "<" ++ display first ++ displayRest rest ++ ">"

/-- Every further argument follows a comma. -/
def displayRest : List RuntimeType → String
  | [] => ""
  | argument :: rest => ", " ++ display argument ++ displayRest rest
end

def shown (type : RuntimeType) : String :=
  "RuntimeType(" ++ type.display ++ ")"

end RuntimeType
end SchemaGraph
