import SchemaGraph.Reference.Basic

/-! Kinds of schema types, the phases and statuses that a type passes through, and dependencies. -/

namespace SchemaGraph

inductive Kind where
  | object
  | interface
  | union
  | inputObject
  | enum
  | scalar
  | directive
deriving DecidableEq, Inhabited

namespace Kind

/-- Kinds that a field may return. -/
def isOutput : Kind → Bool
  | object | interface | union | enum | scalar => true
  | inputObject | directive => false

/-- Kinds that an argument or an input field may have. -/
def isInput : Kind → Bool
  | inputObject | enum | scalar => true
  | object | interface | union | directive => false

/-- The position that types of the kind live in. Enums and scalars serve both, and so do directives,
which live in none. -/
def position : Kind → Position
  | object | interface | union => .output
  | inputObject => .input
  | enum | scalar | directive => .any

/-- Whether a type of the kind can be used in the position. -/
def fits (kind : Kind) : Position → Bool
  | .any => true
  | .input => kind.isInput
  | .output => kind.isOutput

def display : Kind → String
  | object => "object"
  | interface => "interface"
  | union => "union"
  | inputObject => "input object"
  | enum => "enum"
  | scalar => "scalar"
  | directive => "directive"

end Kind

/-- The two rounds of completion: a type gets its name first and its structure second. -/
inductive Phase where
  | named
  | completed
deriving DecidableEq, Inhabited

namespace Phase

def display : Phase → String
  | named => "named"
  | completed => "completed"

def shown : Phase → String
  | named => "Named"
  | completed => "Completed"

end Phase

/-- How far a type has come. -/
inductive Status where
  | initialized
  | named
  | completed
deriving DecidableEq, Inhabited

namespace Status

def rank : Status → Nat
  | initialized => 0
  | named => 1
  | completed => 2

def shown : Status → String
  | initialized => "Initialized"
  | named => "Named"
  | completed => "Completed"

end Status

/-- A type with this dependency waits until the reference has passed the phase. -/
structure Dependency where
  reference : Reference
  phase : Phase
deriving DecidableEq, Inhabited

namespace Dependency

/-- Dependencies agree when their references do and they wait for the same phase. -/
def agrees (left right : Dependency) : Bool :=
  left.reference.agrees right.reference && left.phase = right.phase

def isIn (dependency : Dependency) (dependencies : List Dependency) : Bool :=
  dependencies.any fun other => other.agrees dependency

/-- Adds the dependency behind the others unless one of them agrees with it. -/
def addTo (dependency : Dependency) (dependencies : List Dependency) : List Dependency :=
  if dependency.isIn dependencies then dependencies else dependencies ++ [dependency]

def addAll (dependencies additions : List Dependency) : List Dependency :=
  additions.foldl (fun sofar dependency => dependency.addTo sofar) dependencies

def display (dependency : Dependency) : String :=
  dependency.reference.display ++ " (" ++ dependency.phase.display ++ ")"

def shown (dependency : Dependency) : String :=
  Shown.record "TypeDependency"
    [("reference", dependency.reference.shown), ("kind", dependency.phase.shown)]

end Dependency
end SchemaGraph
