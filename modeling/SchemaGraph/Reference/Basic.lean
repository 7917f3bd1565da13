import SchemaGraph.Reference.RuntimeType
import SchemaGraph.Text.Shown

/-! References to types that may not be registered yet.
A reference has a target, the position that it is used in and a scope. Two references agree when
targets and scopes are the same and the positions are compatible. The position `any` is compatible
with both others, so agreement is no equivalence: `input` agrees with `any` and `any` with `output`,
yet `input` and `output` do not agree.
-/

namespace SchemaGraph

/-- Where a type is used: as the type of an argument or input field, or of a field result. -/
inductive Position where
  | any
  | input
  | output
deriving DecidableEq, Inhabited

namespace Position

def compatible (left right : Position) : Bool :=
  left = right || left = any || right = any

theorem compatible_comm (left right : Position)
    : compatible left right = compatible right left := by
  cases left <;> cases right <;> rfl

def display : Position → String
  | any => "none"
  | input => "input"
  | output => "output"

def shown : Position → String
  | any => "None"
  | input => "Input"
  | output => "Output"

end Position

/-- The identity of a schema type. -/
structure SchemaId where
  name : String
deriving DecidableEq, Inhabited

def SchemaId.hash (id : SchemaId) : TypeHash :=
  TypeHash.ofSchemaName id.name

def SchemaId.shown (id : SchemaId) : String :=
  "SchemaTypeId(" ++ id.name ++ ")"

/-- What a reference points at. A name is looked up once names are complete. -/
inductive Target where
  | runtime (type : RuntimeType)
  | schema (id : SchemaId)
  | byName (name : String)
deriving DecidableEq, Inhabited

namespace Target

def display : Target → String
  | runtime type => type.display
  | schema id => id.name
  | byName name => name

def shown : Target → String
  | runtime type => Shown.variant "Runtime" [type.shown]
  | schema id => Shown.variant "Schema" [id.shown]
  | byName name => Shown.variant "Syntax" [quoted name]

end Target

structure Reference where
  target : Target
  position : Position
  scope : Option String
deriving DecidableEq, Inhabited

namespace Reference

def runtime (type : RuntimeType) (position : Position) : Reference :=
  ⟨.runtime type, position, none⟩

def schema (id : SchemaId) : Reference :=
  ⟨.schema id, .any, none⟩

def named (name : String) (position : Position) : Reference :=
  ⟨.byName name, position, none⟩

def withScope (reference : Reference) (scope : Option String) : Reference :=
  { reference with scope }

def withPosition (reference : Reference) (position : Position) : Reference :=
  { reference with position }

/-- Whether two references may denote the same type. -/
def agrees (left right : Reference) : Bool :=
  left.position.compatible right.position && left.scope = right.scope
    && left.target = right.target

theorem agrees_refl (reference : Reference) : reference.agrees reference = true := by
  simp [agrees, Position.compatible]

theorem agrees_comm (left right : Reference) : left.agrees right = right.agrees left := by
  simp only [agrees, Position.compatible_comm left.position, @eq_comm _ left.scope,
    @eq_comm _ left.target]

/-- Whether some reference of the list agrees. -/
def isIn (reference : Reference) (references : List Reference) : Bool :=
  references.any fun other => other.agrees reference

/-- No two references of the list agree. -/
def Apart (references : List Reference) : Prop :=
  references.Pairwise fun left right => left.agrees right = false

instance (references : List Reference) : Decidable (Apart references) :=
  inferInstanceAs (Decidable (references.Pairwise _))

theorem apart_singleton (reference : Reference) : Apart [reference] :=
  List.pairwise_singleton _ _

/-- A reference that agrees with none of the others may come behind them. -/
theorem Apart.concat {references : List Reference} (apart : Apart references)
    {reference : Reference} (absent : ¬reference.isIn references = true)
    : Apart (references ++ [reference]) := by
  refine List.pairwise_append.mpr ⟨apart, List.pairwise_singleton _ _, ?_⟩
  intro held member added same
  rw [List.mem_singleton.mp same, Bool.eq_false_iff]
  exact fun agrees => absent (List.any_eq_true.mpr ⟨held, member, agrees⟩)

/-- Adds the reference behind the others unless one of them agrees with it. -/
def addTo (reference : Reference) (references : List Reference) : List Reference :=
  if reference.isIn references then references else references ++ [reference]

/-- Adds references one after the other, each unless an earlier one agrees. -/
def addAll (references additions : List Reference) : List Reference :=
  additions.foldl (fun sofar reference => reference.addTo sofar) references

def isName (reference : Reference) : Bool :=
  match reference.target with
  | .byName _ => true
  | _ => false

/-- The scope before a colon if there is one, the target, and the position unless it is `any`. -/
def display (reference : Reference) : String :=
  let scope :=
    match reference.scope with
    | some scope => scope ++ ":"
    | none => ""
  let position :=
    if reference.position = .any then "" else " (" ++ reference.position.display ++ ")"
  scope ++ reference.target.display ++ position

def shown (reference : Reference) : String :=
  Shown.record "TypeRef"
    [("target", reference.target.shown), ("context", reference.position.shown),
      ("scope", Shown.optionText reference.scope)]

end Reference
end SchemaGraph
