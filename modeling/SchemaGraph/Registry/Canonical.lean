import SchemaGraph.Registry.Basic

/-! Canonical references.
Every reference that denotes a registered type is led to the canonical reference of that type, so
that references can be compared. A name denotes the type that completed it.
-/

namespace SchemaGraph.Registry

/-- The slot of the type that the reference denotes. -/
def locate (registry : Registry) (reference : Reference) : Option Slot :=
  match reference.target with
  | .byName name => (registry.find reference).or (registry.findByName name)
  | _ => registry.find reference

def resolve (registry : Registry) (reference : Reference) : Option TypeRecord :=
  (registry.locate reference).bind registry.get?

def canonical (registry : Registry) (reference : Reference)
    : Except UnresolvedReference Reference :=
  match registry.resolve reference with
  | some record => .ok record.primary
  | none => .error ⟨reference⟩

/-- A reference that denotes nothing is kept. -/
def canonicalOrSelf (registry : Registry) (reference : Reference) : Reference :=
  match registry.resolve reference with
  | some record => record.primary
  | none => reference

/-- The canonical references in order, without those that agree with an earlier one. -/
def canonicalAll (registry : Registry) (references : List Reference) : List Reference :=
  Reference.addAll [] (references.map registry.canonicalOrSelf)

end SchemaGraph.Registry
