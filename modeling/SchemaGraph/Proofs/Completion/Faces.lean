import SchemaGraph.Proofs.Definition.Outline
import SchemaGraph.Registry.Canonical

/-! What completion reads of other types.
Of the type that a reference denotes, completion reads the kind, the name, and whether it is an
extension. Registries in which references denote types that are alike in this complete a definition
in the same way.
-/

namespace SchemaGraph

/-- What other types see of a type. -/
structure Face where
  kind : Kind
  isExtension : Bool
  displayName : String

def TypeRecord.face (record : TypeRecord) : Face :=
  ⟨record.kind, record.isExtension, record.displayName⟩

theorem TypeRecord.face_congr {left right : TypeRecord}
    (outline : left.definition.outline = right.definition.outline)
    (primary : left.primary = right.primary)
    : left.face = right.face := by
  have name : left.name = right.name := Definition.name_congr outline
  have kind : left.kind = right.kind := congrArg Outline.kind outline
  have isExtension : left.isExtension = right.isExtension := Definition.isExtension_congr outline
  rw [face, face, displayName, displayName, name, kind, isExtension, primary]

/-- A reference denotes types with the same face. -/
def Registry.LookAlike (before after : Registry) : Prop :=
  ∀ reference,
    (after.resolve reference).map TypeRecord.face
    = (before.resolve reference).map TypeRecord.face

namespace Completion

open Registry

variable {before after : Registry}

/-- In both registries the reference denotes a type, of the same face, or in neither one. -/
theorem lookAlike_cases (alike : LookAlike before after) (reference : Reference)
    : (after.resolve reference = none ∧ before.resolve reference = none)
      ∨ ∃ later earlier,
          after.resolve reference = some later
          ∧ before.resolve reference = some earlier
          ∧ later.kind = earlier.kind
          ∧ later.isExtension = earlier.isExtension
          ∧ later.displayName = earlier.displayName := by
  have same := alike reference
  cases here : before.resolve reference with
  | none =>
      rw [here] at same
      exact Or.inl ⟨Option.map_eq_none_iff.mp same, rfl⟩
  | some earlier =>
      rw [here] at same
      obtain ⟨later, there, faces⟩ := Option.map_eq_some_iff.mp same
      exact Or.inr ⟨later, earlier, there, rfl, congrArg Face.kind faces,
        congrArg Face.isExtension faces, congrArg Face.displayName faces⟩

theorem usableName_congr (alike : LookAlike before after)
    : usableName after = usableName before := by
  funext position site reference
  unfold usableName
  rcases lookAlike_cases alike reference with
    ⟨there, here⟩ | ⟨later, earlier, there, here, kind, isExtension, displayName⟩
  · rw [there, here]
  · rw [there, here]
    simp only [kind, isExtension, displayName]

theorem interfaceName_congr (alike : LookAlike before after)
    : interfaceName after = interfaceName before := by
  funext owner reference
  unfold interfaceName
  rcases lookAlike_cases alike reference with
    ⟨there, here⟩ | ⟨later, earlier, there, here, kind, isExtension, displayName⟩
  · rw [there, here]
  · rw [there, here]
    simp only [kind, isExtension, displayName]

theorem memberName_congr (alike : LookAlike before after)
    : memberName after = memberName before := by
  funext owner reference
  unfold memberName
  rcases lookAlike_cases alike reference with
    ⟨there, here⟩ | ⟨later, earlier, there, here, kind, isExtension, displayName⟩
  · rw [there, here]
  · rw [there, here]
    simp only [kind, displayName]

theorem completeArguments_congr (alike : LookAlike before after)
    : completeArguments after = completeArguments before := by
  have argument : completeArgument after = completeArgument before := by
    funext site argument
    simp only [completeArgument, usableName_congr alike]
  funext site arguments
  simp only [completeArguments, argument]

theorem completeFields_congr (alike : LookAlike before after)
    : completeFields after = completeFields before := by
  have field : completeField after = completeField before := by
    funext owner position field
    simp only [completeField, usableName_congr alike, completeArguments_congr alike]
  funext owner position fields
  simp only [completeFields, field]

theorem interfaceNames_congr (alike : LookAlike before after)
    : interfaceNames after = interfaceNames before := by
  funext owner interfaces
  simp only [interfaceNames, interfaceName_congr alike]

/-- Completion reads nothing of the registry but the faces of the types that it refers to. -/
theorem complete_congr (completion : Completion) (alike : LookAlike before after)
    (definition : Definition)
    : { completion with registry := after }.complete definition
      = { completion with registry := before }.complete definition := by
  cases definition with
  | object type =>
      simp only [complete, completeObject, completeFields_congr alike, interfaceNames_congr alike]
      rfl
  | interface type =>
      simp only [complete, completeInterface, completeFields_congr alike,
        interfaceNames_congr alike]
  | union type => simp only [complete, completeUnion, memberName_congr alike]
  | inputObject type => simp only [complete, completeInputObject, completeFields_congr alike]
  | directive type => simp only [complete, completeDirective, completeArguments_congr alike]
  | _ => rfl

end Completion
end SchemaGraph
