import SchemaGraph.Completion.Structure
import SchemaGraph.Proofs.Data.Distinct

/-! Complete definitions.
A definition that is completed without a problem lacks nothing that completion could have added.
-/

namespace SchemaGraph

/-- The type of the argument is written out. -/
def Argument.IsTyped (argument : Argument) : Prop :=
  argument.resolvedType.isSome = true

/-- The types of the field and of its arguments are written out. -/
structure Field.IsTyped (field : Field) : Prop where
  type : field.resolvedType.isSome = true
  arguments : ∀ argument ∈ field.arguments, argument.IsTyped

/-- Whether a definition has everything that the graph needs. An extension needs nothing, since what
it adds is part of another definition.
-/
def Definition.IsComplete : Definition → Prop
  | .object type =>
      (∀ field ∈ type.fields, field.IsTyped ∧ field.pipeline.isSome = true)
      ∧ type.isOfType.isSome = true
  | .interface type => ∀ field ∈ type.fields, field.IsTyped
  | .union type => type.members ≠ [] ∧ type.resolvedMembers ≠ []
  | .inputObject type => ∀ field ∈ type.fields, field.IsTyped
  | .enum type => type.values ≠ []
  | .scalar _ => True
  | .directive type =>
      (∀ argument ∈ type.arguments, argument.IsTyped) ∧ type.locations.isEmpty = false
  | .extension _ => True

/-- An extension is complete as it is. -/
theorem Definition.isComplete_of_isExtension {definition : Definition}
    (h : definition.isExtension = true)
    : definition.IsComplete := by
  cases definition with
  | extension body => trivial
  | _ => cases h

namespace Completion

variable {registry : Registry}

-----------------------------------------------------------------------------------------
-- Arguments and fields
-----------------------------------------------------------------------------------------

/-- What has no problem has a value. -/
theorem isOk_of_problemOf {α : Type} {result : Except Problem α} (h : problemOf result = none)
    : ∃ value, result = .ok value := by
  cases result with
  | error problem => cases h
  | ok value => exact ⟨value, rfl⟩

/-- An argument without a problem has a type. -/
theorem completeArgument_isTyped {site : String → Site} {argument : Argument}
    (fine : (completeArgument registry site argument).2 = [])
    : (completeArgument registry site argument).1.IsTyped := by
  simp only [completeArgument, Option.toList_eq_nil_iff] at fine
  obtain ⟨name, found⟩ := isOk_of_problemOf fine
  simp only [completeArgument, found]
  rfl

/-- So have all arguments without a problem. -/
theorem completeArguments_isTyped {site : String → Site} {arguments : List Argument}
    (fine : (completeArguments registry site arguments).2 = [])
    : ∀ argument ∈ (completeArguments registry site arguments).1, argument.IsTyped := by
  simp only [completeArguments, List.flatMap_eq_nil_iff, List.forall_mem_map] at fine ⊢
  intro argument member
  exact completeArgument_isTyped (fine argument member)

/-- A field without a problem has a type, and so have its arguments. -/
theorem completeField_isTyped {owner : String} {position : Position} {field : Field}
    (fine : (completeField registry owner position field).2 = [])
    : (completeField registry owner position field).1.IsTyped := by
  simp only [completeField, List.append_eq_nil_iff, Option.toList_eq_nil_iff] at fine
  obtain ⟨name, found⟩ := isOk_of_problemOf fine.1
  refine ⟨?_, completeArguments_isTyped fine.2⟩
  simp only [completeField, found]
  rfl

/-- So have all fields without a problem. -/
theorem completeFields_isTyped {owner : String} {position : Position} {fields : List Field}
    (fine : (completeFields registry owner position fields).2 = [])
    : ∀ field ∈ (completeFields registry owner position fields).1, field.IsTyped := by
  simp only [completeFields, List.flatMap_eq_nil_iff, List.forall_mem_map] at fine ⊢
  intro field member
  exact completeField_isTyped (fine field member)

-----------------------------------------------------------------------------------------
-- Names of members
-----------------------------------------------------------------------------------------

/-- The names are those that were resolved, each where it first came. -/
theorem distinctNames_eq (results : List (Except Problem String))
    : distinctNames results = (results.filterMap Except.toOption).eraseDups :=
  (foldl_append_unless_mem [] _).trans (by simp [newItems])

/-- The names are those among the results. -/
theorem mem_distinctNames {results : List (Except Problem String)} {name : String}
    : name ∈ distinctNames results ↔ .ok name ∈ results := by
  have named (result : Except Problem String)
      : result.toOption = some name ↔ result = .ok name := by
    cases result <;> simp [Except.toOption]
  simp [distinctNames_eq, named]

/-- So none of them comes twice. -/
theorem nodup_distinctNames (results : List (Except Problem String))
    : (distinctNames results).Nodup :=
  distinctNames_eq results ▸ nodup_eraseDups _

-----------------------------------------------------------------------------------------
-- Definitions
-----------------------------------------------------------------------------------------

/-- An object without a problem is complete: its fields are typed, and every field has a pipeline.
-/
theorem completeObject_isComplete {completion : Completion} {type : ObjectType}
    (fine : (completion.completeObject type).2 = [])
    : (Definition.object (completion.completeObject type).1).IsComplete := by
  simp only [completeObject, List.append_eq_nil_iff] at fine
  have typed := completeFields_isTyped fine.1
  refine ⟨?_, rfl⟩
  simp only [completeObject, List.forall_mem_map]
  intro field member
  exact ⟨⟨(typed field member).type, (typed field member).arguments⟩, rfl⟩

/-- An interface without a problem is complete. -/
theorem completeInterface_isComplete {type : InterfaceType}
    (fine : (completeInterface registry type).2 = [])
    : (Definition.interface (completeInterface registry type).1).IsComplete := by
  simp only [completeInterface, List.append_eq_nil_iff] at fine
  exact completeFields_isTyped fine.1

/-- Witness: the first member denotes an object type, whose name is kept. -/
theorem completeUnion_isComplete {type : UnionType}
    (fine : (completeUnion registry type).2 = [])
    : (Definition.union (completeUnion registry type).1).IsComplete := by
  unfold completeUnion at fine ⊢
  split
  · next empty =>
      rw [if_pos empty] at fine
      cases fine
  · next some =>
      simp only [if_neg some, List.filterMap_map, List.filterMap_eq_nil_iff] at fine
      obtain ⟨member, first⟩ := List.exists_mem_of_ne_nil _ some
      obtain ⟨name, found⟩ := isOk_of_problemOf (fine member first)
      have kept := List.mem_map.mpr ⟨member, first, found⟩
      exact ⟨some, List.ne_nil_of_mem (mem_distinctNames.mpr kept)⟩

/-- An input object without a problem is complete. -/
theorem completeInputObject_isComplete {type : InputObjectType}
    (fine : (completeInputObject registry type).2 = [])
    : (Definition.inputObject (completeInputObject registry type).1).IsComplete :=
  completeFields_isTyped fine

/-- A directive without a problem is complete, its locations included. -/
theorem completeDirective_isComplete {type : DirectiveType}
    (fine : (completeDirective registry type).2 = [])
    : (Definition.directive (completeDirective registry type).1).IsComplete := by
  simp only [completeDirective, List.append_eq_nil_iff] at fine
  refine ⟨completeArguments_isTyped fine.1, ?_⟩
  have located := fine.2
  split at located
  · cases located
  · next some => exact Bool.eq_false_iff.mpr some

/-- What is completed without a problem is complete. -/
theorem complete_isComplete {completion : Completion} {definition : Definition}
    (fine : (completion.complete definition).2 = [])
    : (completion.complete definition).1.IsComplete := by
  cases definition with
  | object type => exact completeObject_isComplete fine
  | interface type => exact completeInterface_isComplete fine
  | union type => exact completeUnion_isComplete fine
  | inputObject type => exact completeInputObject_isComplete fine
  | enum type =>
      intro empty
      simp [complete, enumProblems, empty] at fine
  | scalar type => trivial
  | directive type => exact completeDirective_isComplete fine
  | extension body => trivial

end Completion
end SchemaGraph
