import SchemaGraph.Completion.Structure

/-! What a definition is, apart from its structure.
Merging an extension into a definition and completing a definition change its structure alone, and
that of an extension not at all.
-/

namespace SchemaGraph

/-- Identity, name, host type and kind of a definition, and what it adds to another one. -/
structure Outline where
  id : SchemaId
  name : Option String
  runtime : RuntimeType
  kind : Kind
  isExtension : Bool
  addition : Option Definition

namespace Definition

/-- The structure that an extension adds: its body without the header. -/
def addition : Definition → Option Definition
  | extension body => some (body.mapHeader fun _ => default)
  | _ => none

def outline (definition : Definition) : Outline :=
  ⟨definition.id, definition.name, definition.runtime, definition.kind, definition.isExtension,
    definition.addition⟩

theorem isDirective_eq (definition : Definition)
    : definition.isDirective = (definition.kind = .directive && !definition.isExtension) := by
  cases definition with
  | extension body => simp [isDirective, isExtension]
  | _ => rfl

section

variable {left right : Definition}

theorem name_congr (same : left.outline = right.outline) : left.name = right.name :=
  congrArg Outline.name same

theorem isExtension_congr (same : left.outline = right.outline)
    : left.isExtension = right.isExtension :=
  congrArg Outline.isExtension same

theorem isDirective_congr (same : left.outline = right.outline)
    : left.isDirective = right.isDirective := by
  have sameKind : left.kind = right.kind := congrArg Outline.kind same
  rw [isDirective_eq, isDirective_eq, sameKind, isExtension_congr same]

theorem isNamedType_congr (same : left.outline = right.outline)
    : left.isNamedType = right.isNamedType := by
  rw [isNamedType, isNamedType, isDirective_congr same, isExtension_congr same]

end

-----------------------------------------------------------------------------------------
-- Changes of the structure
-----------------------------------------------------------------------------------------

theorem mapHeader_mapHeader (first second : Header → Header) (definition : Definition)
    : (definition.mapHeader first).mapHeader second
      = definition.mapHeader fun header => second (first header) := by
  induction definition with
  | extension body ih => exact congrArg extension ih
  | _ => rfl

@[simp] theorem addition_mapHeader (definition : Definition) (change : Header → Header)
    : (definition.mapHeader change).addition = definition.addition := by
  cases definition with
  | extension body => exact congrArg some (mapHeader_mapHeader change _ body)
  | _ => rfl

/-- A change of the header that keeps identity, name and host type keeps the outline. -/
theorem outline_mapHeader {change : Header → Header} {definition : Definition}
    (id : (change definition.header).id = definition.header.id)
    (name : (change definition.header).name = definition.header.name)
    (runtime : (change definition.header).runtime = definition.header.runtime)
    : (definition.mapHeader change).outline = definition.outline := by
  have sameExtension : (definition.mapHeader change).isExtension = definition.isExtension := by
    cases definition <;> rfl
  simp only [outline, Definition.id, Definition.name, Definition.runtime, header_mapHeader,
    kind_mapHeader, addition_mapHeader, id, name, runtime, sameExtension]

theorem outline_mergeStructure (base body : Definition)
    : (base.mergeStructure body).outline = base.outline := by
  unfold mergeStructure
  split <;> rfl

@[simp] theorem outline_merge (base body : Definition)
    : (base.merge body).outline = base.outline :=
  (outline_mapHeader rfl rfl rfl).trans (outline_mergeStructure base body)

end Definition

@[simp] theorem Completion.outline_complete (completion : Completion) (definition : Definition)
    : (completion.complete definition).1.outline = definition.outline := by
  cases definition with
  | union type =>
      simp only [complete, completeUnion]
      split <;> rfl
  | _ => rfl

end SchemaGraph
