import SchemaGraph.Proofs.Completion.Complete
import SchemaGraph.Proofs.Registry.Names

/-! Written names that denote types.
A definition that is completed without a problem writes only names of registered types, and each
where a type of its kind can stand. Which names these are depends on the outlines of the types
alone.
-/

namespace SchemaGraph

-----------------------------------------------------------------------------------------
-- Definitions whose names all denote
-----------------------------------------------------------------------------------------

section

variable (known : (Kind → Bool) → String → Prop)

/-- The written type has the wrappers of the type around a name that is known to be usable. -/
def WrappedType.WrittenAs (usable : Kind → Bool) (type : WrappedType)
    (written : Option String)
    : Prop :=
  ∃ name, known usable name ∧ written = some (type.render name)

def Argument.Denotes (argument : Argument) : Prop :=
  argument.type.WrittenAs known Kind.isInput argument.resolvedType

structure Field.Denotes (usable : Kind → Bool) (field : Field) : Prop where
  type : field.type.WrittenAs known usable field.resolvedType
  arguments : ∀ argument ∈ field.arguments, argument.Denotes known

/-- The names of the implemented interfaces are distinct, and known as interfaces. -/
structure Implements (implemented : List String) : Prop where
  distinct : implemented.Nodup
  interfaces : ∀ name ∈ implemented, known (fun kind => kind = .interface) name

/-- Whether the types of fields and arguments and the interfaces of a definition are written by
known names: fields of objects and interfaces by names of output kinds, arguments and fields of
input objects by names of input kinds. Nothing is written for an extension.
-/
def Definition.Denotes : Definition → Prop
  | .object type =>
      (∀ field ∈ type.fields, field.Denotes known Kind.isOutput)
      ∧ Implements known type.implemented
  | .interface type =>
      (∀ field ∈ type.fields, field.Denotes known Kind.isOutput)
      ∧ Implements known type.implemented
  | .inputObject type => ∀ field ∈ type.fields, field.Denotes known Kind.isInput
  | .directive type => ∀ argument ∈ type.arguments, argument.Denotes known
  | .union _ => True
  | .enum _ => True
  | .scalar _ => True
  | .extension _ => True

end

section

variable {known later : (Kind → Bool) → String → Prop}

/-- Nothing is asked of an extension, which is not published. -/
theorem Definition.denotes_of_isExtension {definition : Definition}
    (h : definition.isExtension = true)
    : definition.Denotes known := by
  cases definition with
  | extension body => trivial
  | _ => cases h

/-- A type that is written with a known name is written with one when more names are known. -/
theorem WrappedType.WrittenAs.mono {type : WrappedType} {usable : Kind → Bool}
    {written : Option String} (h : type.WrittenAs known usable written)
    (more : ∀ usable name, known usable name → later usable name)
    : type.WrittenAs later usable written := by
  obtain ⟨name, isKnown, same⟩ := h
  exact ⟨name, more usable name isKnown, same⟩

/-- So are the types of a field and its arguments. -/
theorem Field.Denotes.mono {field : Field} {usable : Kind → Bool}
    (h : field.Denotes known usable)
    (more : ∀ usable name, known usable name → later usable name)
    : field.Denotes later usable where
  type := h.type.mono more
  arguments argument member := (h.arguments argument member).mono more

/-- So are the interfaces that a type implements. -/
theorem Implements.mono {implemented : List String} (h : Implements known implemented)
    (more : ∀ usable name, known usable name → later usable name)
    : Implements later implemented where
  distinct := h.distinct
  interfaces name member := more _ name (h.interfaces name member)

/-- Names that are known earlier and later denote later, too. -/
theorem Definition.Denotes.mono {definition : Definition} (h : definition.Denotes known)
    (more : ∀ usable name, known usable name → later usable name)
    : definition.Denotes later := by
  cases definition with
  | object type | interface type =>
      exact ⟨fun field member => (h.1 field member).mono more, h.2.mono more⟩
  | inputObject type => exact fun field member => (h field member).mono more
  | directive type => exact fun argument member => (h argument member).mono more
  | _ => trivial

end

-----------------------------------------------------------------------------------------
-- Names that a registry offers
-----------------------------------------------------------------------------------------

namespace Registry

variable {registry : Registry} {reference : Reference} {record : TypeRecord} {name : String}

/-- A named type of a usable kind has the name. -/
def Offers (registry : Registry) (usable : Kind → Bool) (name : String) : Prop :=
  ∃ outline ∈ registry.outlines,
    outline.name = some name
    ∧ outline.kind ≠ .directive
    ∧ outline.isExtension = false
    ∧ usable outline.kind = true

/-- Where all types are named, the display name of a type is its name. -/
theorem Named.name_of_resolve (named : registry.Named)
    (resolved : registry.resolve reference = some record)
    : record.name = some record.displayName
      ∧ record.definition.outline ∈ registry.outlines := by
  obtain ⟨slot, -, found⟩ := Option.bind_eq_some_iff.mp resolved
  obtain ⟨_, name, here, isNamed, -⟩ := named.namedAt slot (lt_size_of_get? found)
  cases Option.some.inj (found.symm.trans here)
  refine ⟨by rw [TypeRecord.displayName, isNamed, Option.getD_some], ?_⟩
  exact List.mem_map_of_mem (mem_records_of_get? found)

/-- What a reference leads to is offered by its name, if it is a type and no extension and fits. -/
theorem Named.offers_of_resolve (named : registry.Named)
    (resolved : registry.resolve reference = some record) {usable : Kind → Bool}
    (kind : record.kind ≠ .directive) (base : record.isExtension = false)
    (fits : usable record.kind = true)
    : registry.Offers usable record.displayName :=
  ⟨record.definition.outline, (named.name_of_resolve resolved).2,
    (named.name_of_resolve resolved).1, kind, base, fits⟩

end Registry

namespace Completion

open Registry

variable {registry : Registry} {reference : Reference} {name : String}

/-- Only a directive has no position of its own. -/
theorem ne_directive_of_fits {kind : Kind} {position : Position} (concrete : position ≠ .any)
    (fits : kind.fits position = true)
    : kind ≠ .directive := by
  rintro rfl
  cases position with
  | any => exact concrete rfl
  | input => cases fits
  | output => cases fits

/-- The name that is given out for a use is offered in its position. -/
theorem offers_of_usableName {position : Position} {site : Site} (named : registry.Named)
    (concrete : position ≠ .any)
    (h : usableName registry position site reference = .ok name)
    : registry.Offers (fun kind => kind.fits position) name := by
  unfold usableName at h
  split at h
  · cases h
  · next target resolved =>
      split at h
      · cases h
      · next usable =>
          cases h
          simp only [Bool.or_eq_true, Bool.not_eq_true', not_or, Bool.not_eq_true,
            Bool.not_eq_false] at usable
          have kind := ne_directive_of_fits concrete usable.2
          exact named.offers_of_resolve resolved kind usable.1 usable.2

/-- The name that is given out for an interface is offered as one. -/
theorem offers_of_interfaceName {owner : String} (named : registry.Named)
    (h : interfaceName registry owner reference = .ok name)
    : registry.Offers (fun kind => kind = .interface) name := by
  unfold interfaceName at h
  split at h
  · cases h
  · next target resolved =>
      split at h
      · cases h
      · next usable =>
          cases h
          simp only [ne_eq, decide_not, Bool.or_eq_true, Bool.not_eq_true', decide_eq_false_iff_not,
            not_or, Classical.not_not, Bool.not_eq_true] at usable
          have kind : target.kind ≠ .directive := by simp [usable.1]
          exact named.offers_of_resolve resolved kind usable.2 (by simp [usable.1])

-----------------------------------------------------------------------------------------
-- Completed parts
-----------------------------------------------------------------------------------------

/-- An argument without a problem has a type that is offered as an input. -/
theorem completeArgument_denotes (named : registry.Named) {site : String → Site}
    {argument : Argument} (fine : (completeArgument registry site argument).2 = [])
    : (completeArgument registry site argument).1.Denotes registry.Offers := by
  simp only [completeArgument, Option.toList_eq_nil_iff] at fine
  obtain ⟨name, found⟩ := isOk_of_problemOf fine
  refine ⟨name, offers_of_usableName named (by decide) found, ?_⟩
  simp only [completeArgument, found]
  rfl

/-- So have all arguments without a problem. -/
theorem completeArguments_denotes (named : registry.Named) {site : String → Site}
    {arguments : List Argument} (fine : (completeArguments registry site arguments).2 = [])
    : ∀ argument ∈ (completeArguments registry site arguments).1,
        argument.Denotes registry.Offers := by
  simp only [completeArguments, List.flatMap_eq_nil_iff, List.forall_mem_map] at fine ⊢
  intro argument member
  exact completeArgument_denotes named (fine argument member)

/-- A field without a problem has a type that is offered in its position, and so have its arguments.
-/
theorem completeField_denotes (named : registry.Named) {owner : String} {position : Position}
    (concrete : position ≠ .any) {field : Field}
    (fine : (completeField registry owner position field).2 = [])
    : (completeField registry owner position field).1.Denotes registry.Offers
        (fun kind => kind.fits position) := by
  simp only [completeField, List.append_eq_nil_iff, Option.toList_eq_nil_iff] at fine
  obtain ⟨name, found⟩ := isOk_of_problemOf fine.1
  refine ⟨⟨name, offers_of_usableName named concrete found, ?_⟩,
    completeArguments_denotes named fine.2⟩
  simp only [completeField, found]
  rfl

/-- So have all fields without a problem. -/
theorem completeFields_denotes (named : registry.Named) {owner : String} {position : Position}
    (concrete : position ≠ .any) {fields : List Field}
    (fine : (completeFields registry owner position fields).2 = [])
    : ∀ field ∈ (completeFields registry owner position fields).1,
        field.Denotes registry.Offers (fun kind => kind.fits position) := by
  simp only [completeFields, List.flatMap_eq_nil_iff, List.forall_mem_map] at fine ⊢
  intro field member
  exact completeField_denotes named concrete (fine field member)

/-- Whatever problems there are, the names that are kept are those of interfaces. -/
theorem interfaceNames_implements (named : registry.Named) (owner : String)
    (interfaces : List Reference)
    : Implements registry.Offers (interfaceNames registry owner interfaces).1 where
  distinct := nodup_distinctNames _
  interfaces name member := by
    obtain ⟨reference, -, found⟩ := List.mem_map.mp (mem_distinctNames.mp member)
    exact offers_of_interfaceName named found

/-- An object without a problem denotes what is offered.
Witness: its fields are those of an output, and its interfaces are listed once each.
-/
theorem completeObject_denotes {completion : Completion} (named : completion.registry.Named)
    {type : ObjectType} (fine : (completion.completeObject type).2 = [])
    : (Definition.object (completion.completeObject type).1).Denotes
        completion.registry.Offers := by
  simp only [completeObject, List.append_eq_nil_iff] at fine
  have written := completeFields_denotes named (by decide) fine.1
  refine ⟨?_, interfaceNames_implements named _ type.interfaces⟩
  simp only [completeObject, List.forall_mem_map]
  intro field member
  exact ⟨(written field member).type, (written field member).arguments⟩

/-- So does an interface without a problem. -/
theorem completeInterface_denotes (named : registry.Named) {type : InterfaceType}
    (fine : (completeInterface registry type).2 = [])
    : (Definition.interface (completeInterface registry type).1).Denotes registry.Offers := by
  simp only [completeInterface, List.append_eq_nil_iff] at fine
  exact ⟨completeFields_denotes named (by decide) fine.1,
    interfaceNames_implements named _ type.interfaces⟩

/-- So does a directive without a problem, by its arguments. -/
theorem completeDirective_denotes (named : registry.Named) {type : DirectiveType}
    (fine : (completeDirective registry type).2 = [])
    : (Definition.directive (completeDirective registry type).1).Denotes registry.Offers := by
  simp only [completeDirective, List.append_eq_nil_iff] at fine
  exact completeArguments_denotes named fine.1

/-- What is completed without a problem writes only names that the registry offers. -/
theorem complete_denotes {completion : Completion} (named : completion.registry.Named)
    {definition : Definition} (fine : (completion.complete definition).2 = [])
    : (completion.complete definition).1.Denotes completion.registry.Offers := by
  cases definition with
  | object type => exact completeObject_denotes named fine
  | interface type => exact completeInterface_denotes named fine
  | inputObject type => exact completeFields_denotes named (by decide) fine
  | directive type => exact completeDirective_denotes named fine
  | union type => trivial
  | enum type => trivial
  | scalar type => trivial
  | extension body => trivial

end Completion
end SchemaGraph
