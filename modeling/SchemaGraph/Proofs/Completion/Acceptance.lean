import Mathlib.Data.List.Forall2
import SchemaGraph.Proofs.Completion.Complete

/-! Which definitions are completed without a problem.
A definition mentions types in places that each want types of certain kinds. There is one problem
for each place where the wish is not met, and one where a part is missing altogether; and what is
written in one place depends on that place alone.
-/

namespace SchemaGraph

/-- A place where a definition mentions a type: the type of a field or argument, an interface, or a
member of a union.
-/
inductive Use where
  | typed (position : Position) (reference : Reference) (site : Site)
  | interface (reference : Reference) (owner : String)
  | member (reference : Reference) (owner : String)

/-- The reference denotes a type of one of the kinds, and no extension. -/
def Registry.Accepts (registry : Registry) (usable : Kind → Bool) (reference : Reference)
    : Prop :=
  ∃ target,
    registry.resolve reference = some target
    ∧ target.isExtension = false
    ∧ usable target.kind = true

instance (registry : Registry) (usable : Kind → Bool) (reference : Reference)
    : Decidable (registry.Accepts usable reference) :=
  inferInstanceAs
    (Decidable
      (∃ target ∈ registry.resolve reference,
        target.isExtension = false ∧ usable target.kind = true))

namespace Use

/-- An extension of an object passes for an object where a member is wanted. -/
def IsMet (registry : Registry) : Use → Prop
  | typed position reference _ => registry.Accepts (fun kind => kind.fits position) reference
  | interface reference _ => registry.Accepts (fun kind => kind = .interface) reference
  | member reference _ =>
      ∃ target, registry.resolve reference = some target ∧ target.kind = .object

/-- What is wrong with a use that is not met. -/
def problem (registry : Registry) : Use → Problem
  | typed position reference site =>
      match registry.resolve reference with
      | none => .unresolvedType reference site
      | some target =>
          .wrongPosition target.kind target.displayName position reference site
  | interface reference owner =>
      match registry.resolve reference with
      | none => .unresolvedPart reference owner
      | some target => .notAnInterface target.displayName reference owner
  | member reference owner =>
      match registry.resolve reference with
      | none => .unresolvedPart reference owner
      | some target => .notAnObject target.displayName reference owner

instance (registry : Registry) (use : Use) : Decidable (use.IsMet registry) :=
  match use with
  | typed position reference _ =>
      inferInstanceAs (Decidable (registry.Accepts (fun kind => kind.fits position) reference))
  | interface reference _ =>
      inferInstanceAs (Decidable (registry.Accepts (fun kind => kind = .interface) reference))
  | member reference _ =>
      inferInstanceAs (Decidable (∃ target ∈ registry.resolve reference, target.kind = .object))

def violation (registry : Registry) (use : Use) : Option Problem :=
  if use.IsMet registry then none else some (use.problem registry)

end Use

/-- The types of the arguments, each at its site. -/
def argumentUses (site : String → Site) (arguments : List Argument) : List Use :=
  arguments.map fun argument => .typed .input argument.type.reference (site argument.name)

/-- The type of the field, in the position, and those of its arguments. -/
def Field.uses (owner : String) (position : Position) (field : Field) : List Use :=
  .typed position field.type.reference (.field ⟨owner, field.name⟩)
    :: argumentUses (.fieldArgument ⟨owner, field.name⟩) field.arguments

/-- The type of the field is of one of the kinds, and those of its arguments are of input kinds. -/
structure Field.WellTyped (registry : Registry) (usable : Kind → Bool) (field : Field) : Prop where
  type : registry.Accepts usable field.type.reference
  arguments : ∀ argument ∈ field.arguments, registry.Accepts Kind.isInput argument.type.reference

namespace Definition

open Completion

/-- Every place where the definition mentions a type, in the order of completion. -/
def uses : Definition → List Use
  | object type =>
      let owner := ownerName type.header
      type.fields.flatMap (Field.uses owner .output)
        ++ type.interfaces.map fun reference => .interface reference owner
  | interface type =>
      let owner := ownerName type.header
      type.fields.flatMap (Field.uses owner .output)
        ++ type.interfaces.map fun reference => .interface reference owner
  | union type => type.members.map fun reference => .member reference (ownerName type.header)
  | inputObject type => type.fields.flatMap (Field.uses (ownerName type.header) .input)
  | directive type =>
      argumentUses (.directiveArgument ("@" ++ ownerName type.header)) type.arguments
  | enum _ => []
  | scalar _ => []
  | extension _ => []

/-- The members, values or locations, where there are none. -/
def lacks : Definition → List Problem
  | union type => if type.members = [] then [.noMembers (ownerName type.header)] else []
  | enum type => if type.values = [] then [.noValues (ownerName type.header)] else []
  | directive type =>
      if type.locations.isEmpty then [.noLocations ("@" ++ ownerName type.header)] else []
  | _ => []

/-- One problem for each use that is not met, and one for a part that is missing. -/
def violations (registry : Registry) (definition : Definition) : List Problem :=
  definition.uses.filterMap (Use.violation registry) ++ definition.lacks

/-- Fields have types of output kinds, or of input kinds in an input object; arguments have types of
input kinds; interfaces are interfaces and members are objects; and members, values and locations
are not missing.
-/
def WellFormed (registry : Registry) : Definition → Prop
  | object type =>
      (∀ field ∈ type.fields, field.WellTyped registry Kind.isOutput)
      ∧ ∀ reference ∈ type.interfaces,
          registry.Accepts (fun kind => kind = .interface) reference
  | interface type =>
      (∀ field ∈ type.fields, field.WellTyped registry Kind.isOutput)
      ∧ ∀ reference ∈ type.interfaces,
          registry.Accepts (fun kind => kind = .interface) reference
  | union type =>
      (∀ reference ∈ type.members,
        ∃ target, registry.resolve reference = some target ∧ target.kind = .object)
      ∧ type.members ≠ []
  | inputObject type => ∀ field ∈ type.fields, field.WellTyped registry Kind.isInput
  | enum type => type.values ≠ []
  | directive type =>
      (∀ argument ∈ type.arguments, registry.Accepts Kind.isInput argument.type.reference)
      ∧ type.locations.isEmpty = false
  | scalar _ => True
  | extension _ => True

end Definition

/-- The type is written just if its reference is accepted, and then with its wrappers around the
name of the type that the reference denotes.
-/
def WrappedType.IsWritten (registry : Registry) (usable : Kind → Bool) (type : WrappedType)
    (written : Option String)
    : Prop :=
  ∀ text,
    written = some text
    ↔ ∃ target,
        registry.resolve type.reference = some target
        ∧ target.isExtension = false
        ∧ usable target.kind = true
        ∧ text = type.render target.displayName

/-- The argument with its type written, where that is accepted. -/
structure Argument.CompletedTo (registry : Registry) (argument completed : Argument) : Prop where
  name : completed.name = argument.name
  type : completed.type = argument.type
  written : argument.type.IsWritten registry Kind.isInput completed.resolvedType

/-- The field and its arguments with their types written, each where it is accepted. -/
structure Field.CompletedTo (registry : Registry) (usable : Kind → Bool) (field completed : Field)
    : Prop where
  name : completed.name = field.name
  type : completed.type = field.type
  written : field.type.IsWritten registry usable completed.resolvedType
  arguments : List.Forall₂ (Argument.CompletedTo registry) field.arguments completed.arguments

/-- The definition with the types of fields and arguments written, each where it is accepted. -/
def Definition.CompletedTo (registry : Registry) : Definition → Definition → Prop
  | object type, object completed =>
      List.Forall₂ (Field.CompletedTo registry Kind.isOutput) type.fields completed.fields
  | interface type, interface completed =>
      List.Forall₂ (Field.CompletedTo registry Kind.isOutput) type.fields completed.fields
  | inputObject type, inputObject completed =>
      List.Forall₂ (Field.CompletedTo registry Kind.isInput) type.fields completed.fields
  | directive type, directive completed =>
      List.Forall₂ (Argument.CompletedTo registry) type.arguments completed.arguments
  | union _, union _ => True
  | enum type, enum completed => completed = type
  | scalar type, scalar completed => completed = type
  | extension body, extension completed => completed = body
  | _, _ => False

namespace Completion

variable {registry : Registry}

-----------------------------------------------------------------------------------------
-- One use
-----------------------------------------------------------------------------------------

/-- A use is no violation if and only if its demand is met. -/
theorem violation_eq_none_iff {use : Use} : use.violation registry = none ↔ use.IsMet registry := by
  unfold Use.violation
  split <;> simp_all

/-- A result of a use is a problem just where the use is not met. -/
theorem problemOf_eq_violation {use : Use} {result : Except Problem String}
    (outcome
      : (use.IsMet registry ∧ ∃ name, result = .ok name)
        ∨ (¬use.IsMet registry ∧ result = .error (use.problem registry)))
    : problemOf result = use.violation registry := by
  rcases outcome with ⟨met, name, rfl⟩ | ⟨unmet, rfl⟩
  · exact (if_pos met).symm
  · exact (if_neg unmet).symm

/-- A name is given out just where the use is met, and the name is that of the type it leads to.
Witness: the cases are those of the resolution and then of the kind.
-/
theorem usableName_cases (position : Position) (site : Site) (reference : Reference)
    : let use := Use.typed position reference site
      (∃ target,
        registry.resolve reference = some target
        ∧ target.isExtension = false
        ∧ target.kind.fits position = true
        ∧ usableName registry position site reference = .ok target.displayName)
      ∨ (¬use.IsMet registry
        ∧ usableName registry position site reference = .error (use.problem registry)) := by
  cases resolved : registry.resolve reference with
  | none =>
      right
      simp [Use.IsMet, Registry.Accepts, Use.problem, usableName, resolved]
  | some target =>
      cases isExtension : target.isExtension <;> cases fits : target.kind.fits position <;>
        simp [Use.IsMet, Registry.Accepts, Use.problem, usableName, resolved, isExtension, fits]

/-- The problem with a typed use is its violation, if it has one. -/
theorem problemOf_usableName (position : Position) (site : Site) (reference : Reference)
    : problemOf (usableName registry position site reference)
      = (Use.typed position reference site).violation registry := by
  apply problemOf_eq_violation
  rcases usableName_cases position site reference with
    ⟨target, resolved, direct, fits, found⟩ | unmet
  · exact Or.inl ⟨⟨target, resolved, direct, fits⟩, _, found⟩
  · exact Or.inr unmet

/-- The problem with a use as an interface is its violation, if it has one. -/
theorem problemOf_interfaceName (owner : String) (reference : Reference)
    : problemOf (interfaceName registry owner reference)
      = (Use.interface reference owner).violation registry := by
  apply problemOf_eq_violation
  cases resolved : registry.resolve reference with
  | none => simp [Use.IsMet, Registry.Accepts, Use.problem, interfaceName, resolved]
  | some target =>
      by_cases kind : target.kind = .interface <;> cases isExtension : target.isExtension <;>
        simp [Use.IsMet, Registry.Accepts, Use.problem, interfaceName, resolved, kind,
          isExtension]

/-- The problem with a use as a member is its violation, if it has one. -/
theorem problemOf_memberName (owner : String) (reference : Reference)
    : problemOf (memberName registry owner reference)
      = (Use.member reference owner).violation registry := by
  apply problemOf_eq_violation
  cases resolved : registry.resolve reference with
  | none => simp [Use.IsMet, Use.problem, memberName, resolved]
  | some target =>
      by_cases kind : target.kind = .object <;>
        simp [Use.IsMet, Use.problem, memberName, resolved, kind]

/-- A type is written if and only if it may be used, and then with its name. -/
theorem isWritten_writtenType (type : WrappedType) (position : Position) (site : Site)
    : type.IsWritten registry (fun kind => kind.fits position)
        (writtenType type (usableName registry position site type.reference)) := by
  intro text
  rcases usableName_cases position site type.reference with
    ⟨target, resolved, direct, fits, found⟩ | ⟨unmet, failed⟩
  · rw [found]
    constructor
    · intro same
      exact ⟨target, resolved, direct, fits, (Option.some.inj same).symm⟩
    · rintro ⟨other, there, -, -, rfl⟩
      cases Option.some.inj (resolved.symm.trans there)
      rfl
  · rw [failed]
    constructor
    · intro same
      cases same
    · rintro ⟨target, resolved, direct, fits, -⟩
      exact absurd ⟨target, resolved, direct, fits⟩ unmet

-----------------------------------------------------------------------------------------
-- Problems
-----------------------------------------------------------------------------------------

/-- Arguments have one problem for each violation, in their order. -/
theorem problems_completeArguments (site : String → Site) (arguments : List Argument)
    : (completeArguments registry site arguments).2
      = (argumentUses site arguments).filterMap (Use.violation registry) := by
  simp only [completeArguments, argumentUses, List.flatMap_map,
    List.filterMap_eq_flatMap_toList]
  congr 1
  funext argument
  exact congrArg Option.toList (problemOf_usableName _ _ _)

/-- So has a field: its own one first, and then those of its arguments. -/
theorem problems_completeField (owner : String) (position : Position) (field : Field)
    : (completeField registry owner position field).2
      = (field.uses owner position).filterMap (Use.violation registry) := by
  simp only [completeField, Field.uses, List.filterMap_cons, problems_completeArguments,
    problemOf_usableName]
  split <;> simp_all

/-- So have fields, one after the other. -/
theorem problems_completeFields (owner : String) (position : Position) (fields : List Field)
    : (completeFields registry owner position fields).2
      = (fields.flatMap (Field.uses owner position)).filterMap (Use.violation registry) := by
  simp only [completeFields, List.flatMap_map, List.filterMap_flatMap]
  congr 1
  funext field
  exact problems_completeField owner position field

/-- So have the interfaces of a type. -/
theorem problems_interfaceNames (owner : String) (interfaces : List Reference)
    : (interfaceNames registry owner interfaces).2
      = (interfaces.map fun reference => Use.interface reference owner).filterMap
          (Use.violation registry) := by
  simp only [interfaceNames, List.filterMap_map]
  congr 1
  funext reference
  exact problemOf_interfaceName owner reference

/-- There is one problem for each violation, in the order of the definition.
Witness: the cases are the kinds of definitions, and each kind lists its problems in the order in
which its uses are listed.
-/
theorem problems_complete (completion : Completion) (definition : Definition)
    : (completion.complete definition).2 = definition.violations completion.registry := by
  cases definition with
  | object type =>
      simp [complete, completeObject, Definition.violations, Definition.uses, Definition.lacks,
        problems_completeFields, problems_interfaceNames]
  | interface type =>
      simp [complete, completeInterface, Definition.violations, Definition.uses,
        Definition.lacks, problems_completeFields, problems_interfaceNames]
  | union type =>
      simp only [complete, completeUnion, Definition.violations, Definition.uses,
        Definition.lacks]
      split
      · next empty => simp [empty]
      · simp only [List.filterMap_map, List.append_nil]
        congr 1
        funext reference
        exact problemOf_memberName _ reference
  | inputObject type =>
      simp [complete, completeInputObject, Definition.violations, Definition.uses,
        Definition.lacks, problems_completeFields]
  | enum type => rfl
  | scalar type => rfl
  | directive type =>
      simp [complete, completeDirective, Definition.violations, Definition.uses,
        Definition.lacks, problems_completeArguments]
  | extension body => rfl

/-- The uses in arguments are met if and only if all arguments have input types. -/
theorem forall_argumentUses {site : String → Site} {arguments : List Argument}
    : (∀ use ∈ argumentUses site arguments, use.IsMet registry)
      ↔ ∀ argument ∈ arguments, registry.Accepts Kind.isInput argument.type.reference :=
  List.forall_mem_map

/-- The uses in fields are met if and only if all fields are well typed. -/
theorem forall_fieldUses {owner : String} {position : Position} {fields : List Field}
    : (∀ use ∈ fields.flatMap (Field.uses owner position), use.IsMet registry)
      ↔ ∀ field ∈ fields, field.WellTyped registry fun kind => kind.fits position := by
  simp only [List.forall_mem_flatMap, Field.uses, List.forall_mem_cons, forall_argumentUses]
  exact forall₂_congr fun field member =>
    ⟨fun both => ⟨both.1, both.2⟩, fun typed => ⟨typed.type, typed.arguments⟩⟩

/-- A definition without violations is well-formed, and the other way round.
Witness: the cases are the kinds of definitions, and a use is no violation if its demand is met.
-/
theorem violations_eq_nil_iff {definition : Definition}
    : definition.violations registry = [] ↔ definition.WellFormed registry := by
  simp only [Definition.violations, List.append_eq_nil_iff, List.filterMap_eq_nil_iff,
    violation_eq_none_iff]
  cases definition with
  | object type | interface type =>
      simp only [Definition.uses, List.forall_mem_append, forall_fieldUses, List.forall_mem_map]
      exact and_iff_left rfl
  | union type =>
      simp only [Definition.uses, Definition.lacks, List.forall_mem_map]
      exact and_congr_right' (by simp)
  | inputObject type =>
      simp only [Definition.uses, forall_fieldUses]
      exact and_iff_left rfl
  | directive type =>
      simp only [Definition.uses, Definition.lacks, forall_argumentUses]
      exact and_congr_right' (by simp)
  | enum type => simp [Definition.uses, Definition.lacks, Definition.WellFormed]
  | scalar type => simp [Definition.uses, Definition.lacks, Definition.WellFormed]
  | extension body => simp [Definition.uses, Definition.lacks, Definition.WellFormed]

-----------------------------------------------------------------------------------------
-- Written types
-----------------------------------------------------------------------------------------

/-- Completed arguments stand for the given ones, one for each. -/
theorem completedTo_completeArguments (site : String → Site) (arguments : List Argument)
    : List.Forall₂ (Argument.CompletedTo registry) arguments
        (completeArguments registry site arguments).1 := by
  simp only [completeArguments, List.map_map, List.forall₂_map_right_iff, List.forall₂_same]
  intro argument member
  exact ⟨rfl, rfl, isWritten_writtenType _ _ _⟩

/-- A completed field has the name and the binding of the given one, and its type as it is written.
-/
theorem completedTo_completeField (owner : String) (position : Position) (field : Field)
    : field.CompletedTo registry (fun kind => kind.fits position)
        (completeField registry owner position field).1 :=
  ⟨rfl, rfl, isWritten_writtenType _ _ _, completedTo_completeArguments _ _⟩

/-- Completed fields stand for the given ones, one for each. -/
theorem completedTo_completeFields (owner : String) (position : Position) (fields : List Field)
    : List.Forall₂ (Field.CompletedTo registry fun kind => kind.fits position) fields
        (completeFields registry owner position fields).1 := by
  simp only [completeFields, List.map_map, List.forall₂_map_right_iff, List.forall₂_same]
  intro field member
  exact completedTo_completeField owner position field

/-- Each type is written or not by its own reference, whatever problems there are elsewhere. -/
theorem completedTo_complete (completion : Completion) (definition : Definition)
    : definition.CompletedTo completion.registry (completion.complete definition).1 := by
  cases definition with
  | object type =>
      simp only [complete, completeObject, Definition.CompletedTo, List.forall₂_map_right_iff]
      refine (completedTo_completeFields (ownerName type.header) .output type.fields).imp ?_
      intro field completed written
      exact ⟨written.name, written.type, written.written, written.arguments⟩
  | interface type => exact completedTo_completeFields (ownerName type.header) .output type.fields
  | union type =>
      simp only [complete, completeUnion]
      split <;> trivial
  | inputObject type => exact completedTo_completeFields (ownerName type.header) .input type.fields
  | enum type => rfl
  | scalar type => rfl
  | directive type => exact completedTo_completeArguments _ _
  | extension body => rfl

/-- Completion accepts the well-formed definitions and no others. It gives one problem for each
violation, and writes each type that is accepted in its place.
-/
theorem complete_accepts (completion : Completion) (definition : Definition)
    : let completed := completion.complete definition
      (completed.2.isEmpty = true ↔ definition.WellFormed completion.registry)
      ∧ completed.2 = definition.violations completion.registry
      ∧ definition.CompletedTo completion.registry completed.1 := by
  intro completed
  refine ⟨?_, problems_complete completion definition, completedTo_complete completion definition⟩
  rw [List.isEmpty_iff, problems_complete, violations_eq_nil_iff]

/-- A field of an input kind is reported and left unwritten, and so is an argument that leads
nowhere; the fields around them are written.
-/
example
    : let scalar : Definition := .scalar ⟨⟨⟨"Text"⟩, some "Text", none, .generic "Text" []⟩⟩
      let input : Definition :=
        .inputObject ⟨⟨⟨"Filter"⟩, some "Filter", none, .generic "Filter" []⟩, []⟩
      let text := TypeRecord.new scalar [] [] .nothing
      let filter := TypeRecord.new input [] [] .nothing
      let registry := ((Registry.empty.register text).1.register filter).1
      let page : Argument := ⟨"page", .bare (.schema ⟨"Page"⟩), none⟩
      let fields : List Field :=
        [
          ⟨"title", none, ⟨.schema ⟨"Text"⟩, [.nonNull]⟩, [page], none, none, none⟩,
          ⟨"shelf", none, .bare (.schema ⟨"Filter"⟩), [], none, none, none⟩
        ]
      let result := completeFields registry "Book" .output fields
      result.1.map Field.resolvedType = [some "Text!", none]
      ∧ result.2
        = [
          .unresolvedType (.schema ⟨"Page"⟩) (.fieldArgument ⟨"Book", "title"⟩ "page"),
          .wrongPosition .inputObject "Filter" .output (.schema ⟨"Filter"⟩)
            (.field ⟨"Book", "shelf"⟩)
        ] :=
  ⟨rfl, rfl⟩

end Completion
end SchemaGraph
