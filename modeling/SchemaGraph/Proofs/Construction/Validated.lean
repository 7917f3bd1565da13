import SchemaGraph.Proofs.Construction.Integrity

/-! What holds of a graph that was validated.
The standard rules ask nothing for a name that denotes no interface. Completion leaves no such name
behind, so that every object of a published graph declares all fields of all its interfaces.
-/

namespace SchemaGraph

-----------------------------------------------------------------------------------------
-- The rules for one type
-----------------------------------------------------------------------------------------

/-- The object has a field of the name of each field of the interface. -/
def ObjectType.Declares (type : ObjectType) (interface : InterfaceType) : Prop :=
  ∀ field ∈ interface.fields, ∃ own ∈ type.fields, own.name = field.name

namespace Definition

section

variable (lookup : String → Option TypeRecord)

/-- Objects and interfaces have a field, and an object declares the fields of each interface that is
found by a name it implements.
-/
def Passes : Definition → Prop
  | .object type =>
      type.fields ≠ []
      ∧ ∀ name ∈ type.implemented,
          ∀ target interface,
            lookup name = some target
            → target.definition = .interface interface
            → type.Declares interface
  | .interface type => type.fields ≠ []
  | _ => True

/-- Objects and interfaces have a field, and an object declares the fields of an interface that is
found by each name it implements.
-/
def Honours : Definition → Prop
  | .object type =>
      type.fields ≠ []
      ∧ ∀ name ∈ type.implemented,
          ∃ target interface,
            lookup name = some target
            ∧ target.definition = .interface interface
            ∧ type.Declares interface
  | .interface type => type.fields ≠ []
  | _ => True

end

variable {lookup : String → Option TypeRecord} {definition : Definition}

theorem Passes.honours (passes : definition.Passes lookup)
    (leads
      : ∀ type,
          definition = .object type
          → ∀ name ∈ type.implemented,
              ∃ target interface,
                lookup name = some target ∧ target.definition = .interface interface)
    : definition.Honours lookup := by
  cases definition with
  | object type =>
      refine ⟨passes.1, fun name implemented => ?_⟩
      obtain ⟨target, interface, found, same⟩ := leads type rfl name implemented
      exact ⟨target, interface, found, same, passes.2 name implemented target interface found same⟩
  | interface type => exact passes
  | _ => trivial

theorem honours_of_unnamed (unnamed : definition.isNamedType = false)
    : definition.Honours lookup := by
  cases definition with
  | object type | interface type => cases unnamed
  | _ => trivial

theorem Honours.mono {further : String → Option TypeRecord} (honours : definition.Honours lookup)
    (more : ∀ name target, lookup name = some target → further name = some target)
    : definition.Honours further := by
  cases definition with
  | object type =>
      refine ⟨honours.1, fun name implemented => ?_⟩
      obtain ⟨target, interface, found, declares⟩ := honours.2 name implemented
      exact ⟨target, interface, more name target found, declares⟩
  | interface type => exact honours
  | _ => trivial

theorem asInterface?_eq_some_iff {interface : InterfaceType}
    : definition.asInterface? = some interface ↔ definition = .interface interface := by
  cases definition <;> simp [asInterface?]

theorem exists_interface_of_kind (kind : definition.kind = .interface)
    (base : definition.isExtension = false)
    : ∃ interface, definition = .interface interface := by
  cases definition with
  | interface type => exact ⟨type, rfl⟩
  | extension body => cases base
  | _ => cases kind

end Definition

namespace Validator

open Registry

variable {registry : Registry} {record : TypeRecord} {type : ObjectType}

theorem fieldProblems_eq_nil_iff {kind : Kind} {owner : String} {fields : List Field}
    : fieldProblems kind owner fields = [] ↔ fields ≠ [] := by
  cases fields <;> simp [fieldProblems]

/-- An object misses no field of what it implements if and only if it declares all fields of the
interface that the name leads to, if it leads to one.
-/
theorem missingFields_eq_nil_iff {owner name : String}
    : missingFields registry owner type.fields name = []
      ↔ ∀ target interface,
          registry.getByName name = some target
          → target.definition = .interface interface
          → type.Declares interface := by
  unfold missingFields
  split
  · next skipped =>
      refine ⟨fun _ target interface found same => ?_, fun _ => rfl⟩
      simp [found, same, Definition.asInterface?] at skipped
  · next declared isFound =>
      obtain ⟨target, found, same⟩ := Option.bind_eq_some_iff.mp isFound
      have isInterface := Definition.asInterface?_eq_some_iff.mp same
      constructor
      · intro none other interface foundOther sameOther field member
        cases Option.some.inj (found.symm.trans foundOther)
        cases Definition.interface.inj (isInterface.symm.trans sameOther)
        simpa using List.filter_eq_nil_iff.mp (List.map_eq_nil_iff.mp none) field member
      · intro declares
        refine List.map_eq_nil_iff.mpr (List.filter_eq_nil_iff.mpr ?_)
        intro field member
        simpa using declares target declared found isInterface field member

theorem recordProblems_eq_nil_iff
    : recordProblems registry record = [] ↔ record.definition.Passes registry.getByName := by
  unfold recordProblems
  cases record.definition with
  | object type =>
      simp only [List.append_eq_nil_iff, fieldProblems_eq_nil_iff, List.flatMap_eq_nil_iff,
        missingFields_eq_nil_iff, Definition.Passes]
  | interface type => exact fieldProblems_eq_nil_iff
  | _ => simp [Definition.Passes]

/-- The standard rules report nothing where every named type passes them, and only there. -/
theorem standard_eq_nil_iff
    : standard registry = []
      ↔ ∀ record ∈ registry.records,
          record.isNamedType = true → record.definition.Passes registry.getByName := by
  rw [standard, List.map_eq_nil_iff, List.flatMap_eq_nil_iff]
  simp only [List.mem_filter, recordProblems_eq_nil_iff, and_imp]

end Validator

-----------------------------------------------------------------------------------------
-- Names of interfaces
-----------------------------------------------------------------------------------------

namespace Registry

variable {registry : Registry} {name : String}

theorem Named.exists_interface_of_offers (named : registry.Named)
    (offers : registry.Offers (fun kind => kind = .interface) name)
    : ∃ target interface,
        registry.getByName name = some target ∧ target.definition = .interface interface := by
  obtain ⟨outline, listed, isNamed, other, base, fits⟩ := offers
  obtain ⟨target, member, rfl⟩ := List.mem_map.mp listed
  have kind : target.kind = .interface := of_decide_eq_true fits
  obtain ⟨interface, same⟩ := Definition.exists_interface_of_kind kind base
  exact ⟨target, interface,
    named.getByName member (TypeRecord.isNamedType_of_kind other base) isNamed, same⟩

end Registry

-----------------------------------------------------------------------------------------
-- Published graphs
-----------------------------------------------------------------------------------------

namespace Plan

variable {plan : Plan} {handle : Handle} {graph : TypeGraph}

/-- What was validated by the standard rules and published passes them. -/
theorem run_passes (validates : plan.options.validate = true)
    (rules : plan.validator = Validator.standard)
    (published : (plan.run handle).result = .ok graph)
    : ∀ record ∈ graph.registry.records,
        record.isNamedType = true → record.definition.Passes graph.registry.getByName := by
  obtain ⟨clean, same⟩ := run_ok published
  obtain ⟨whole, -⟩ := progress_eq_of_problems clean
  have errors := Workspace.errors_of_problems clean
  rw [whole] at same errors
  rw [validateTypes, if_pos validates, rules] at errors
  have silent := (List.append_eq_nil_iff.mp errors).2
  rw [same, registry_validateTypes]
  exact Validator.standard_eq_nil_iff.mp silent

/-- In a graph that was validated by the standard rules, every object and every interface has a
field, and each name that an object implements leads to an interface all of whose fields the object
declares. It does so in the registry, too: the rules never came upon a name that asks for nothing.
Witness: the names lead to interfaces since the completing has resolved them, so the validation
checks each one.
-/
theorem run_honours (distinct : plan.catalog.Distinct) (validates : plan.options.validate = true)
    (rules : plan.validator = Validator.standard)
    (published : (plan.run handle).result = .ok graph)
    : ∀ record ∈ graph.registry.records,
        record.definition.Honours graph.getType
        ∧ record.definition.Honours graph.registry.getByName := by
  intro record member
  obtain ⟨named, written⟩ := run_holds brings_denotes distinct published
  have leads (type : ObjectType) (shape : record.definition = .object type) (name : String)
      (implemented : name ∈ type.implemented)
      : ∃ target interface,
          graph.registry.getByName name = some target
          ∧ target.definition = .interface interface := by
    have denotes := written record member
    rw [shape] at denotes
    exact named.exists_interface_of_offers (denotes.2.interfaces name implemented)
  have honours : record.definition.Honours graph.registry.getByName := by
    cases which : record.isNamedType with
    | true => exact (run_passes validates rules published record member which).honours leads
    | false => exact Definition.honours_of_unnamed which
  exact ⟨honours.mono fun _ _ => TypeGraph.getType_of_getByName, honours⟩

theorem shelf_honours
    : let graph := Shelf.plan.progress.graph
      Shelf.plan.catalog.Distinct
      ∧ Shelf.plan.options.validate = true
      ∧ Shelf.plan.validator = Validator.standard
      ∧ (Shelf.plan.run .unbound).result = .ok graph
      ∧ graph.queryType.map ObjectType.implemented = some ["Item"]
      ∧ ∀ record ∈ graph.registry.records, record.definition.Honours graph.getType := by
  intro graph
  have published := Shelf.plan.run_of_problems Shelf.problems_plan
  refine ⟨Shelf.catalog_distinct, rfl, rfl, published, by cbv, ?_⟩
  intro record member
  exact (run_honours Shelf.catalog_distinct rfl rfl published record member).1

end Plan
end SchemaGraph
