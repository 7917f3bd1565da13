import SchemaGraph.Completion.Bindings
import SchemaGraph.Proofs.Data.Insertion
import SchemaGraph.Proofs.Registry.Names

/-! What the targets of providers denote.
A provider binds its members to the fields of object types. An extension has the kind of what it
extends, and so a target that leads to the extension of an object binds fields of that object for
the extension's host type. Names never lead there.
-/

namespace SchemaGraph

theorem Definition.exists_object {definition : Definition} (kind : definition.kind = .object)
    (base : definition.isExtension = false)
    : ∃ type, definition = .object type := by
  cases definition with
  | object type => exact ⟨type, rfl⟩
  | extension body => cases base
  | _ => cases kind

namespace Provider

open Registry

variable {registry : Registry} {inspector : Inspector} {naming : Naming} {provider : Provider}
  {target : Target} {record : TypeRecord}

/-- The target leads to the type. -/
def Denotes (registry : Registry) (target : Target) (record : TypeRecord) : Prop :=
  ∃ slot, locateTarget registry target = some slot ∧ registry.get? slot = some record

/-- The target leads to an object type of the name, or to an extension of one. -/
structure IsObjectTarget (registry : Registry) (target : Target) (name : String)
    (record : TypeRecord)
    : Prop where
  denoted : Denotes registry target record
  kind : record.kind = .object
  named : record.name = some name

/-- The binding of a relevant member of the provider to the type that its target leads to. -/
def Provides (registry : Registry) (inspector : Inspector) (naming : Naming)
    (provider : Provider) (target : Target) (entry : FieldKey × Binding)
    : Prop :=
  ∃ record,
    IsObjectTarget registry target entry.1.typeName record
    ∧ ∃ member ∈ inspector.members provider.runtime,
        isRelevant inspector record.runtime member = true
        ∧ entry.1.fieldName = naming.memberName member.name
        ∧ entry.2 = ⟨some provider.runtime, record.runtime, .member ⟨entry.1, member⟩⟩

-----------------------------------------------------------------------------------------
-- One target
-----------------------------------------------------------------------------------------

theorem objectTarget?_eq_some_iff {object : String × RuntimeType}
    : objectTarget? registry target = some object
      ↔ ∃ record,
          IsObjectTarget registry target object.1 record ∧ record.runtime = object.2 := by
  obtain ⟨name, type⟩ := object
  simp only [objectTarget?, Option.bind_eq_some_iff]
  constructor
  · rintro ⟨record, ⟨slot, leads, found⟩, isObject⟩
    split at isObject
    · next kind =>
        obtain ⟨own, named, same⟩ := Option.map_eq_some_iff.mp isObject
        cases same
        exact ⟨record, ⟨⟨slot, leads, found⟩, kind, named⟩, rfl⟩
    · cases isObject
  · rintro ⟨record, ⟨⟨slot, leads, found⟩, kind, named⟩, rfl⟩
    exact ⟨record, ⟨slot, leads, found⟩, by rw [if_pos kind, named, Option.map_some]⟩

/-- A target gives the bindings of the relevant members of its provider to the object type that it
leads to.
-/
theorem mem_targetBindings_iff {entry : FieldKey × Binding}
    : entry ∈ provider.targetBindings registry inspector naming target
      ↔ Provides registry inspector naming provider target entry := by
  unfold targetBindings Provides
  constructor
  · intro listed
    split at listed
    · cases listed
    · next name type isObject =>
        obtain ⟨record, object, rfl⟩ := objectTarget?_eq_some_iff.mp isObject
        obtain ⟨member, relevant, rfl⟩ := List.mem_map.mp listed
        obtain ⟨declared, relevant⟩ := List.mem_filter.mp relevant
        exact ⟨record, object, member, declared, relevant, rfl, rfl⟩
  · obtain ⟨⟨typeName, fieldName⟩, binding⟩ := entry
    rintro ⟨record, object, member, declared, relevant, named, bound⟩
    dsimp only at object named bound
    subst named bound
    have isObject : objectTarget? registry target = some (typeName, record.runtime) :=
      objectTarget?_eq_some_iff.mpr ⟨record, object, rfl⟩
    rw [isObject]
    exact List.mem_map.mpr ⟨member, List.mem_filter.mpr ⟨declared, relevant⟩, rfl⟩

/-- A target that leads to nothing, or to a type of another kind, or to one without a name, is
skipped.
-/
theorem targetBindings_eq_nil
    (other : ∀ name record, ¬ IsObjectTarget registry target name record)
    : provider.targetBindings registry inspector naming target = [] := by
  rw [List.eq_nil_iff_forall_not_mem]
  intro entry listed
  obtain ⟨record, object, -⟩ := mem_targetBindings_iff.mp listed
  exact other _ record object

/-- Where names lead to their types, no target by name leads to an extension. -/
theorem isExtension_of_denotes_byName (hold : registry.NamesHold) {name : String}
    (denoted : Denotes registry (.byName name) record)
    : record.isExtension = false := by
  obtain ⟨slot, leads, found⟩ := denoted
  have keyed := hold.nameKey_of_findByName leads
  rw [found, Option.bind_some] at keyed
  exact isExtension_of_nameKey keyed

-----------------------------------------------------------------------------------------
-- All targets
-----------------------------------------------------------------------------------------

theorem mem_allBindings_iff {providers : List Provider} {entry : FieldKey × Binding}
    : entry ∈ allBindings providers registry inspector naming
      ↔ ∃ provider ∈ providers,
          ∃ target ∈ provider.targets,
            Provides registry inspector naming provider target entry := by
  simp only [allBindings, List.mem_flatMap, mem_targetBindings_iff]

/-- What providers add are the bindings of their relevant members to the object types that their
targets lead to, and all of them are counted; other targets are skipped. Such a type is an object
type itself or an extension of one. As long as names lead to their types, a target by name never
leads to an extension.
Witness: an object type that a target leads to is told by its kind, which an extension of one
shares.
-/
theorem bindAll_targets (providers : List Provider) (registry : Registry)
    (inspector : Inspector) (naming : Naming) (bindings : Bindings)
    : let additions := allBindings providers registry inspector naming
      let result := bindAll providers registry inspector naming bindings
      result = (Entries.insertAll bindings additions, additions.length)
      ∧ (∀ entry ∈ result.1, entry ∈ bindings ∨ entry ∈ additions)
      ∧ (∀ entry,
          entry ∈ additions
          ↔ ∃ provider ∈ providers,
              ∃ target ∈ provider.targets,
                Provides registry inspector naming provider target entry)
      ∧ (∀ (provider : Provider) (target : Target),
          (∀ name record, ¬IsObjectTarget registry target name record)
          → provider.targetBindings registry inspector naming target = [])
      ∧ (∀ target name record,
          IsObjectTarget registry target name record
          → record.isExtension = false
          → ∃ type, record.definition = .object type)
      ∧ (registry.NamesHold
        → ∀ name record, Denotes registry (.byName name) record → record.isExtension = false) := by
  intro additions result
  refine ⟨rfl, fun entry => Entries.mem_insertAll, fun entry => mem_allBindings_iff,
    fun provider target => targetBindings_eq_nil, ?_,
    fun hold name record => isExtension_of_denotes_byName hold⟩
  intro target name record object base
  exact record.definition.exists_object object.kind base

end Provider

-----------------------------------------------------------------------------------------
-- A target that leads to an extension
-----------------------------------------------------------------------------------------

namespace Greeters

def user : Definition :=
  .object ⟨⟨⟨"User"⟩, some "User", none, .named "User"⟩, [], [], [], none, false⟩

/-- An extension of `User` with a host type of its own. -/
def more : Definition :=
  .extension
    (.object ⟨⟨⟨"MoreUser"⟩, some "User", none, .named "UserExtension"⟩, [], [], [], none, false⟩)

/-- The type and its extension, once the name is registered. -/
def registry : Registry :=
  Registry.empty.applyAll
    [.register (TypeRecord.new user [] [] .nothing), .register (TypeRecord.new more [] [] .nothing),
      .registerName 0]

def greet : Member :=
  ⟨"greet", .named "UserService", .method [], some fun _ _ => .ok .null⟩

def inspector : Inspector :=
  (RuntimeTable.empty.addMember (.named "UserService") greet).inspector

/-- The service, with the type as its target. -/
def service (target : Target) : Provider :=
  ⟨.named "UserService", [target]⟩

end Greeters

namespace Provider

open Greeters Registry

theorem greeters_targets
    : registry.NamesHold
      ∧ (∀ record, Denotes registry (.byName "User") record → record.isExtension = false)
      ∧ (bindAll [service (.byName "User")] registry inspector Naming.standard []).2 = 1 := by
  have hold : registry.NamesHold := by decide
  obtain ⟨counted, -, -, -, -, byName⟩ :=
    bindAll_targets [service (.byName "User")] registry inspector Naming.standard []
  exact ⟨hold, byName hold "User", by rw [counted]; rfl⟩

/-- By its identity the extension is bound for its own host type, which no object type has. -/
theorem greeters_not_object
    : ¬∀ entry ∈ allBindings [service (.schema ⟨"MoreUser"⟩)] registry inspector Naming.standard,
        ∃ slot record,
          registry.get? slot = some record
          ∧ record.isExtension = false
          ∧ record.kind = .object
          ∧ record.name = some entry.1.typeName
          ∧ record.runtime = entry.2.source := by
  intro all
  have bound
      : (allBindings [service (.schema ⟨"MoreUser"⟩)] registry inspector Naming.standard).map
          (fun entry => entry.2.source)
        = [.named "UserExtension"] := by
    rfl
  have listed : RuntimeType.named "UserExtension" ∈ [RuntimeType.named "UserExtension"] :=
    List.mem_singleton_self _
  rw [← bound] at listed
  obtain ⟨entry, provided, source⟩ := List.mem_map.mp listed
  obtain ⟨slot, record, found, base, -, -, runtime⟩ := all entry provided
  have objects
      : ∀ record ∈ registry.records,
          record.isExtension = false → record.runtime = .named "User" := by
    decide
  have host : RuntimeType.named "UserExtension" = .named "User" := by
    rw [← objects record (mem_records_of_get? found) base, runtime, source]
  exact absurd host (by decide)

end Provider
end SchemaGraph
