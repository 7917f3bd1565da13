import SchemaGraph.Completion.Name
import SchemaGraph.Proofs.Registry.Changes
import SchemaGraph.Proofs.Registry.Ownership

/-! The names that types are to have.
They are known before any type is named, and so is what every type waits for in the end: a
dependency on a name that no type has as yet leads to the type that is to have it.
-/

namespace SchemaGraph

-----------------------------------------------------------------------------------------
-- Final names
-----------------------------------------------------------------------------------------

namespace Definition

@[simp] theorem isDirective_withName (definition : Definition) (name : String)
    : (definition.withName name).isDirective = definition.isDirective := by
  cases definition <;> rfl

@[simp] theorem isExtension_withName (definition : Definition) (name : String)
    : (definition.withName name).isExtension = definition.isExtension := by
  cases definition <;> rfl

@[simp] theorem isNamedType_withName (definition : Definition) (name : String)
    : (definition.withName name).isNamedType = definition.isNamedType := by
  simp [isNamedType]

end Definition

/-- The key of a directive is no valid name. -/
theorem Naming.isValidName_at (name : String) : isValidName ("@" ++ name) = false := by
  have chars : ("@" ++ name).toList = '@' :: name.toList := by simp
  rw [isValidName, chars, isValidChars]
  rfl

/-- A valid name does not start with the mark of directives. -/
theorem Naming.ne_at_append {name : String} (valid : isValidName name = true) (rest : String)
    : name ≠ "@" ++ rest := by
  rintro rfl
  rw [isValidName_at] at valid
  cases valid

namespace TypeRecord

variable {naming : Naming} {record : TypeRecord} {name : String}

/-- The name that the type is to have, be it explicit or derived. -/
def finalName (naming : Naming) (record : TypeRecord) : Option String :=
  (record.definition.chooseName naming).toOption

/-- The final name is the one that is chosen. -/
theorem finalName_eq_some_iff
    : record.finalName naming = some name ↔ record.definition.chooseName naming = .ok name := by
  unfold finalName
  cases record.definition.chooseName naming <;> simp [Except.toOption]

/-- The type under the name that it is to have. -/
def named (naming : Naming) (record : TypeRecord) : TypeRecord :=
  match record.finalName naming with
  | some name => record.withDefinition (record.definition.withName name)
  | none => record

/-- A type is named by its final name. -/
theorem named_eq (final : record.finalName naming = some name)
    : record.named naming = record.withDefinition (record.definition.withName name) := by
  rw [named, final]

@[simp] theorem references_named : (record.named naming).references = record.references := by
  unfold named
  split <;> rfl

/-- Naming keeps the identity. -/
theorem id_named : (record.named naming).definition.id = record.definition.id := by
  unfold named
  split
  · exact record.definition.id_withName _
  · rfl

/-- A named type has its final name. -/
theorem name_named (final : record.finalName naming = some name)
    : (record.named naming).name = some name := by
  rw [named_eq final]
  exact record.definition.name_withName name

end TypeRecord

namespace Registry

variable {registry : Registry} {naming : Naming} {slot target : Slot} {record owner : TypeRecord}
  {reference : Reference} {name : String}

/-- The key that the type is to be found by. -/
def finalKey (naming : Naming) (record : TypeRecord) : Option String :=
  nameKey (record.named naming)

/-- The key of a type is its final name, with a mark for directives, and extensions have none. -/
theorem finalKey_eq (final : record.finalName naming = some name)
    : finalKey naming record
      = if record.isDirective then some ("@" ++ name)
        else if record.isNamedType then some name
        else none := by
  have directive : (record.named naming).isDirective = record.isDirective := by
    rw [TypeRecord.named_eq final]
    exact record.definition.isDirective_withName name
  have named : (record.named naming).isNamedType = record.isNamedType := by
    rw [TypeRecord.named_eq final]
    exact record.definition.isNamedType_withName name
  simp [finalKey, nameKey, TypeRecord.name_named final, directive, named]

/-- A valid name is the key of a named type that is to have it, and of nothing else. -/
theorem finalKey_eq_some_iff (final : record.finalName naming = some name) {other : String}
    (valid : Naming.isValidName other = true)
    : finalKey naming record = some other ↔ record.isNamedType = true ∧ name = other := by
  rw [finalKey_eq final]
  cases directive : record.isDirective with
  | false => simp
  | true =>
      have noName : record.isNamedType = false := by
        simp [TypeRecord.isNamedType, Definition.isNamedType,
          show record.definition.isDirective = true from directive]
      simp [noName, (Naming.ne_at_append valid name).symm]

-----------------------------------------------------------------------------------------
-- What a type waits for in the end
-----------------------------------------------------------------------------------------

/-- The reference is to a name that a named type is to have, and agrees with no reference of a type.
-/
def AwaitsName (registry : Registry) (naming : Naming) (reference : Reference) : Prop :=
  (∃ name,
    reference.target = .byName name
    ∧ ∃ owner ∈ registry.records,
        owner.isNamedType = true ∧ owner.finalName naming = some name)
  ∧ ∀ other ∈ registry.records, reference.isIn other.references = false

/-- The slot that the reference denotes already, or that is to have its name. -/
def LeadsTo (registry : Registry) (naming : Naming) (reference : Reference) (target : Slot)
    : Prop :=
  registry.locate reference = some target
  ∨ registry.locate reference = none
    ∧ ∃ name,
        reference.target = .byName name
        ∧ ∃ owner,
            registry.get? target = some owner
            ∧ owner.isNamedType = true
            ∧ owner.finalName naming = some name

/-- A dependency on the name of the target holds the type in the slot back. -/
def NameWaits (registry : Registry) (naming : Naming) (slot target : Slot) : Prop :=
  ∃ record,
    registry.get? slot = some record
    ∧ ∃ reference ∈ record.dependenciesOf .named, registry.LeadsTo naming reference target

/-- All types can be named, one by one: their names are valid and distinct, and none is taken; and
what they wait for is registered or is the name of one of them.
-/
structure Nameable (registry : Registry) (naming : Naming) : Prop where
  built : registry.IsBuilt
  settled : registry.Settled
  unnamed : registry.byName = []
  valid
    : ∀ record ∈ registry.records,
        ∃ name, record.finalName naming = some name ∧ Naming.isValidName name = true
  types
    : ((registry.records.filter TypeRecord.isNamedType).map (TypeRecord.finalName naming)).Nodup
  directives
    : ((registry.records.filter TypeRecord.isDirective).map (TypeRecord.finalName naming)).Nodup
  dependencies
    : ∀ record ∈ registry.records,
        ∀ reference ∈ record.dependenciesOf .named,
          (registry.resolve reference).isSome = true ∨ registry.AwaitsName naming reference

/-- A dependency that leads nowhere yet agrees with no reference of a type. -/
theorem Nameable.unclaimed (nameable : registry.Nameable naming)
    (found : registry.get? slot = some record)
    (declared : reference ∈ record.dependenciesOf .named)
    (nowhere : registry.locate reference = none)
    : ∀ other ∈ registry.records, reference.isIn other.references = false := by
  rcases nameable.dependencies record (mem_records_of_get? found) reference declared with
    resolved | awaits
  · rw [resolve_of_nowhere nowhere] at resolved
    cases resolved
  · exact awaits.2

/-- Every dependency leads to a type in the end. -/
theorem Nameable.exists_leadsTo (nameable : registry.Nameable naming)
    (found : registry.get? slot = some record)
    (declared : reference ∈ record.dependenciesOf .named)
    : ∃ target, registry.LeadsTo naming reference target := by
  cases leads : registry.locate reference with
  | some target => exact ⟨target, Or.inl leads⟩
  | none =>
      rcases nameable.dependencies record (mem_records_of_get? found) reference declared with
        resolved | ⟨⟨name, byName, owner, member, which, final⟩, -⟩
      · rw [resolve_of_nowhere leads] at resolved
        cases resolved
      · obtain ⟨target, there⟩ := exists_get?_of_mem member
        exact ⟨target, Or.inr ⟨leads, name, byName, owner, there, which, final⟩⟩

/-- A type waits for the names of types that there are. -/
theorem Nameable.target_lt (nameable : registry.Nameable naming)
    (waits : registry.NameWaits naming slot target)
    : target < registry.size := by
  obtain ⟨-, -, reference, -, leads | ⟨-, -, -, owner, there, -⟩⟩ := waits
  · exact nameable.built.bounded.locate_lt leads
  · exact lt_size_of_get? there

/-- Two types that look alike are one, where no look comes twice. -/
theorem slot_eq_of_nodup {β : Type} {which : TypeRecord → Bool} {view : TypeRecord → β}
    (distinct : ((registry.records.filter which).map view).Nodup)
    (found : registry.get? slot = some record) (foundOwner : registry.get? target = some owner)
    (isRecord : which record = true) (isOwner : which owner = true)
    (same : view record = view owner)
    : slot = target := by
  rw [List.Nodup, List.pairwise_map, List.pairwise_filter, List.pairwise_iff_getElem] at distinct
  obtain ⟨inside, rfl⟩ := List.getElem?_eq_some_iff.mp found
  obtain ⟨insideOwner, rfl⟩ := List.getElem?_eq_some_iff.mp foundOwner
  rcases Nat.lt_trichotomy slot target with before | rfl | behind
  · exact absurd same (distinct slot target inside insideOwner before isRecord isOwner)
  · rfl
  · exact absurd same.symm (distinct target slot insideOwner inside behind isOwner isRecord)

/-- No two types are to have the same key.
Witness: keys with the mark belong to directives and keys without it to types, and within each the
names are distinct.
-/
theorem Nameable.slot_eq (nameable : registry.Nameable naming)
    (found : registry.get? slot = some record) (foundOwner : registry.get? target = some owner)
    {key : String} (keyed : finalKey naming record = some key)
    (keyedOwner : finalKey naming owner = some key)
    : slot = target := by
  obtain ⟨name, final, valid⟩ := nameable.valid record (mem_records_of_get? found)
  obtain ⟨ownName, finalOwner, validOwner⟩ := nameable.valid owner (mem_records_of_get? foundOwner)
  by_cases named : Naming.isValidName key = true
  · obtain ⟨isRecord, rfl⟩ := (finalKey_eq_some_iff final named).mp keyed
    obtain ⟨isOwner, rfl⟩ := (finalKey_eq_some_iff finalOwner named).mp keyedOwner
    exact slot_eq_of_nodup nameable.types found foundOwner isRecord isOwner
      (final.trans finalOwner.symm)
  · have directive {record : TypeRecord} {name : String}
        (final : record.finalName naming = some name) (valid : Naming.isValidName name = true)
        (keyed : finalKey naming record = some key)
        : record.isDirective = true ∧ "@" ++ name = key := by
      rw [finalKey_eq final] at keyed
      split at keyed
      · next which => exact ⟨which, Option.some.inj keyed⟩
      · split at keyed
        · exact absurd (Option.some.inj keyed ▸ valid) named
        · cases keyed
    obtain ⟨isRecord, here⟩ := directive final valid keyed
    obtain ⟨isOwner, there⟩ := directive finalOwner validOwner keyedOwner
    have same : name = ownName := (String.append_right_inj "@").mp (here.trans there.symm)
    refine slot_eq_of_nodup nameable.directives found foundOwner isRecord isOwner ?_
    rw [final, finalOwner, same]

end Registry
end SchemaGraph
