import Mathlib.Data.List.Nodup
import SchemaGraph.Proofs.Discovery.Ownership

/-! Plain catalogues.
When nothing but its schema identity and its host type denotes a described type, a reference denotes
one type at most. In a registry that discovery builds from such a catalogue, each type is found by
references that denote it and by no other ones.
-/

namespace SchemaGraph

-----------------------------------------------------------------------------------------
-- Catalogues in which a reference denotes one type at most
-----------------------------------------------------------------------------------------

/-- No aliases are declared, canonical references are distinct, and no two named types have the same
scope and the same concrete host type.
-/
structure Catalog.Plain (catalog : Catalog) : Prop where
  unaliased : ∀ descriptor ∈ catalog, descriptor.aliases = []
  canonical : catalog.schemaReferences.Nodup
  runtime
    : ∀ descriptor ∈ catalog,
        ∀ other ∈ catalog,
          descriptor.definition.isNamedType = true
          → other.definition.isNamedType = true
          → descriptor.definition.runtime.isObject = false
          → descriptor.definition.runtime = other.definition.runtime
          → descriptor.discovered.scope = other.discovered.scope
          → descriptor.schemaReference = other.schemaReference

variable {catalog : Catalog} {descriptor other : Descriptor} {reference : Reference}

theorem Catalog.Plain.distinct (plain : catalog.Plain) : catalog.Distinct where
  canonical := plain.canonical
  aliases descriptor member other _ _ reference declared := by
    rw [plain.unaliased descriptor member] at declared
    cases declared

theorem Catalog.Plain.eq_of_schemaReference (plain : catalog.Plain)
    (member : descriptor ∈ catalog) (otherMember : other ∈ catalog)
    (same : descriptor.schemaReference = other.schemaReference)
    : descriptor = other :=
  List.inj_on_of_nodup_map plain.canonical member otherMember same

theorem Catalog.Plain.describes_iff (plain : catalog.Plain) (member : descriptor ∈ catalog)
    : descriptor.describes reference = true
      ↔ reference.scope = descriptor.discovered.scope
        ∧ descriptor.isTarget reference = true := by
  simp [Descriptor.describes, plain.unaliased descriptor member, Reference.isIn]

/-- A reference to what another one points at, in a position that the kind fits, denotes the same
type.
-/
theorem Catalog.Plain.describes_of_fits (plain : catalog.Plain) (member : descriptor ∈ catalog)
    {denoting : Reference} (described : descriptor.describes denoting = true)
    (target : denoting.target = reference.target) (scope : denoting.scope = reference.scope)
    (fits : descriptor.definition.kind.fits reference.position = true)
    : descriptor.describes reference = true := by
  rw [plain.describes_iff member] at described ⊢
  rw [← scope]
  refine ⟨described.1, ?_⟩
  have isTarget := described.2
  unfold Descriptor.isTarget at isTarget ⊢
  rw [target] at isTarget
  cases points : reference.target with
  | schema id => simpa [points] using isTarget
  | runtime type =>
      simp only [points, Bool.and_eq_true] at isTarget ⊢
      exact ⟨isTarget.1, fits⟩
  | byName name => simp [points] at isTarget

theorem Catalog.Plain.isName_of_describes (plain : catalog.Plain) (member : descriptor ∈ catalog)
    (described : descriptor.describes reference = true)
    : reference.isName = false := by
  obtain ⟨-, isTarget⟩ := (plain.describes_iff member).mp described
  unfold Reference.isName
  unfold Descriptor.isTarget at isTarget
  split <;> simp_all

/-- A reference denotes one type at most.
Witness: the target of the reference gives the identity, or the host type of which there is one
descriptor.
-/
theorem Catalog.Plain.eq_of_describes (plain : catalog.Plain) (member : descriptor ∈ catalog)
    (otherMember : other ∈ catalog) (described : descriptor.describes reference = true)
    (otherDescribed : other.describes reference = true)
    : descriptor = other := by
  suffices same : descriptor.schemaReference = other.schemaReference from
    plain.eq_of_schemaReference member otherMember same
  obtain ⟨scope, isTarget⟩ := (plain.describes_iff member).mp described
  obtain ⟨otherScope, otherIsTarget⟩ := (plain.describes_iff otherMember).mp otherDescribed
  have scopes := scope.symm.trans otherScope
  unfold Descriptor.isTarget at isTarget otherIsTarget
  cases target : reference.target with
  | schema id =>
      simp only [target, decide_eq_true_eq] at isTarget otherIsTarget
      simp only [Descriptor.schemaReference, TypeRecord.canonicalReference, isTarget, otherIsTarget,
        scopes]
  | runtime type =>
      simp only [target, Bool.and_eq_true, Bool.not_eq_true', decide_eq_true_eq]
        at isTarget otherIsTarget
      obtain ⟨⟨⟨named, concrete⟩, runtime⟩, -⟩ := isTarget
      obtain ⟨⟨⟨otherNamed, -⟩, otherRuntime⟩, -⟩ := otherIsTarget
      exact plain.runtime descriptor member other otherMember named otherNamed concrete
        (runtime.trans otherRuntime.symm) scopes
  | byName name => simp [target] at isTarget

theorem Catalog.exists_describe (member : descriptor ∈ catalog)
    (described : descriptor.describes reference = true)
    : ∃ first, catalog.describe reference = some first := by
  rw [← Option.isSome_iff_exists, describe, List.find?_isSome]
  exact ⟨descriptor, member, described⟩

namespace Registry

variable {registry before after : Registry} {slot : Slot} {record : TypeRecord}

-----------------------------------------------------------------------------------------
-- Types are found by what describes them
-----------------------------------------------------------------------------------------

/-- Whatever a type is found by, its descriptor describes. -/
structure Faithful (registry : Registry) (catalog : Catalog) : Prop where
  gathered : registry.Gathered
  described
    : ∀ record ∈ registry.records,
        ∃ descriptor ∈ catalog,
          record.IsOf descriptor
          ∧ ∀ reference ∈ record.references, descriptor.describes reference = true
  entries
    : ∀ entry ∈ registry.byRuntime,
        ∃ record,
          registry.get? entry.slot = some record
          ∧ ∃ descriptor ∈ catalog,
              record.IsOf descriptor
              ∧ descriptor.describes ⟨.runtime entry.runtime, .any, entry.scope⟩ = true

theorem faithful_empty : empty.Faithful catalog where
  gathered := gathered_empty
  described _ member := absurd member List.not_mem_nil
  entries _ member := absurd member List.not_mem_nil

/-- The entries of a record whose references are described by its descriptor are for the host type
and the scope of the descriptor.
Witness: an entry stems from a reference, or from the host type of the record itself.
-/
theorem describes_of_mem_runtimeEntries (plain : catalog.Plain) (member : descriptor ∈ catalog)
    (isOf : record.IsOf descriptor)
    (described : ∀ reference ∈ record.references, descriptor.describes reference = true)
    {entry : RuntimeEntry} (entered : entry ∈ runtimeEntries slot record)
    : descriptor.describes ⟨.runtime entry.runtime, .any, entry.scope⟩ = true := by
  rcases List.mem_append.mp entered with carried | own
  · obtain ⟨synonym, inRecord, made⟩ := List.mem_filterMap.mp carried
    unfold entryFor at made
    split at made
    · next type target =>
        cases made
        exact plain.describes_of_fits member (described synonym inRecord) target rfl rfl
    · cases made
  · split at own
    · next backed =>
        cases List.mem_singleton.mp own
        simp only [TypeRecord.isNamedType, TypeRecord.runtime, isOf.definition, Bool.and_eq_true,
          Bool.not_eq_true'] at backed
        rw [plain.describes_iff member]
        simp [Descriptor.isTarget, TypeRecord.runtime, isOf.definition, isOf.discovered, backed,
          Kind.fits]
    · cases own

/-- Storing a record of a descriptor over one of the same leaves the registry faithful to the
catalogue.
-/
theorem Faithful.store (faithful : before.Faithful catalog) (plain : catalog.Plain)
    (gathered : after.Gathered) (stores : Stores before slot record after)
    (member : descriptor ∈ catalog) (isOf : record.IsOf descriptor)
    (described : ∀ reference ∈ record.references, descriptor.describes reference = true)
    (replaces : ∀ earlier, before.get? slot = some earlier → earlier.primary = record.primary)
    : after.Faithful catalog where
  gathered := gathered
  described := stores.forall_records faithful.described ⟨descriptor, member, isOf, described⟩
  entries entry entered := by
    rcases stores.entries entry entered with old | new
    · obtain ⟨owner, here, origin, originMember, ownerIsOf, denotes⟩ := faithful.entries entry old
      by_cases replaced : slot = entry.slot
      · subst replaced
        have same : origin.schemaReference = descriptor.schemaReference := by
          rw [← ownerIsOf.primary, ← isOf.primary]
          exact replaces owner here
        cases plain.eq_of_schemaReference originMember member same
        exact ⟨record, stores.self, descriptor, member, isOf, denotes⟩
      · exact ⟨owner, (stores.others entry.slot replaced).trans here, origin, originMember,
          ownerIsOf, denotes⟩
    · have own : entry.slot = slot := slot_of_mem_runtimeEntries new
      exact ⟨record, own ▸ stores.self, descriptor, member, isOf,
        describes_of_mem_runtimeEntries plain member isOf described new⟩

/-- A canonical reference of the catalogue leads to the record of its type. -/
theorem Faithful.primary_of_findKey (faithful : registry.Faithful catalog) (plain : catalog.Plain)
    (member : descriptor ∈ catalog)
    (leads : registry.findKey descriptor.schemaReference = some slot)
    : ∃ record, registry.get? slot = some record ∧ record.primary = descriptor.schemaReference := by
  obtain ⟨key, inside, agrees, rfl⟩ := exists_mem_of_findKey leads
  obtain ⟨record, here, carried⟩ := faithful.gathered.carried key inside
  obtain ⟨origin, originMember, isOf, described⟩ :=
    faithful.described record (mem_records_of_get? here)
  have same :=
    plain.distinct.eq_of_describes originMember member (described key.1 carried) agrees
  exact ⟨record, here, isOf.primary.trans same.symm⟩

/-- A type of the catalogue was stored: the registry has its canonical reference besides those that
it had, and goes on being faithful.
-/
structure Admits (before after : Registry) (catalog : Catalog) (descriptor : Descriptor)
    : Prop where
  faithful : after.Faithful catalog
  primaries
    : ∀ canonical,
        canonical ∈ after.records.map TypeRecord.primary
        ↔ canonical ∈ before.records.map TypeRecord.primary
          ∨ canonical = descriptor.schemaReference

/-- A type that takes on a further reference admits no other type than before. -/
theorem Faithful.admits_again (faithful : registry.Faithful catalog) (plain : catalog.Plain)
    (member : descriptor ∈ catalog) (described : descriptor.describes reference = true)
    (known : registry.findKey descriptor.schemaReference = some slot)
    (found : registry.get? slot = some record)
    : Admits registry (registry.register (record.withReference reference)).1 catalog
        descriptor := by
  have stores := faithful.gathered.stores_again found reference
  obtain ⟨origin, originMember, isOf, carried⟩ :=
    faithful.described record (mem_records_of_get? found)
  obtain ⟨stored, here, same⟩ := faithful.primary_of_findKey plain member known
  cases Option.some.inj (found.symm.trans here)
  cases plain.eq_of_schemaReference originMember member (isOf.primary.symm.trans same)
  have replaces (earlier : TypeRecord) (there : registry.get? slot = some earlier)
      : earlier.primary = (record.withReference reference).primary := by
    cases Option.some.inj (found.symm.trans there)
    rw [record.primary_withReference]
  refine ⟨?_, fun canonical => ?_⟩
  · refine faithful.store plain (faithful.gathered.register_again found reference) stores member
      (isOf.withReference reference) ?_ replaces
    intro synonym inRecord
    rcases TypeRecord.mem_references_withReference inRecord with old | rfl
    · exact carried synonym old
    · exact described
  · rw [stores.mem_primaries replaces, record.primary_withReference, same]

/-- A type that is new admits itself and no other one. -/
theorem Faithful.admits_new (faithful : registry.Faithful catalog) (plain : catalog.Plain)
    (member : descriptor ∈ catalog) (described : descriptor.describes reference = true)
    (unknown : registry.findKey descriptor.schemaReference = none)
    : Admits registry (registry.register (descriptor.toRecord reference)).1 catalog
        descriptor := by
  have stores := stores_toRecord unknown reference
  have replaces (earlier : TypeRecord) (there : registry.get? registry.size = some earlier)
      : earlier.primary = (descriptor.toRecord reference).primary :=
    absurd (lt_size_of_get? there) (Nat.lt_irrefl registry.size)
  refine ⟨?_, fun canonical => ?_⟩
  · refine faithful.store plain (faithful.gathered.register_new unknown reference) stores member
      (descriptor.isOf_toRecord reference) ?_ replaces
    intro synonym inRecord
    rcases TypeRecord.mem_references_new inRecord with rfl | given
    · exact descriptor.describes_schemaReference
    · rw [plain.unaliased descriptor member, List.nil_append, List.mem_singleton] at given
      exact given ▸ described
  · rw [stores.mem_primaries replaces, descriptor.primary_toRecord]

/-- The descriptor of a usable type describes the reference that denotes it.
Witness: a reference is denoted by a key or by an entry for a host type, and either was brought by a
descriptor that describes it.
-/
theorem Faithful.describes_of_usable (faithful : registry.Faithful catalog)
    (plain : catalog.Plain) (usable : registry.denotesUsable reference = true)
    : ∃ descriptor ∈ catalog,
        descriptor.schemaReference ∈ registry.records.map TypeRecord.primary
        ∧ descriptor.describes reference = true := by
  unfold denotesUsable at usable
  cases leads : registry.find reference with
  | none => simp [leads] at usable
  | some slot =>
      cases here : registry.get? slot with
      | none => simp [leads, here] at usable
      | some record =>
          have fits : record.definition.kind.fits reference.position = true := by
            simpa [leads, here, TypeRecord.kind] using usable
          have stored := List.mem_map_of_mem (f := TypeRecord.primary) (mem_records_of_get? here)
          suffices denotes
              : ∃ descriptor ∈ catalog,
                  record.IsOf descriptor
                  ∧ ∃ denoting : Reference,
                      descriptor.describes denoting = true
                      ∧ denoting.target = reference.target
                      ∧ denoting.scope = reference.scope by
            obtain ⟨descriptor, member, isOf, denoting, described, target, scope⟩ := denotes
            rw [isOf.definition] at fits
            exact ⟨descriptor, member, isOf.primary ▸ stored,
              plain.describes_of_fits member described target scope fits⟩
          cases key : isKey reference with
          | true =>
              rw [find_of_isKey key] at leads
              obtain ⟨key, inside, agrees, rfl⟩ := exists_mem_of_findKey leads
              obtain ⟨owner, there, carried⟩ := faithful.gathered.carried key inside
              cases Option.some.inj (here.symm.trans there)
              obtain ⟨descriptor, member, isOf, described⟩ :=
                faithful.described record (mem_records_of_get? here)
              obtain ⟨-, scope, target⟩ := Reference.agrees_iff.mp agrees
              exact ⟨descriptor, member, isOf, key.1, described key.1 carried, target, scope⟩
          | false =>
              unfold isKey at key
              split at key
              · next type target =>
                  rw [find, target] at leads
                  obtain ⟨entry, among, rfl⟩ := Option.map_eq_some_iff.mp leads
                  obtain ⟨owner, there, descriptor, member, isOf, described⟩ :=
                    faithful.entries entry (List.mem_of_find?_eq_some among)
                  cases Option.some.inj (here.symm.trans there)
                  have matched := List.find?_some among
                  simp only [Bool.and_eq_true, decide_eq_true_eq] at matched
                  obtain ⟨⟨runtime, -⟩, scope⟩ := matched
                  exact ⟨descriptor, member, isOf, _, described, by rw [target, runtime], scope⟩
              · cases key

end Registry
end SchemaGraph
