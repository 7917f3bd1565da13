import SchemaGraph.Proofs.Registry.Extent

/-! What a catalogue of distinct types lets discovery register.
When no alias of a descriptor agrees with the canonical reference of another one, discovery
registers each type once, and every type is found by its canonical reference.
-/

namespace SchemaGraph

-----------------------------------------------------------------------------------------
-- Catalogues
-----------------------------------------------------------------------------------------

/-- Canonical references are distinct, and no alias of a descriptor agrees with the canonical
reference of another one.
-/
structure Catalog.Distinct (catalog : Catalog) : Prop where
  canonical : catalog.schemaReferences.Nodup
  aliases
    : ∀ descriptor ∈ catalog,
        ∀ other ∈ catalog,
          other.schemaReference ≠ descriptor.schemaReference
          → ∀ reference ∈ descriptor.aliases,
              reference.agrees other.schemaReference = false

variable {catalog : Catalog} {descriptor other : Descriptor} {reference : Reference}

theorem Catalog.Distinct.eq_of_alias (distinct : catalog.Distinct)
    (member : descriptor ∈ catalog) (otherMember : other ∈ catalog)
    (declared : reference ∈ descriptor.aliases)
    (agrees : reference.agrees other.schemaReference = true)
    : other.schemaReference = descriptor.schemaReference := by
  by_cases same : other.schemaReference = descriptor.schemaReference
  · exact same
  · rw [distinct.aliases descriptor member other otherMember same reference declared] at agrees
    cases agrees

/-- A reference that a descriptor describes agrees with no canonical reference of another one.
Witness: it agrees with one of the aliases or has the descriptor's own identity and scope; host
types have no canonical references.
-/
theorem Catalog.Distinct.eq_of_describes (distinct : catalog.Distinct)
    (member : descriptor ∈ catalog) (otherMember : other ∈ catalog)
    (described : descriptor.describes reference = true)
    (agrees : reference.agrees other.schemaReference = true)
    : other.schemaReference = descriptor.schemaReference := by
  simp only [Descriptor.describes, Bool.and_eq_true, Bool.or_eq_true, decide_eq_true_eq]
    at described
  obtain ⟨scope, byAlias | isTarget⟩ := described
  · obtain ⟨declared, here, alike⟩ := Reference.isIn_iff.mp byAlias
    have carried := Reference.agrees_trans_of_position_any rfl alike agrees
    exact distinct.eq_of_alias member otherMember here carried
  · have position : other.schemaReference.position = .any := rfl
    obtain ⟨sameTarget, sameScope⟩ :=
      (Reference.agrees_iff_of_position_any position).mp agrees
    have target : reference.target = .schema other.definition.id := sameTarget
    have identity : descriptor.definition.id = other.definition.id := by
      simpa [Descriptor.isTarget, target] using isTarget
    have sameScopes : other.discovered.scope = descriptor.discovered.scope :=
      sameScope.symm.trans scope
    simp only [Descriptor.schemaReference, TypeRecord.canonicalReference, identity, sameScopes]

/-- A descriptor describes its own canonical reference. -/
theorem Descriptor.describes_schemaReference (descriptor : Descriptor)
    : descriptor.describes descriptor.schemaReference = true := by
  simp [describes, isTarget, schemaReference, TypeRecord.canonicalReference, Reference.schema,
    Reference.withScope]

-----------------------------------------------------------------------------------------
-- Records and registries under a catalogue
-----------------------------------------------------------------------------------------

/-- The record stands for a type of the catalogue, with its definition, and its references agree
with no other canonical reference of the catalogue.
-/
structure TypeRecord.StandsIn (record : TypeRecord) (catalog : Catalog) : Prop where
  definition : ∃ descriptor ∈ catalog, record.definition = descriptor.definition
  primary : record.primary ∈ catalog.schemaReferences
  own
    : ∀ reference ∈ record.references,
        ∀ canonical ∈ catalog.schemaReferences,
          reference.agrees canonical = true → canonical = record.primary

theorem Catalog.Distinct.standsIn_toRecord (distinct : catalog.Distinct)
    (member : descriptor ∈ catalog) (described : descriptor.describes reference = true)
    : (descriptor.toRecord reference).StandsIn catalog := by
  constructor
  · exact ⟨descriptor, member, TypeRecord.definition_new _ _ _ _⟩
  · rw [descriptor.primary_toRecord]
    exact List.mem_map_of_mem member
  · rw [descriptor.primary_toRecord]
    intro carried inRecord canonical inCatalog agrees
    obtain ⟨other, otherMember, rfl⟩ := List.mem_map.mp inCatalog
    rcases TypeRecord.mem_references_new inRecord with rfl | given
    · have own := descriptor.describes_schemaReference
      exact distinct.eq_of_describes member otherMember own agrees
    · rcases List.mem_append.mp given with declared | found
      · exact distinct.eq_of_alias member otherMember declared agrees
      · cases List.mem_singleton.mp found
        exact distinct.eq_of_describes member otherMember described agrees

/-- The records stand for types of the catalogue, and each key is a reference of the record that it
leads to.
-/
structure Registry.Catalogued (registry : Registry) (catalog : Catalog) : Prop where
  standsIn : ∀ record ∈ registry.records, record.StandsIn catalog
  carried
    : ∀ key ∈ registry.byReference.keys,
        ∃ record, registry.get? key.2 = some record ∧ key.1 ∈ record.references

namespace Registry

variable {registry : Registry} {slot : Slot} {record : TypeRecord}

/-- A canonical reference of the catalogue leads to its own record only. -/
theorem Catalogued.exists_of_findKey (catalogued : registry.Catalogued catalog)
    (member : reference ∈ catalog.schemaReferences)
    (found : registry.findKey reference = some slot)
    : ∃ record, registry.get? slot = some record ∧ record.primary = reference := by
  obtain ⟨key, inIndex, agrees, rfl⟩ := exists_mem_of_findKey found
  obtain ⟨record, here, carried⟩ := catalogued.carried key inIndex
  have standsIn := catalogued.standsIn record (mem_records_of_get? here)
  exact ⟨record, here, (standsIn.own key.1 carried reference member agrees).symm⟩

theorem isKey_of_standsIn (standsIn : record.StandsIn catalog)
    : isKey record.primary = true := by
  obtain ⟨descriptor, -, same⟩ := List.mem_map.mp standsIn.primary
  rw [← same]
  rfl

/-- The registry is as discovery from the catalogue builds it: every record is found by its
canonical reference, too, and its references are indexed.
-/
structure DiscoveredFrom (registry : Registry) (catalog : Catalog) : Prop
    extends registry.Catalogued catalog where
  found
    : ∀ ⦃slot record⦄,
        registry.get? slot = some record
        → registry.findKey record.primary = some slot
  indexed : registry.KeysIndexed

/-- Every type is found by its canonical reference, and no other type claims it. -/
theorem DiscoveredFrom.settled (discovered : registry.DiscoveredFrom catalog)
    : registry.Settled := by
  have keyed (record : TypeRecord) (member : record ∈ registry.records)
      : isKey record.primary = true :=
    isKey_of_standsIn (discovered.standsIn record member)
  refine ⟨keyed, ?_, ?_, discovered.indexed⟩
  · intro slot record here
    rw [find_of_isKey (keyed record (mem_records_of_get? here))]
    exact discovered.found here
  · intro left right owner other foundOwner foundOther different reference carried
    rw [Bool.eq_false_iff]
    intro agrees
    have standsIn := discovered.standsIn owner (mem_records_of_get? foundOwner)
    have inCatalog := (discovered.standsIn other (mem_records_of_get? foundOther)).primary
    have same := standsIn.own reference carried other.primary inCatalog agrees
    have leads := discovered.found foundOther
    rw [same, discovered.found foundOwner] at leads
    exact different (Option.some.inj leads)

-----------------------------------------------------------------------------------------
-- Discovery
-----------------------------------------------------------------------------------------

/-- A described type stands in the catalogue also under the reference that it was described by. -/
theorem standsIn_withReference (distinct : catalog.Distinct) (member : descriptor ∈ catalog)
    (described : descriptor.describes reference = true) (standsIn : record.StandsIn catalog)
    (same : record.primary = descriptor.schemaReference)
    : (record.withReference reference).StandsIn catalog := by
  refine ⟨?_, ?_, ?_⟩
  · rw [record.definition_withReference]
    exact standsIn.definition
  · rw [record.primary_withReference]
    exact standsIn.primary
  · rw [record.primary_withReference]
    intro carried inRecord canonical canonicalMember agrees
    rcases TypeRecord.mem_references_withReference inRecord with old | rfl
    · exact standsIn.own carried old canonical canonicalMember agrees
    · obtain ⟨other, otherMember, rfl⟩ := List.mem_map.mp canonicalMember
      exact same ▸ distinct.eq_of_describes member otherMember described agrees

/-- Whatever the seeds are, discovery into an empty registry leaves each type with its own canonical
reference.
Witness: induction on the registrations; a record stands in for its descriptor, and no reference is
described by two.
-/
theorem discover_discoveredFrom (distinct : catalog.Distinct) (seeds : List Reference)
    : (empty.discover catalog seeds).registry.DiscoveredFrom catalog := by
  suffices kept
      : (empty.discover catalog seeds).registry.Gathered
        ∧ ∀ record ∈ (empty.discover catalog seeds).registry.records,
            record.StandsIn catalog by
    obtain ⟨gathered, standsIn⟩ := kept
    exact ⟨⟨standsIn, gathered.carried⟩, fun _ _ here => gathered.findKey_primary here,
      (firm_discover catalog seeds).built.keysIndexed⟩
  refine
    discoverFrom_induction (motive := fun registry =>
      registry.Gathered ∧ ∀ record ∈ registry.records, record.StandsIn catalog) ?_ ?_ [] seeds
      ⟨gathered_empty, fun _ member => absurd member List.not_mem_nil⟩
  · rintro registry reference descriptor slot record described known found ⟨gathered, standsIn⟩
    obtain ⟨member, describes⟩ := Catalog.mem_of_describe described
    have catalogued : registry.Catalogued catalog := ⟨standsIn, gathered.carried⟩
    obtain ⟨owner, here, same⟩ :=
      catalogued.exists_of_findKey (List.mem_map_of_mem member) known
    cases Option.some.inj (found.symm.trans here)
    have here := standsIn record (mem_records_of_get? found)
    exact ⟨gathered.register_again found reference,
      (gathered.stores_again found reference).forall_records standsIn
        (standsIn_withReference distinct member describes here same)⟩
  · rintro registry reference descriptor described unknown ⟨gathered, standsIn⟩
    obtain ⟨member, describes⟩ := Catalog.mem_of_describe described
    exact ⟨gathered.register_new unknown reference,
      (stores_toRecord unknown reference).forall_records standsIn
        (distinct.standsIn_toRecord member describes)⟩

end Registry
end SchemaGraph
