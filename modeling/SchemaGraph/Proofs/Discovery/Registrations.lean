import SchemaGraph.Discovery.Closure
import SchemaGraph.Proofs.Registry.Ownership
import SchemaGraph.Proofs.Registry.References

/-! What discovery registers.
Each step of a walk leaves the registry alone, stores the record of a described type behind all
others, or stores a record again under one more reference. Whatever the catalogue is, repeated
identities and aliases included, each type therefore has one record, of a descriptor of the
catalogue, and its canonical reference leads to it.
-/

namespace SchemaGraph

variable {catalog : Catalog} {descriptor : Descriptor} {reference : Reference}

/-- What describes a reference is a descriptor of the catalogue. -/
theorem Catalog.mem_of_describe (h : catalog.describe reference = some descriptor)
    : descriptor ∈ catalog ∧ descriptor.describes reference = true :=
  ⟨List.mem_of_find?_eq_some h, by simpa using List.find?_some h⟩

/-- The record was made from the descriptor. It may have got further references. -/
structure TypeRecord.IsOf (record : TypeRecord) (descriptor : Descriptor) : Prop where
  definition : record.definition = descriptor.definition
  primary : record.primary = descriptor.schemaReference
  dependencies : record.dependencies = Dependency.addAll [] descriptor.dependencies
  discovered : record.discovered = descriptor.discovered

/-- The record that is made from a descriptor is one of it. -/
theorem Descriptor.isOf_toRecord (descriptor : Descriptor) (foundBy : Reference)
    : (descriptor.toRecord foundBy).IsOf descriptor where
  definition := TypeRecord.definition_new _ _ _ _
  primary := descriptor.primary_toRecord foundBy
  dependencies := TypeRecord.dependencies_new _ _ _ _
  discovered := TypeRecord.discovered_new _ _ _ _

/-- So is the record with a further reference. -/
theorem TypeRecord.IsOf.withReference {record : TypeRecord} (isOf : record.IsOf descriptor)
    (reference : Reference)
    : (record.withReference reference).IsOf descriptor where
  definition := (record.definition_withReference reference).trans isOf.definition
  primary := (record.primary_withReference reference).trans isOf.primary
  dependencies := (record.dependencies_withReference reference).trans isOf.dependencies
  discovered := (record.discovered_withReference reference).trans isOf.discovered

namespace Registry

variable {registry before after : Registry} {slot : Slot} {record : TypeRecord}

/-- A step of a walk puts the first reference of the queue in front of those that were seen. -/
theorem mem_after_step {first other : Reference} {seen rest : List Reference}
    (more : List Reference) (member : other ∈ seen ++ first :: rest)
    : other ∈ first :: seen ++ (rest ++ more) := by
  rw [List.cons_append, ← List.append_assoc, List.mem_cons]
  exact (List.mem_cons.mp (List.perm_middle.mem_iff.mp member)).imp_right
    (List.mem_append_left more)

/-- What the two kinds of registration keep, a walk keeps.
Witness: the recursion of the walk, of which only two cases register anything.
-/
theorem discoverFrom_induction {motive : Registry → Prop}
    (again
      : ∀ {registry reference descriptor slot record},
          catalog.describe reference = some descriptor
          → registry.findKey descriptor.schemaReference = some slot
          → registry.get? slot = some record
          → motive registry
          → motive (registry.register (record.withReference reference)).1)
    (new
      : ∀ {registry reference descriptor},
          catalog.describe reference = some descriptor
          → registry.findKey descriptor.schemaReference = none
          → motive registry
          → motive (registry.register (descriptor.toRecord reference)).1)
    (seen queue : List Reference) (start : motive registry)
    : motive (discoverFrom catalog registry seen queue).registry := by
  fun_induction Registry.discoverFrom catalog registry seen queue with
  | case1 registry seen => exact start
  | case2 registry seen reference rest skip ih => exact ih start
  | case3 registry seen reference rest fresh usable ih => exact ih start
  | case4 registry seen reference rest fresh unusable refused ih => exact ih start
  | case5 registry seen reference rest fresh unusable descriptor described slot known record
      found ih =>
      exact ih (again described known found start)
  | case6 registry seen reference rest fresh unusable descriptor described slot known found ih =>
      exact ih start
  | case7 registry seen reference rest fresh unusable descriptor described unknown ih =>
      exact ih (new described unknown start)

-----------------------------------------------------------------------------------------
-- Registries that discovery builds
-----------------------------------------------------------------------------------------

/-- What holds of a registry that discovery builds, whatever the catalogue is: each type is found by
its canonical reference, which is a key of its own, and each key is a reference of the type that it
leads to.
-/
structure Gathered (registry : Registry) : Prop where
  found
    : ∀ ⦃slot record⦄,
        registry.get? slot = some record
        → isKey record.primary = true ∧ (record.primary, slot) ∈ registry.byReference.keys
  carried
    : ∀ key ∈ registry.byReference.keys,
        ∃ record, registry.get? key.2 = some record ∧ key.1 ∈ record.references

/-- A key of its own is found whatever the buckets are. -/
theorem Gathered.findKey_primary (gathered : registry.Gathered)
    (found : registry.get? slot = some record)
    : registry.findKey record.primary = some slot :=
  KeyTable.find_of_mem (gathered.found found).2

/-- Nothing was gathered yet. -/
theorem gathered_empty : empty.Gathered where
  found slot record here := by simp [empty, get?] at here
  carried _ member := absurd member List.not_mem_nil

/-- A record is stored under a canonical reference of its own, over a record that carries no other
references than it does.
Witness: each key is an old one or a reference of the record, and the record has those of the one
before it.
-/
theorem Gathered.store (gathered : before.Gathered) (stores : Stores before slot record after)
    (keyed : isKey record.primary = true) (own : (record.primary, slot) ∈ after.byReference.keys)
    (replaces
      : ∀ earlier,
          before.get? slot = some earlier
          → ∀ reference ∈ earlier.references, reference ∈ record.references)
    : after.Gathered where
  found other later here := by
    rcases stores.get?_cases here with ⟨rfl, rfl⟩ | ⟨-, old⟩
    · exact ⟨keyed, own⟩
    · obtain ⟨key, member⟩ := gathered.found old
      exact ⟨key, stores.byReference member⟩
  carried key member := by
    rcases stores.keys key member with old | ⟨carried, same⟩
    · obtain ⟨owner, here, carried⟩ := gathered.carried key old
      by_cases replaced : slot = key.2
      · subst replaced
        exact ⟨record, stores.self, replaces owner here key.1 carried⟩
      · exact ⟨owner, (stores.others key.2 replaced).trans here, carried⟩
    · exact ⟨record, same ▸ stores.self, carried⟩

/-- A type that takes on a reference is still found by its canonical one. -/
theorem Gathered.findKey_withReference (gathered : registry.Gathered)
    (found : registry.get? slot = some record) (reference : Reference)
    : registry.findKey (record.withReference reference).primary = some slot := by
  rw [record.primary_withReference]
  exact gathered.findKey_primary found

/-- A type that gets a further reference stays in its slot. -/
theorem Gathered.stores_again (gathered : registry.Gathered)
    (found : registry.get? slot = some record) (reference : Reference)
    : Stores registry slot (record.withReference reference)
        (registry.register (record.withReference reference)).1 :=
  stores_register_of_some (gathered.findKey_withReference found reference) (lt_size_of_get? found)

/-- A type that is registered with a further reference replaces itself, and all others stay. -/
theorem Gathered.register_again (gathered : registry.Gathered)
    (found : registry.get? slot = some record) (reference : Reference)
    : (registry.register (record.withReference reference)).1.Gathered := by
  have stores := gathered.stores_again found reference
  have same := record.primary_withReference reference
  obtain ⟨keyed, member⟩ := gathered.found found
  refine gathered.store stores (same ▸ keyed) (same ▸ stores.byReference member) ?_
  intro earlier here other carried
  cases Option.some.inj (found.symm.trans here)
  exact TypeRecord.mem_references_withReference_of_mem reference carried

/-- A type that is not known is stored behind all others. -/
theorem stores_toRecord (unknown : registry.findKey descriptor.schemaReference = none)
    (reference : Reference)
    : Stores registry registry.size (descriptor.toRecord reference)
        (registry.register (descriptor.toRecord reference)).1 := by
  rw [← descriptor.primary_toRecord reference] at unknown
  exact stores_register_of_none unknown

/-- A new type comes behind all others. -/
theorem Gathered.register_new (gathered : registry.Gathered)
    (unknown : registry.findKey descriptor.schemaReference = none)
    (reference : Reference)
    : (registry.register (descriptor.toRecord reference)).1.Gathered := by
  have stores := stores_toRecord unknown reference
  have keyed : isKey (descriptor.toRecord reference).primary = true := by
    rw [descriptor.primary_toRecord]
    rfl
  rw [← descriptor.primary_toRecord reference] at unknown
  refine gathered.store stores keyed (mem_keys_register_of_none unknown keyed) ?_
  intro earlier here
  exact absurd (lt_size_of_get? here) (Nat.lt_irrefl registry.size)

/-- The discovery keeps to this with every reference that it takes up, by induction. -/
theorem gathered_discoverFrom (start : registry.Gathered) (catalog : Catalog)
    (seen queue : List Reference)
    : (discoverFrom catalog registry seen queue).registry.Gathered :=
  discoverFrom_induction (fun _ _ found kept => kept.register_again found _)
    (fun _ unknown kept => kept.register_new unknown _) seen queue start

/-- So it does from the start. -/
theorem gathered_discover (catalog : Catalog) (seeds : List Reference)
    : (empty.discover catalog seeds).registry.Gathered :=
  gathered_discoverFrom gathered_empty catalog [] seeds

-----------------------------------------------------------------------------------------
-- One record for each type
-----------------------------------------------------------------------------------------

/-- Every record was made from a descriptor of the catalogue. -/
def RecordsOf (registry : Registry) (catalog : Catalog) : Prop :=
  ∀ record ∈ registry.records, ∃ descriptor ∈ catalog, record.IsOf descriptor

/-- All that is discovered are records of descriptors, by induction on what is taken up. -/
theorem recordsOf_discoverFrom (gathered : registry.Gathered)
    (start : registry.RecordsOf catalog) (seen queue : List Reference)
    : (discoverFrom catalog registry seen queue).registry.RecordsOf catalog := by
  suffices kept
      : (discoverFrom catalog registry seen queue).registry.Gathered
        ∧ (discoverFrom catalog registry seen queue).registry.RecordsOf catalog from kept.2
  refine
    discoverFrom_induction (motive := fun registry =>
      registry.Gathered ∧ registry.RecordsOf catalog) ?_ ?_ seen queue ⟨gathered, start⟩
  · rintro registry reference descriptor slot record - - found ⟨gathered, recordsOf⟩
    obtain ⟨origin, member, isOf⟩ := recordsOf record (mem_records_of_get? found)
    refine ⟨gathered.register_again found reference, ?_⟩
    exact (gathered.stores_again found reference).forall_records recordsOf
      ⟨origin, member, isOf.withReference reference⟩
  · rintro registry reference descriptor described unknown ⟨gathered, recordsOf⟩
    refine ⟨gathered.register_new unknown reference, ?_⟩
    exact (stores_toRecord unknown reference).forall_records recordsOf
      ⟨descriptor, (Catalog.mem_of_describe described).1, descriptor.isOf_toRecord reference⟩

/-- A canonical reference leads to one slot. -/
theorem Gathered.nodup_primaries (gathered : registry.Gathered)
    : (registry.records.map TypeRecord.primary).Nodup := by
  rw [List.Nodup, List.pairwise_map, List.pairwise_iff_getElem]
  intro left right insideLeft insideRight before same
  have leads := gathered.findKey_primary (List.getElem?_eq_getElem insideLeft)
  rw [same, gathered.findKey_primary (List.getElem?_eq_getElem insideRight)] at leads
  exact Nat.ne_of_lt before (Option.some.inj leads).symm

/-- Whatever the catalogue and the seeds are, discovery into an empty registry leaves one record of
a descriptor for each canonical reference that it registers, and the reference leads to the record.
Witness: canonical references without a position agree only if they are one.
-/
theorem discover_registers_once (catalog : Catalog) (seeds : List Reference)
    : let registry := (empty.discover catalog seeds).registry
      (registry.records.Pairwise fun left right => left.primary.agrees right.primary = false)
      ∧ (∀ record ∈ registry.records, ∃ descriptor ∈ catalog, record.IsOf descriptor)
      ∧ ∀ slot record,
          registry.get? slot = some record → registry.find record.primary = some slot := by
  intro registry
  have gathered : registry.Gathered := gathered_discover catalog seeds
  have recordsOf : registry.RecordsOf catalog := by
    refine recordsOf_discoverFrom gathered_empty ?_ [] seeds
    exact fun record member => absurd member List.not_mem_nil
  refine ⟨?_, recordsOf, ?_⟩
  · refine (List.pairwise_map.mp gathered.nodup_primaries).imp_of_mem ?_
    intro left right leftMember rightMember different
    obtain ⟨origin, -, isOf⟩ := recordsOf left leftMember
    obtain ⟨other, -, isOfOther⟩ := recordsOf right rightMember
    rw [Bool.eq_false_iff]
    intro agrees
    rw [isOf.primary, isOfOther.primary] at agrees different
    exact different (Reference.eq_of_agrees agrees rfl)
  · intro slot record found
    rw [find_of_isKey (gathered.found found).1]
    exact gathered.findKey_primary found

end Registry
end SchemaGraph
