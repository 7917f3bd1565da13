import SchemaGraph.Proofs.Reference.Agreement
import SchemaGraph.Proofs.Registry.Changes

/-! What a registration stores and indexes.
A registration stores its record in one slot, over the record there or behind all others, and leaves
every other slot alone. Whatever the operations on a registry were, the references of each stored
record are in its indexes.
-/

namespace SchemaGraph.Registry

variable {registry before after : Registry} {slot : Slot} {record : TypeRecord}

-----------------------------------------------------------------------------------------
-- The references of a record in the indexes
-----------------------------------------------------------------------------------------

/-- The references of the type are in the indexes: schema and name references lead somewhere, host
types have their entries.
-/
structure Indexed (registry : Registry) (slot : Slot) (record : TypeRecord) : Prop where
  keys
    : ∀ reference ∈ record.references,
        isKey reference = true → (registry.findKey reference).isSome = true
  entries
    : ∀ reference ∈ record.references,
        ∀ entry, entryFor slot record.kind reference = some entry → entry ∈ registry.byRuntime

/-- A type that is indexed can be found by all that it has, if only by what was there before. -/
theorem indexed_index (registry : Registry) (slot : Slot) (record : TypeRecord)
    : (registry.index slot record).Indexed slot record where
  keys _ member key := isSome_findKey_index registry slot member key
  entries reference member entry made := by
    have listed : entry ∈ runtimeEntries slot record :=
      List.mem_append_left _ (List.mem_filterMap.mpr ⟨reference, member, made⟩)
    exact mem_foldl_addEntry_of_mem registry.byRuntime listed

/-- A registered type has all its references indexed, whichever slot it is stored in. -/
theorem indexed_register (registry : Registry) (record : TypeRecord)
    : (registry.register record).1.Indexed (registry.register record).2 record := by
  unfold register
  split <;> exact indexed_index _ _ record

/-- A type stays indexed while the indexes grow. -/
theorem Indexed.grows (indexed : before.Indexed slot record) (grows : Grows before after)
    : after.Indexed slot record where
  keys reference member key := grows.isSome_findKey (indexed.keys reference member key)
  entries reference member entry made :=
    grows.byRuntime.mem (indexed.entries reference member entry made)

/-- So every type is, of those that are indexed one after the other. -/
theorem indexed_indexAll {entries : List (TypeRecord × Slot)} (entered : (record, slot) ∈ entries)
    : (registry.indexAll entries).Indexed slot record := by
  induction entries generalizing registry with
  | nil => cases entered
  | cons entry rest ih =>
      rcases List.mem_cons.mp entered with rfl | later
      · exact (indexed_index registry slot record).grows (grows_indexAll _ rest)
      · exact ih later

/-- So every type is in rebuilt indexes. -/
theorem indexed_rebuild (found : registry.get? slot = some record)
    : registry.rebuild.Indexed slot record := by
  have indexed : (registry.cleared.indexAll registry.records.zipIdx).Indexed slot record :=
    indexed_indexAll (List.mem_zipIdx_iff_getElem?.mpr found)
  exact ⟨indexed.keys, indexed.entries⟩

/-- Every key that a record carries has one that agrees among those of a rebuilt registry, from that
record or an earlier one.
Witness: the key is there as soon as the records up to this one are indexed.
-/
theorem exists_key_rebuild {reference : Reference} (found : registry.get? slot = some record)
    (member : reference ∈ record.references) (key : isKey reference = true)
    : ∃ held ∈ registry.rebuild.byReference.keys,
        held.1.agrees reference = true ∧ held.2 ≤ slot := by
  let front := (registry.records.take (slot + 1)).zipIdx
  obtain ⟨back, split⟩ : ∃ back, registry.records.zipIdx = front ++ back :=
    ⟨_, by rw [← List.zipIdx_append, List.take_append_drop]⟩
  have entered : (record, slot) ∈ front := by
    refine List.mem_zipIdx_iff_getElem?.mpr ?_
    rw [List.getElem?_take_of_lt (Nat.lt_succ_self slot)]
    exact found
  have indexed : (registry.cleared.indexAll front).Indexed slot record := indexed_indexAll entered
  obtain ⟨held, inside, agrees⟩ := isSome_findKey_iff.mp (indexed.keys reference member key)
  have early : held.2 < slot + 1 := by
    rcases mem_byReference_indexAll inside with none | ⟨owner, among, -⟩
    · cases none
    · have bound := List.snd_lt_of_mem_zipIdx among
      rw [Nat.add_zero, List.length_take] at bound
      exact Nat.lt_of_lt_of_le bound (Nat.min_le_left _ _)
  refine ⟨held, ?_, agrees, Nat.le_of_lt_succ early⟩
  rw [byReference_rebuild, split, indexAll_append]
  exact (grows_indexAll _ back).byReference inside

/-- Where a host type is not found although a reference of an indexed type agrees, that one has no
position, and it is indexed for the opposite position.
-/
theorem Indexed.opposed_of_runtime (indexed : registry.Indexed slot record)
    {synonym reference : Reference} (member : synonym ∈ record.references)
    (agrees : synonym.agrees reference = true) {type : RuntimeType}
    (target : reference.target = .runtime type) (nowhere : registry.find reference = none)
    : synonym.position = .any
      ∧ record.kind.position.compatible reference.position = false := by
  obtain ⟨compatible, sameScope, sameTarget⟩ := Reference.agrees_iff.mp agrees
  let position := if synonym.position = .any then record.kind.position else synonym.position
  have entered : ⟨type, position, synonym.scope, slot⟩ ∈ registry.byRuntime :=
    indexed.entries synonym member _ (by simp [entryFor, sameTarget, target, position])
  rw [find, target] at nowhere
  have missed := List.find?_eq_none.mp (Option.map_eq_none_iff.mp nowhere) _ entered
  have opposed : position.compatible reference.position = false := by
    simpa [sameScope] using missed
  by_cases bare : synonym.position = .any
  · exact ⟨bare, by simpa [position, bare] using opposed⟩
  · simp [position, bare, compatible] at opposed

/-- Where a schema identity or a name is not found although a reference of an indexed type agrees,
that one has no position and the other one has: the key that stands for the former is opposed.
-/
theorem Indexed.opposed_of_isKey (indexed : registry.Indexed slot record)
    {synonym reference : Reference} (member : synonym ∈ record.references)
    (agrees : synonym.agrees reference = true) (key : isKey reference = true)
    (nowhere : registry.find reference = none)
    : synonym.position = .any ∧ reference.position ≠ .any := by
  obtain ⟨compatible, sameScope, sameTarget⟩ := Reference.agrees_iff.mp agrees
  have synonymKey : isKey synonym = true := by simpa only [isKey, sameTarget] using key
  obtain ⟨holder, leads⟩ := Option.isSome_iff_exists.mp (indexed.keys synonym member synonymKey)
  obtain ⟨claim, inside, claims, -⟩ := exists_mem_of_findKey leads
  rw [find_of_isKey key] at nowhere
  have unclaimed := not_agrees_of_findKey nowhere inside
  have positioned : reference.position ≠ .any := fun none =>
    unclaimed (Reference.agrees_trans_of_position_any none claims agrees)
  refine ⟨?_, positioned⟩
  by_cases bare : synonym.position = .any
  · exact bare
  · have same : synonym.position = reference.position := by
      simpa [Position.compatible, bare, positioned] using compatible
    exact absurd (Reference.eq_of_agrees agrees same ▸ claims) unclaimed

/-- A reference that leads nowhere may agree with one of an indexed type only if it has a position
and the other one has none.
-/
theorem Indexed.opposed_of_find (indexed : registry.Indexed slot record)
    {synonym reference : Reference} (member : synonym ∈ record.references)
    (agrees : synonym.agrees reference = true) (nowhere : registry.find reference = none)
    : synonym.position = .any
      ∧ reference.position ≠ .any
      ∧ (isKey reference = false
        → record.kind.position.compatible reference.position = false) := by
  cases key : isKey reference with
  | true =>
      obtain ⟨bare, positioned⟩ := indexed.opposed_of_isKey member agrees key nowhere
      exact ⟨bare, positioned, fun noKey => by cases noKey⟩
  | false =>
      unfold isKey at key
      split at key
      · next type target =>
          obtain ⟨bare, opposed⟩ := indexed.opposed_of_runtime member agrees target nowhere
          refine ⟨bare, ?_, fun _ => opposed⟩
          intro none
          simp [none, Position.compatible] at opposed
      · cases key

-----------------------------------------------------------------------------------------
-- One registration
-----------------------------------------------------------------------------------------

/-- The record is stored in the slot, and all other slots are as before. What is new in the indexes
is the record's.
-/
structure Stores (before : Registry) (slot : Slot) (record : TypeRecord) (after : Registry) : Prop
    extends Grows before after where
  self : after.get? slot = some record
  others : ∀ other, slot ≠ other → after.get? other = before.get? other
  keys
    : ∀ key ∈ after.byReference.keys,
        key ∈ before.byReference.keys ∨ (key.1 ∈ record.references ∧ key.2 = slot)
  entries
    : ∀ entry ∈ after.byRuntime,
        entry ∈ before.byRuntime ∨ entry ∈ runtimeEntries slot record
  indexed : after.Indexed slot record

/-- A type that is known by its canonical reference is stored where that leads. -/
theorem stores_register_of_some (leads : registry.findKey record.primary = some slot)
    (inside : slot < registry.size)
    : Stores registry slot record (registry.register record).1 := by
  have stored := get?_register_of_some leads inside
  have indexed := indexed_register registry record
  refine ⟨grows_register registry record, ?_, ?_, ?_, ?_, ?_⟩
  · rw [stored, if_pos rfl]
  · intro other different
    rw [stored, if_neg different]
  · rw [register_of_some leads]
    exact fun key => mem_byReference_index
  · rw [register_of_some leads]
    exact fun entry => mem_foldl_addEntry
  · rwa [register_of_some leads] at indexed ⊢

/-- A type that is not known is stored behind all others. -/
theorem stores_register_of_none (unknown : registry.findKey record.primary = none)
    : Stores registry registry.size record (registry.register record).1 := by
  have indexed := indexed_register registry record
  refine ⟨grows_register registry record, get?_size_register_of_none unknown, ?_, ?_, ?_, ?_⟩
  · intro other different
    rw [register_of_none unknown, get?, records_index]
    by_cases inside : other < registry.size
    · exact List.getElem?_append_left inside
    · have beyond : registry.size < other :=
        Nat.lt_of_le_of_ne (Nat.le_of_not_lt inside) different
      have longer : (registry.records ++ [record]).length ≤ other := by
        rw [List.length_append]
        exact beyond
      rw [get?, List.getElem?_eq_none longer, List.getElem?_eq_none (Nat.le_of_lt beyond)]
  · rw [register_of_none unknown]
    exact fun key => mem_byReference_index
  · rw [register_of_none unknown]
    exact fun entry => mem_foldl_addEntry
  · rwa [register_of_none unknown] at indexed ⊢

/-- After a record was stored, a slot holds what it held before, or is the one of the record. -/
theorem Stores.get?_cases (stores : Stores before slot record after) {other : Slot}
    {later : TypeRecord} (here : after.get? other = some later)
    : (other = slot ∧ later = record) ∨ (slot ≠ other ∧ before.get? other = some later) := by
  by_cases own : slot = other
  · subst own
    rw [stores.self] at here
    exact Or.inl ⟨rfl, (Option.some.inj here).symm⟩
  · exact Or.inr ⟨own, stores.others other own ▸ here⟩

/-- What holds of all types and of the new one holds of all types behind it. -/
theorem Stores.forall_records (stores : Stores before slot record after)
    {holds : TypeRecord → Prop} (old : ∀ earlier ∈ before.records, holds earlier)
    (new : holds record)
    : ∀ later ∈ after.records, holds later := by
  intro later member
  obtain ⟨other, here⟩ := exists_get?_of_mem member
  rcases stores.get?_cases here with ⟨-, rfl⟩ | ⟨-, there⟩
  · exact new
  · exact old later (mem_records_of_get? there)

/-- After a registration every record is an earlier one or the new one, wherever it was stored. -/
theorem forall_records_register {holds : TypeRecord → Prop}
    (old : ∀ earlier ∈ registry.records, holds earlier) (new : holds record)
    : ∀ later ∈ (registry.register record).1.records, holds later := by
  intro later member
  cases leads : registry.findKey record.primary with
  | some slot =>
      rw [register_of_some leads, records_index] at member
      rcases List.mem_or_eq_of_mem_set member with earlier | rfl
      · exact old later earlier
      · exact new
  | none =>
      rw [register_of_none leads, records_index] at member
      rcases List.mem_append.mp member with earlier | own
      · exact old later earlier
      · exact List.mem_singleton.mp own ▸ new

-----------------------------------------------------------------------------------------
-- Types stay in their slots
-----------------------------------------------------------------------------------------

/-- Every slot that held a record holds one of the same type. -/
def KeepsTypes (before after : Registry) : Prop :=
  ∀ ⦃slot record⦄,
    before.get? slot = some record
    → ∃ later, after.get? slot = some later ∧ later.primary = record.primary

theorem KeepsTypes.of_records (same : after.records = before.records)
    : KeepsTypes before after := by
  intro slot record here
  exact ⟨record, by rwa [get?, same], rfl⟩

/-- Types that are kept twice are kept. -/
theorem KeepsTypes.trans {first second third : Registry} (earlier : KeepsTypes first second)
    (later : KeepsTypes second third)
    : KeepsTypes first third := by
  intro slot record here
  obtain ⟨middle, there, same⟩ := earlier here
  obtain ⟨last, found, alike⟩ := later there
  exact ⟨last, found, alike.trans same⟩

/-- Storing keeps the types if it replaces one by one with the same canonical reference. -/
theorem Stores.keepsTypes (stores : Stores before slot record after)
    (replaces : ∀ earlier, before.get? slot = some earlier → earlier.primary = record.primary)
    : KeepsTypes before after := by
  intro other earlier here
  by_cases own : slot = other
  · subst own
    exact ⟨record, stores.self, (replaces earlier here).symm⟩
  · exact ⟨earlier, (stores.others other own).trans here, rfl⟩

/-- Over a record of its type, or in a slot of its own, a record adds its canonical reference. -/
theorem Stores.mem_primaries (stores : Stores before slot record after)
    (replaces : ∀ earlier, before.get? slot = some earlier → earlier.primary = record.primary)
    {canonical : Reference}
    : canonical ∈ after.records.map TypeRecord.primary
      ↔ canonical ∈ before.records.map TypeRecord.primary ∨ canonical = record.primary := by
  constructor
  · intro member
    obtain ⟨later, stored, rfl⟩ := List.mem_map.mp member
    obtain ⟨other, here⟩ := exists_get?_of_mem stored
    rcases stores.get?_cases here with ⟨-, rfl⟩ | ⟨-, old⟩
    · exact Or.inr rfl
    · exact Or.inl (List.mem_map_of_mem (mem_records_of_get? old))
  · rintro (member | rfl)
    · obtain ⟨earlier, known, rfl⟩ := List.mem_map.mp member
      obtain ⟨other, here⟩ := exists_get?_of_mem known
      obtain ⟨later, there, same⟩ := stores.keepsTypes replaces here
      exact same ▸ List.mem_map_of_mem (mem_records_of_get? there)
    · exact List.mem_map_of_mem (mem_records_of_get? stores.self)

-----------------------------------------------------------------------------------------
-- Registries that operations have built
-----------------------------------------------------------------------------------------

/-- Every schema or name reference of a type leads somewhere. -/
def KeysIndexed (registry : Registry) : Prop :=
  ∀ record ∈ registry.records,
    ∀ reference ∈ record.references,
      isKey reference = true → (registry.findKey reference).isSome = true

instance (registry : Registry) : Decidable registry.KeysIndexed :=
  inferInstanceAs (Decidable (∀ record ∈ registry.records, _))

/-- Every stored record has its references in the indexes. -/
def IndexesAll (registry : Registry) : Prop :=
  ∀ ⦃slot record⦄, registry.get? slot = some record → registry.Indexed slot record

/-- Storing a type leaves all types indexed.
Witness: the indexes only grow, and the type is indexed when it is stored.
-/
theorem IndexesAll.store (all : before.IndexesAll) (stores : Stores before slot record after)
    : after.IndexesAll := by
  intro other later here
  rcases stores.get?_cases here with ⟨rfl, rfl⟩ | ⟨-, old⟩
  · exact stores.indexed
  · exact (all old).grows stores.toGrows

/-- Registering a name leaves all types indexed. -/
theorem IndexesAll.registerName (all : registry.IndexesAll) {named : Registry}
    (done : registry.registerName slot = .ok named)
    : named.IndexesAll := by
  have same : named.records = registry.records := by
    rcases registerName_cases done with rfl | ⟨-, -, -, -, -, rfl⟩ <;> rfl
  intro other later here
  have earlier : registry.get? other = some later := by rwa [get?, same] at here
  exact (all earlier).grows (grows_registerName done)

/-- So does every operation. -/
theorem IndexesAll.apply (all : registry.IndexesAll) (bounded : registry.Bounded)
    (change : Change)
    : (registry.apply change).IndexesAll := by
  cases change with
  | register record =>
      cases leads : registry.findKey record.primary with
      | some slot =>
          exact all.store (stores_register_of_some leads (bounded.findKey_lt leads))
      | none => exact all.store (stores_register_of_none leads)
  | registerName slot =>
      simp only [Registry.apply]
      split
      · next named done => exact all.registerName done
      · exact all
  | rebuild =>
      intro slot record here
      exact indexed_rebuild (by simpa [Registry.apply] using here)

/-- So all types are indexed in a registry that operations have built, by induction on these. -/
theorem IsBuilt.indexesAll (built : registry.IsBuilt) : registry.IndexesAll := by
  obtain ⟨changes, rfl⟩ := built
  have start : empty.Bounded ∧ empty.IndexesAll := by
    refine ⟨bounded_empty, ?_⟩
    intro slot record here
    simp [empty, get?] at here
  have step (registry : Registry) (change : Change)
      (kept : registry.Bounded ∧ registry.IndexesAll)
      : (registry.apply change).Bounded ∧ (registry.apply change).IndexesAll :=
    ⟨kept.1.apply change, kept.2.apply kept.1 change⟩
  exact (applyAll_induction step changes start).2

/-- Whatever the operations were, the references of every type are keys or have one that agrees. -/
theorem IsBuilt.keysIndexed (built : registry.IsBuilt) : registry.KeysIndexed := by
  intro record member
  obtain ⟨slot, found⟩ := exists_get?_of_mem member
  exact (built.indexesAll found).keys

/-- In rebuilt indexes, every reference of every type leads somewhere. -/
theorem keysIndexed_rebuild (registry : Registry) : registry.rebuild.KeysIndexed := by
  intro record member
  obtain ⟨slot, found⟩ := exists_get?_of_mem member
  exact (indexed_rebuild (by simpa using found)).keys

end SchemaGraph.Registry
