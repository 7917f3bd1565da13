import SchemaGraph.Proofs.Data.Entries
import SchemaGraph.Proofs.Registry.Indexes

/-! Registries that operations have built.
Every registry stems from the empty one by registrations, name registrations and rebuildings. In
all of them, whatever the records are, no look-up leads beyond the last slot.
-/

namespace SchemaGraph.Registry

/-- One operation on a registry. -/
inductive Change where
  | register (record : TypeRecord)
  | registerName (slot : Slot)
  | rebuild

/-- The registry after the operation. A name that is taken already changes nothing. -/
def apply (registry : Registry) : Change → Registry
  | .register record => (registry.register record).1
  | .registerName slot =>
      match registry.registerName slot with
      | .ok named => named
      | .error _ => registry
  | .rebuild => registry.rebuild

def applyAll (registry : Registry) (changes : List Change) : Registry :=
  changes.foldl apply registry

/-- Whether operations lead from the empty registry to this one. -/
def IsBuilt (registry : Registry) : Prop :=
  ∃ changes, registry = empty.applyAll changes

/-- Every index leads to slots that hold a record. -/
structure Bounded (registry : Registry) : Prop where
  byReference : ∀ key ∈ registry.byReference.keys, key.2 < registry.size
  byRuntime : ∀ entry ∈ registry.byRuntime, entry.slot < registry.size
  byName : ∀ entry ∈ registry.byName, entry.2 < registry.size

/-- What the operations keep, every sequence of them keeps. -/
theorem applyAll_induction {holds : Registry → Prop}
    (step : ∀ registry change, holds registry → holds (registry.apply change))
    (changes : List Change) {registry : Registry} (start : holds registry)
    : holds (registry.applyAll changes) := by
  induction changes generalizing registry with
  | nil => exact start
  | cons change rest ih => exact ih (step registry change start)

-----------------------------------------------------------------------------------------
-- No operation lets an index lead too far
-----------------------------------------------------------------------------------------

/-- Indexing a type that is there leads nowhere else. -/
theorem Bounded.index {registry : Registry} (bounded : registry.Bounded) {slot : Slot}
    (inside : slot < registry.size) (record : TypeRecord)
    : (registry.index slot record).Bounded where
  byReference key member := by
    rcases mem_byReference_index member with old | ⟨-, same⟩
    · exact bounded.byReference key old
    · exact same ▸ inside
  byRuntime entry member := by
    rcases mem_byRuntime_index member with old | same
    · exact bounded.byRuntime entry old
    · exact same ▸ inside
  byName := bounded.byName

/-- With more types, the indexes lead inside all the more. -/
theorem Bounded.withRecords {registry : Registry} (bounded : registry.Bounded)
    {records : List TypeRecord} (longer : registry.size ≤ records.length)
    : Bounded { registry with records } where
  byReference key member := Nat.lt_of_lt_of_le (bounded.byReference key member) longer
  byRuntime entry member := Nat.lt_of_lt_of_le (bounded.byRuntime entry member) longer
  byName entry member := Nat.lt_of_lt_of_le (bounded.byName entry member) longer

/-- Witness: a record is stored over one that a key leads to, or in the slot behind all others. -/
theorem Bounded.register {registry : Registry} (bounded : registry.Bounded)
    (record : TypeRecord)
    : (registry.register record).1.Bounded := by
  cases found : registry.findKey record.primary with
  | some slot =>
      obtain ⟨key, member, -, rfl⟩ := exists_mem_of_findKey found
      rw [register_of_some found]
      have sized : (registry.records.set key.2 record).length = registry.size :=
        List.length_set
      refine (bounded.withRecords (Nat.le_of_eq sized.symm)).index ?_ record
      exact Nat.lt_of_lt_of_eq (bounded.byReference key member) sized.symm
  | none =>
      rw [register_of_none found]
      have sized : (registry.records ++ [record]).length = registry.size + 1 := by
        simp [size]
      refine (bounded.withRecords (by omega)).index ?_ record
      exact Nat.lt_of_lt_of_eq (Nat.lt_succ_self _) sized.symm

/-- A name is registered for a type that there is. -/
theorem Bounded.registerName {registry named : Registry} (bounded : registry.Bounded)
    {slot : Slot} (done : registry.registerName slot = .ok named)
    : named.Bounded := by
  rcases registerName_cases done with rfl | ⟨record, key, found, -, -, rfl⟩
  · exact bounded
  · refine ⟨bounded.byReference, bounded.byRuntime, ?_⟩
    intro entry member
    rcases Entries.mem_insert member with old | rfl
    · exact bounded.byName entry old
    · exact lt_size_of_get? found

/-- Rebuilt indexes lead to the types that they were made from. -/
theorem Bounded.rebuild {registry : Registry} (bounded : registry.Bounded)
    : registry.rebuild.Bounded where
  byReference key member := by
    obtain ⟨record, found, -⟩ := mem_byReference_rebuild member
    rw [size_rebuild]
    exact lt_size_of_get? found
  byRuntime entry member := by
    obtain ⟨record, found⟩ := mem_byRuntime_rebuild member
    rw [size_rebuild]
    exact lt_size_of_get? found
  byName entry member := by
    rw [size_rebuild]
    exact bounded.byName entry (List.mem_filter.mp member).1

/-- Every operation leaves the indexes leading inside. -/
theorem Bounded.apply {registry : Registry} (bounded : registry.Bounded) (change : Change)
    : (registry.apply change).Bounded := by
  cases change with
  | register record => exact bounded.register record
  | rebuild => exact bounded.rebuild
  | registerName slot =>
      simp only [Registry.apply]
      split
      · next named done => exact bounded.registerName done
      · exact bounded

/-- So do all of them, by induction. -/
theorem Bounded.applyAll {registry : Registry} (bounded : registry.Bounded)
    (changes : List Change)
    : (registry.applyAll changes).Bounded :=
  applyAll_induction (fun _ change kept => kept.apply change) changes bounded

theorem bounded_empty : empty.Bounded where
  byReference _ member := absurd member List.not_mem_nil
  byRuntime _ member := absurd member List.not_mem_nil
  byName _ member := absurd member List.not_mem_nil

/-- So the indexes lead inside a registry that operations have built. -/
theorem IsBuilt.bounded {registry : Registry} (built : registry.IsBuilt)
    : registry.Bounded := by
  obtain ⟨changes, rfl⟩ := built
  exact bounded_empty.applyAll changes

-----------------------------------------------------------------------------------------
-- Look-ups in a registry with such indexes
-----------------------------------------------------------------------------------------

/-- A key leads to a type that there is. -/
theorem Bounded.findKey_lt {registry : Registry} (bounded : registry.Bounded)
    {reference : Reference} {slot : Slot}
    (found : registry.findKey reference = some slot)
    : slot < registry.size := by
  obtain ⟨key, member, -, rfl⟩ := exists_mem_of_findKey found
  exact bounded.byReference key member

/-- So does a host type. -/
theorem Bounded.findRuntime_lt {registry : Registry} (bounded : registry.Bounded)
    {type : RuntimeType} {position : Position} {scope : Option String} {slot : Slot}
    (found : registry.findRuntime type position scope = some slot)
    : slot < registry.size := by
  obtain ⟨entry, first, rfl⟩ := Option.map_eq_some_iff.mp found
  exact bounded.byRuntime entry (List.mem_of_find?_eq_some first)

/-- So does a name. -/
theorem Bounded.findByName_lt {registry : Registry} (bounded : registry.Bounded)
    {name : String} {slot : Slot} (found : registry.findByName name = some slot)
    : slot < registry.size :=
  bounded.byName (name, slot) (Entries.mem_of_get? found)

/-- So does a reference, whichever index it is looked up in. -/
theorem Bounded.find_lt {registry : Registry} (bounded : registry.Bounded)
    {reference : Reference} {slot : Slot} (found : registry.find reference = some slot)
    : slot < registry.size := by
  unfold find at found
  split at found
  · exact bounded.findRuntime_lt found
  · exact bounded.findKey_lt found

/-- The slot of the type that a reference denotes holds a record. -/
theorem Bounded.locate_lt {registry : Registry} (bounded : registry.Bounded)
    {reference : Reference} {slot : Slot} (found : registry.locate reference = some slot)
    : slot < registry.size := by
  unfold locate at found
  split at found
  · rcases Option.or_eq_some_iff.mp found with byKey | ⟨-, byName⟩
    · exact bounded.find_lt byKey
    · exact bounded.findByName_lt byName
  · exact bounded.find_lt found

end SchemaGraph.Registry
