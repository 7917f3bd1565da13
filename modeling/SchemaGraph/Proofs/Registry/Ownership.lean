import SchemaGraph.Proofs.Registry.Storing

/-! Types that own their canonical references.
A registry is anchored when every type is found by its canonical reference, and settled when no
other type carries a reference that agrees with it, either. Storing a type again with the references
it had keeps both. Rebuilding keeps a registry settled: all that agrees with the canonical reference
leads to the type.
-/

namespace SchemaGraph

/-- Records with the same references have the same canonical one. -/
theorem TypeRecord.primary_congr {left right : TypeRecord}
    (h : left.references = right.references)
    : left.primary = right.primary :=
  (List.cons.inj h).1

namespace Registry

variable {registry before after : Registry} {slot : Slot} {record new : TypeRecord}

/-- The references of all types, in slot order. -/
def referenceLists (registry : Registry) : List (List Reference) :=
  registry.records.map TypeRecord.references

/-- No reference of a type agrees with the canonical reference of another type. -/
def CanonicalApart (registry : Registry) : Prop :=
  ∀ ⦃left right : Slot⦄ ⦃owner other : TypeRecord⦄,
    registry.get? left = some owner
    → registry.get? right = some other
    → left ≠ right
    → ∀ reference ∈ owner.references, reference.agrees other.primary = false

/-- Every type is found by its canonical reference. -/
def CanonicalOwned (registry : Registry) : Prop :=
  ∀ ⦃slot : Slot⦄ ⦃record : TypeRecord⦄,
    registry.get? slot = some record → registry.find record.primary = some slot

/-- Every type is found by its canonical reference, which is no host type; and the references of all
types are indexed, as they are whatever built the registry.
-/
structure Anchored (registry : Registry) : Prop where
  keyed : ∀ record ∈ registry.records, isKey record.primary = true
  owned : registry.CanonicalOwned
  indexed : registry.KeysIndexed

/-- Every type is found by its canonical reference, which is no host type and which no other type
claims; and the references of all types are indexed, as they are whatever built the registry.
-/
structure Settled (registry : Registry) : Prop where
  keyed : ∀ record ∈ registry.records, isKey record.primary = true
  owned : registry.CanonicalOwned
  apart : registry.CanonicalApart
  indexed : registry.KeysIndexed

/-- Of a registry that operations have built, only the canonical references are in question. -/
theorem IsBuilt.anchored (built : registry.IsBuilt)
    (keyed : ∀ record ∈ registry.records, isKey record.primary = true)
    (owned : registry.CanonicalOwned)
    : registry.Anchored :=
  ⟨keyed, owned, built.keysIndexed⟩

/-- Where no type claims the canonical reference of another one, each finds its own type. -/
theorem Settled.anchored (settled : registry.Settled) : registry.Anchored :=
  ⟨settled.keyed, settled.owned, settled.indexed⟩

-----------------------------------------------------------------------------------------
-- What depends on the lists of references alone
-----------------------------------------------------------------------------------------

/-- Where the lists of references are the same, a slot holds a type with the same references. -/
theorem exists_get?_of_referenceLists
    (same : after.referenceLists = before.referenceLists)
    (found : before.get? slot = some record)
    : ∃ later, after.get? slot = some later ∧ later.references = record.references := by
  have here : after.referenceLists[slot]? = some record.references := by
    rw [same, referenceLists, List.getElem?_map, show before.records[slot]? = _ from found]
    rfl
  rw [referenceLists, List.getElem?_map] at here
  exact Option.map_eq_some_iff.mp here

theorem CanonicalApart.congr (apart : before.CanonicalApart)
    (same : after.referenceLists = before.referenceLists)
    : after.CanonicalApart := by
  intro left right owner other foundOwner foundOther different reference member
  obtain ⟨earlierOwner, hereOwner, sameOwner⟩ :=
    exists_get?_of_referenceLists same.symm foundOwner
  obtain ⟨earlierOther, hereOther, sameOther⟩ :=
    exists_get?_of_referenceLists same.symm foundOther
  rw [← TypeRecord.primary_congr sameOther]
  exact apart hereOwner hereOther different reference (sameOwner ▸ member)

-----------------------------------------------------------------------------------------
-- Finding by canonical references
-----------------------------------------------------------------------------------------

/-- A canonical reference is a key, so that its type is found among the keys. -/
theorem Anchored.findKey_primary (anchored : registry.Anchored)
    (found : registry.get? slot = some record)
    : registry.findKey record.primary = some slot := by
  rw [← find_of_isKey (anchored.keyed record (mem_records_of_get? found))]
  exact anchored.owned found

/-- Types that are referred to as before and have the same keys are found where they were. -/
theorem Anchored.congr (anchored : before.Anchored)
    (lists : after.referenceLists = before.referenceLists)
    (keys
      : ∀ reference,
          isKey reference = true → after.findKey reference = before.findKey reference)
    : after.Anchored := by
  have earlier {slot : Slot} {record : TypeRecord} (here : after.get? slot = some record)
      : ∃ old, before.get? slot = some old ∧ old.references = record.references :=
    exists_get?_of_referenceLists lists.symm here
  refine ⟨?_, ?_, ?_⟩
  · intro record member
    obtain ⟨slot, here⟩ := exists_get?_of_mem member
    obtain ⟨old, there, same⟩ := earlier here
    exact TypeRecord.primary_congr same ▸ anchored.keyed old (mem_records_of_get? there)
  · intro slot record here
    obtain ⟨old, there, same⟩ := earlier here
    have key := anchored.keyed old (mem_records_of_get? there)
    rw [← TypeRecord.primary_congr same, find_of_isKey key, keys _ key]
    exact anchored.findKey_primary there
  · intro record member reference carried key
    obtain ⟨slot, here⟩ := exists_get?_of_mem member
    obtain ⟨old, there, same⟩ := earlier here
    rw [keys reference key]
    exact anchored.indexed old (mem_records_of_get? there) reference (same ▸ carried) key

theorem CanonicalOwned.resolve_primary (owned : registry.CanonicalOwned)
    (found : registry.get? slot = some record)
    : registry.resolve record.primary = some record :=
  (resolve_of_locate (locate_of_find (owned found))).trans found

/-- It suffices to compare each type with those behind it, both ways.
Witness: of two slots that differ, one is behind the other.
-/
theorem canonicalApart_iff_pairwise
    : registry.CanonicalApart
      ↔ registry.records.Pairwise fun left right =>
          (∀ reference ∈ left.references, reference.agrees right.primary = false)
          ∧ ∀ reference ∈ right.references, reference.agrees left.primary = false := by
  constructor
  · intro apart
    rw [List.pairwise_iff_getElem]
    intro left right insideLeft insideRight before
    have foundLeft : registry.get? left = some registry.records[left] :=
      List.getElem?_eq_getElem insideLeft
    have foundRight : registry.get? right = some registry.records[right] :=
      List.getElem?_eq_getElem insideRight
    exact ⟨apart foundLeft foundRight (Nat.ne_of_lt before),
      apart foundRight foundLeft (Nat.ne_of_gt before)⟩
  · intro pairwise left right owner other foundOwner foundOther different
    obtain ⟨insideLeft, rfl⟩ := List.getElem?_eq_some_iff.mp foundOwner
    obtain ⟨insideRight, rfl⟩ := List.getElem?_eq_some_iff.mp foundOther
    rw [List.pairwise_iff_getElem] at pairwise
    rcases Nat.lt_or_gt_of_ne different with before | behind
    · exact (pairwise left right insideLeft insideRight before).1
    · exact (pairwise right left insideRight insideLeft behind).2

instance (registry : Registry) : Decidable registry.CanonicalApart :=
  decidable_of_iff _ canonicalApart_iff_pairwise.symm

theorem canonicalOwned_iff_zipIdx
    : registry.CanonicalOwned
      ↔ ∀ entry ∈ registry.records.zipIdx, registry.find entry.1.primary = some entry.2 := by
  constructor
  · rintro owned ⟨record, slot⟩ entered
    exact owned (List.mem_zipIdx_iff_getElem?.mp entered)
  · intro all slot record found
    exact all (record, slot) (List.mem_zipIdx_iff_getElem?.mpr found)

instance (registry : Registry) : Decidable registry.CanonicalOwned :=
  decidable_of_iff _ canonicalOwned_iff_zipIdx.symm

/-- A reference of a type that agrees with a canonical reference is one of that very type. -/
theorem CanonicalApart.slot_eq (apart : registry.CanonicalApart) {other : Slot}
    {owner : TypeRecord} (foundOwner : registry.get? other = some owner)
    (found : registry.get? slot = some record) {reference : Reference}
    (member : reference ∈ owner.references) (agrees : reference.agrees record.primary = true)
    : other = slot := by
  by_cases same : other = slot
  · exact same
  · rw [apart foundOwner found same reference member] at agrees
    cases agrees

-----------------------------------------------------------------------------------------
-- Storing a type again
-----------------------------------------------------------------------------------------

/-- Storing a type changes no view of the records in which it looks like the one it replaces. -/
theorem Stores.map_records {β : Type} {view : TypeRecord → β}
    (stores : Stores before slot new after) (found : before.get? slot = some record)
    (alike : view new = view record)
    : after.records.map view = before.records.map view := by
  apply List.ext_getElem?
  intro other
  rw [List.getElem?_map, List.getElem?_map]
  by_cases own : slot = other
  · subst own
    rw [show after.records[slot]? = some new from stores.self,
      show before.records[slot]? = some record from found]
    simp [alike]
  · rw [show after.records[other]? = before.records[other]? from stores.others other own]

/-- Replacing a type adds none. -/
theorem Stores.size_eq (stores : Stores before slot new after)
    (found : before.get? slot = some record)
    : after.size = before.size := by
  have all : after.records.map (fun _ => ()) = before.records.map fun _ => () :=
    stores.map_records found rfl
  simpa [size] using congrArg List.length all

/-- A type with the references of another one replaces it, in the slot that they lead to. -/
theorem Anchored.stores (anchored : registry.Anchored)
    (found : registry.get? slot = some record) (same : new.references = record.references)
    : Stores registry slot new (registry.register new).1 := by
  have leads := anchored.findKey_primary found
  rw [← TypeRecord.primary_congr same] at leads
  exact stores_register_of_some leads (lt_size_of_get? found)

/-- Storing a type again brings no key. -/
theorem Anchored.byReference_register (anchored : registry.Anchored)
    (found : registry.get? slot = some record) (same : new.references = record.references)
    : (registry.register new).1.byReference = registry.byReference := by
  have leads := anchored.findKey_primary found
  rw [← TypeRecord.primary_congr same] at leads
  refine byReference_register_of_isSome leads ?_
  rw [same]
  exact anchored.indexed record (mem_records_of_get? found)

/-- Witness: no key is added, and the canonical references are the ones before. -/
theorem Anchored.register (anchored : registry.Anchored)
    (found : registry.get? slot = some record) (same : new.references = record.references)
    : (registry.register new).1.Anchored := by
  have stores := anchored.stores found same
  refine anchored.congr (stores.map_records found same) fun reference _ => ?_
  rw [findKey, anchored.byReference_register found same, findKey]

/-- Nor is anything claimed anew. -/
theorem Settled.register (settled : registry.Settled)
    (found : registry.get? slot = some record) (same : new.references = record.references)
    : (registry.register new).1.Settled := by
  have anchored := settled.anchored.register found same
  have stores := settled.anchored.stores found same
  exact ⟨anchored.keyed, anchored.owned, settled.apart.congr (stores.map_records found same),
    anchored.indexed⟩

-----------------------------------------------------------------------------------------
-- Rebuilding
-----------------------------------------------------------------------------------------

/-- Witness: the canonical reference of a type is found again, and only by a reference that the type
itself carries.
-/
theorem Settled.rebuild (settled : registry.Settled) : registry.rebuild.Settled := by
  refine ⟨by simpa using settled.keyed, ?_, settled.apart.congr (by simp [referenceLists]),
    registry.keysIndexed_rebuild⟩
  intro slot record here
  have found : registry.get? slot = some record := by simpa using here
  have key := settled.keyed record (mem_records_of_get? found)
  rw [find_of_isKey key]
  obtain ⟨held, inside, agrees, -⟩ := exists_key_rebuild found List.mem_cons_self key
  obtain ⟨first, leads⟩ :=
    Option.isSome_iff_exists.mp (isSome_findKey_iff.mpr ⟨held, inside, agrees⟩)
  obtain ⟨entry, member, agrees, rfl⟩ := exists_mem_of_findKey leads
  obtain ⟨owner, foundOwner, carried⟩ := mem_byReference_rebuild member
  rw [leads, settled.apart.slot_eq foundOwner found carried agrees]

end Registry
end SchemaGraph
