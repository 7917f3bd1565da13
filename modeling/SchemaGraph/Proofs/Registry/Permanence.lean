import Mathlib.Data.List.Basic
import SchemaGraph.Proofs.Registry.Ownership
import SchemaGraph.Proofs.Registry.References

/-! What is registered stays registered.
For each canonical reference that was ever registered there is one record, in the slot that its type
was given first, and the reference leads there. This takes that no type carries a reference that
agrees with the canonical reference of a type that comes in later: that one would be stored over it.
-/

namespace SchemaGraph.Registry

variable {registry before after : Registry} {slot : Slot} {record : TypeRecord}
variable {records : List TypeRecord}

/-- The records that the operations register, in order. -/
def registrations (changes : List Change) : List TypeRecord :=
  changes.filterMap fun
    | .register record => some record
    | _ => none

/-- Where in the order of registration the type comes in. -/
def firstAt (records : List TypeRecord) (canonical : Reference) : Nat :=
  (records.map TypeRecord.primary).idxOf canonical

/-- What a type carries agrees with the canonical reference of no type that comes in later. Records
with one canonical reference are of one type.
-/
structure Unclaimed (records : List TypeRecord) : Prop where
  keyed : ∀ record ∈ records, isKey record.primary = true
  apart
    : ∀ owner ∈ records,
        ∀ later ∈ records,
          firstAt records owner.primary < firstAt records later.primary
          → ∀ reference ∈ owner.references, reference.agrees later.primary = false

/-- One record has the canonical reference, and is found by it. -/
def Holds (registry : Registry) (canonical : Reference) : Prop :=
  ∃ slot,
    registry.find canonical = some slot
    ∧ ∀ other,
        (∃ record, registry.get? other = some record ∧ record.primary = canonical)
        ↔ other = slot

-----------------------------------------------------------------------------------------
-- The order in which types come in
-----------------------------------------------------------------------------------------

/-- What was registered was registered somewhere. -/
theorem firstAt_lt_length (member : record ∈ records)
    : firstAt records record.primary < records.length := by
  have inside := List.idxOf_lt_length_of_mem (List.mem_map_of_mem (f := TypeRecord.primary) member)
  rwa [List.length_map] at inside

/-- Later registrations do not change where a type came in. -/
theorem firstAt_append (member : record ∈ records) (later : List TypeRecord)
    : firstAt (records ++ later) record.primary = firstAt records record.primary := by
  rw [firstAt, List.map_append, List.idxOf_append_of_mem (List.mem_map_of_mem member)]
  rfl

/-- A type that is new comes in behind all others. -/
theorem firstAt_append_new (new : ∀ earlier ∈ records, earlier.primary ≠ record.primary)
    : firstAt (records ++ [record]) record.primary = records.length := by
  have absent : record.primary ∉ records.map TypeRecord.primary := by
    intro member
    obtain ⟨earlier, known, same⟩ := List.mem_map.mp member
    exact new earlier known same
  rw [firstAt, List.map_append, List.idxOf_append_of_notMem absent]
  simp

/-- What is not claimed by later registrations either is not claimed by the first ones. -/
theorem Unclaimed.of_append {later : List TypeRecord} (unclaimed : Unclaimed (records ++ later))
    : Unclaimed records where
  keyed record member := unclaimed.keyed record (List.mem_append_left later member)
  apart owner ownerMember other otherMember earlier := by
    refine unclaimed.apart owner (List.mem_append_left later ownerMember) other
      (List.mem_append_left later otherMember) ?_
    rwa [firstAt_append ownerMember, firstAt_append otherMember]

-----------------------------------------------------------------------------------------
-- What operations keep
-----------------------------------------------------------------------------------------

/-- What holds after these records were registered: there is a record for the type of each of them,
in the order in which the types came in. The canonical reference is a key that leads to it, and
other keys lead to the type that brought them in, be it by an earlier record.
-/
structure Retains (registry : Registry) (records : List TypeRecord) : Prop where
  stored : ∀ record ∈ registry.records, record ∈ records
  owned
    : ∀ ⦃slot record⦄,
        registry.get? slot = some record
        → (record.primary, slot) ∈ registry.byReference.keys
  kept
    : ∀ earlier ∈ records,
        ∃ slot record, registry.get? slot = some record ∧ record.primary = earlier.primary
  brought
    : ∀ key ∈ registry.byReference.keys,
        ∃ record,
          registry.get? key.2 = some record
          ∧ ∃ earlier ∈ records,
              earlier.primary = record.primary ∧ key.1 ∈ earlier.references
  ordered
    : ∀ ⦃slot record⦄,
        registry.get? slot = some record
        → ∀ ⦃other later⦄,
            registry.get? other = some later
            → slot < other
            → firstAt records record.primary < firstAt records later.primary

/-- Nothing was registered in an empty registry. -/
theorem retains_empty : empty.Retains [] where
  stored _ member := member
  owned slot record here := by simp [empty, get?] at here
  kept _ member := absurd member List.not_mem_nil
  brought _ member := absurd member List.not_mem_nil
  ordered slot record here := by simp [empty, get?] at here

/-- The canonical reference of a type is a key of it, so it leads there. -/
theorem Retains.leads (retains : registry.Retains records)
    (found : registry.get? slot = some record)
    : registry.findKey record.primary = some slot :=
  KeyTable.find_of_mem (retains.owned found)

/-- The type of each registered record is held.
Witness: its canonical reference leads to the slot that it is in, and so to no other one.
-/
theorem Retains.holds (retains : registry.Retains records) (unclaimed : Unclaimed records)
    {earlier : TypeRecord} (member : earlier ∈ records)
    : registry.Holds earlier.primary := by
  obtain ⟨slot, record, here, same⟩ := retains.kept earlier member
  have leads := retains.leads here
  refine ⟨slot, ?_, ?_⟩
  · rw [find_of_isKey (unclaimed.keyed earlier member), ← same]
    exact leads
  · intro other
    constructor
    · rintro ⟨stored, there, alike⟩
      have leadsOther := retains.leads there
      rw [alike, ← same, leads] at leadsOther
      exact (Option.some.inj leadsOther).symm
    · rintro rfl
      exact ⟨record, here, same⟩

/-- A slot that is stored over held a record of the same type, and one that is new is the last one
and holds a type that was not there.
-/
structure Fits (before : Registry) (records : List TypeRecord) (slot : Slot) (record : TypeRecord)
    : Prop where
  replaces : ∀ earlier, before.get? slot = some earlier → earlier.primary = record.primary
  appends
    : before.get? slot = none
      → before.size = slot ∧ ∀ earlier ∈ records, earlier.primary ≠ record.primary

/-- The slots stay in the order in which their types came in.
Witness: after the store a slot holds a type that it held before, or it is the last one and holds
the type that came in last.
-/
theorem Retains.ordered_store (retains : before.Retains records)
    (stores : Stores before slot record after) (fits : Fits before records slot record)
    {left right : Slot} {earlier later : TypeRecord} (here : after.get? left = some earlier)
    (there : after.get? right = some later) (less : left < right)
    : firstAt (records ++ [record]) earlier.primary
      < firstAt (records ++ [record]) later.primary := by
  have origin {other : Slot} {held : TypeRecord} (holds : after.get? other = some held)
      : (∃ old ∈ records, before.get? other = some old ∧ old.primary = held.primary)
        ∨ (before.size = other
            ∧ firstAt (records ++ [record]) held.primary = records.length) := by
    rcases stores.get?_cases holds with ⟨rfl, rfl⟩ | ⟨-, old⟩
    · rcases Option.eq_none_or_eq_some (before.get? other) with found | ⟨old, found⟩
      · obtain ⟨last, new⟩ := fits.appends found
        exact Or.inr ⟨last, firstAt_append_new new⟩
      · exact Or.inl ⟨old, retains.stored old (mem_records_of_get? found), found,
          fits.replaces old found⟩
    · exact Or.inl ⟨held, retains.stored held (mem_records_of_get? old), old, rfl⟩
  rcases origin here with ⟨first, firstMember, firstHere, alike⟩ | ⟨last, -⟩
  · rw [← alike, firstAt_append firstMember]
    rcases origin there with ⟨second, secondMember, secondHere, same⟩ | ⟨-, behind⟩
    · rw [← same, firstAt_append secondMember]
      exact retains.ordered firstHere secondHere less
    · rw [behind]
      exact firstAt_lt_length firstMember
  · have beyond : before.size < right := last ▸ less
    rcases origin there with ⟨second, -, secondHere, -⟩ | ⟨same, -⟩
    · exact absurd (Nat.lt_trans beyond (lt_size_of_get? secondHere)) (Nat.lt_irrefl _)
    · exact absurd beyond (same ▸ Nat.lt_irrefl _)

/-- Storing a record that fits retains all the others.
Witness: a record that fits replaces only one with its own canonical reference.
-/
theorem Retains.store (retains : before.Retains records)
    (stores : Stores before slot record after) (fits : Fits before records slot record)
    (own : (record.primary, slot) ∈ after.byReference.keys)
    : after.Retains (records ++ [record]) := by
  have keeps := stores.keepsTypes fits.replaces
  refine ⟨?_, ?_, ?_, ?_, ?_⟩
  · refine stores.forall_records ?_ (by simp)
    exact fun earlier member => List.mem_append_left _ (retains.stored earlier member)
  · intro other later here
    rcases stores.get?_cases here with ⟨rfl, rfl⟩ | ⟨-, old⟩
    · exact own
    · exact stores.byReference (retains.owned old)
  · intro earlier member
    rcases List.mem_append.mp member with old | added
    · obtain ⟨other, stored, here, same⟩ := retains.kept earlier old
      obtain ⟨later, there, alike⟩ := keeps here
      exact ⟨other, later, there, alike.trans same⟩
    · cases List.mem_singleton.mp added
      exact ⟨slot, record, stores.self, rfl⟩
  · intro key member
    rcases stores.keys key member with old | ⟨carried, same⟩
    · obtain ⟨stored, here, earlier, known, same, carried⟩ := retains.brought key old
      obtain ⟨later, there, alike⟩ := keeps here
      exact ⟨later, there, earlier, List.mem_append_left _ known, same.trans alike.symm, carried⟩
    · exact ⟨record, same ▸ stores.self, record, by simp, rfl, carried⟩
  · intro left earlier here right later there
    exact retains.ordered_store stores fits here there

/-- A canonical reference that leads somewhere leads to its own type.
Witness: a type that came in before is found at its slot. For a new one, a key that agrees with its
canonical reference would have been brought in by a type that came in before.
-/
theorem Retains.primary_of_leads (retains : registry.Retains records)
    (unclaimed : Unclaimed (records ++ [record]))
    (leads : registry.findKey record.primary = some slot)
    : ∃ stored, registry.get? slot = some stored ∧ stored.primary = record.primary := by
  by_cases known : ∃ earlier ∈ records, earlier.primary = record.primary
  · obtain ⟨earlier, member, same⟩ := known
    obtain ⟨own, stored, here, alike⟩ := retains.kept earlier member
    have leadsOwn := retains.leads here
    rw [alike, same, leads] at leadsOwn
    cases Option.some.inj leadsOwn
    exact ⟨stored, here, alike.trans same⟩
  · obtain ⟨key, inside, agrees, rfl⟩ := exists_mem_of_findKey leads
    obtain ⟨stored, here, earlier, member, same, carried⟩ := retains.brought key inside
    have later
        : firstAt (records ++ [record]) earlier.primary
          < firstAt (records ++ [record]) record.primary := by
      rw [firstAt_append member,
        firstAt_append_new fun other among equal => known ⟨other, among, equal⟩]
      exact firstAt_lt_length member
    rw [unclaimed.apart earlier (List.mem_append_left _ member) record (by simp) later key.1
      carried] at agrees
    cases agrees

/-- A registration retains all records, of which it adds one.
Witness: a type that is known is replaced by one with its canonical reference, and one that is new
comes last.
-/
theorem Retains.register (retains : registry.Retains records)
    (unclaimed : Unclaimed (records ++ [record]))
    : (registry.register record).1.Retains (records ++ [record])
      ∧ KeepsTypes registry (registry.register record).1 := by
  cases leads : registry.findKey record.primary with
  | none =>
      have stores := stores_register_of_none leads
      have own := mem_keys_register_of_none leads (unclaimed.keyed record (by simp))
      have fits : Fits registry records registry.size record := by
        refine ⟨?_, fun _ => ⟨rfl, ?_⟩⟩
        · intro earlier here
          exact absurd (lt_size_of_get? here) (Nat.lt_irrefl registry.size)
        · intro earlier member same
          obtain ⟨slot, stored, here, alike⟩ := retains.kept earlier member
          rw [← same, ← alike, retains.leads here] at leads
          cases leads
      exact ⟨retains.store stores fits own, stores.keepsTypes fits.replaces⟩
  | some slot =>
      obtain ⟨stored, here, same⟩ := retains.primary_of_leads unclaimed leads
      have stores := stores_register_of_some leads (lt_size_of_get? here)
      have fits : Fits registry records slot record := by
        constructor <;> simp [here, same]
      exact ⟨retains.store stores fits (stores.byReference (same ▸ retains.owned here)),
        stores.keepsTypes fits.replaces⟩

/-- Rebuilding keeps the canonical references at their types.
Witness: in the order of the slots, the canonical reference of a type is met at its own slot first.
-/
theorem Retains.rebuild (retains : registry.Retains records) (unclaimed : Unclaimed records)
    : registry.rebuild.Retains records := by
  refine ⟨?_, ?_, ?_, ?_, ?_⟩
  · simpa using retains.stored
  · intro slot record here
    have found : registry.get? slot = some record := by simpa using here
    have member := retains.stored record (mem_records_of_get? found)
    obtain ⟨key, inside, agrees, notLater⟩ :=
      exists_key_rebuild found List.mem_cons_self (unclaimed.keyed record member)
    obtain ⟨owner, there, carried⟩ := mem_byReference_rebuild inside
    rcases Nat.lt_or_eq_of_le notLater with earlier | own
    · have ownerMember := retains.stored owner (mem_records_of_get? there)
      rw [unclaimed.apart owner ownerMember record member (retains.ordered there found earlier)
        key.1 carried] at agrees
      cases agrees
    · obtain ⟨reference, holder⟩ := key
      cases own
      cases Option.some.inj (found.symm.trans there)
      rwa [← record.eq_primary_of_agrees carried agrees]
  · intro earlier member
    obtain ⟨slot, record, here, same⟩ := retains.kept earlier member
    exact ⟨slot, record, by simpa using here, same⟩
  · intro key inside
    obtain ⟨record, here, carried⟩ := mem_byReference_rebuild inside
    have member := retains.stored record (mem_records_of_get? here)
    exact ⟨record, by simpa using here, record, member, rfl, carried⟩
  · simpa using retains.ordered

-----------------------------------------------------------------------------------------
-- Histories
-----------------------------------------------------------------------------------------

theorem registrations_append (earlier later : List Change)
    : registrations (earlier ++ later) = registrations earlier ++ registrations later :=
  List.filterMap_append

/-- So does every operation, by its cases. -/
theorem Retains.apply (retains : registry.Retains records) (change : Change)
    (unclaimed : Unclaimed (records ++ registrations [change]))
    : (registry.apply change).Retains (records ++ registrations [change])
      ∧ KeepsTypes registry (registry.apply change) := by
  cases change with
  | register record => exact retains.register unclaimed
  | registerName slot =>
      rw [show registrations [.registerName slot] = [] from rfl, List.append_nil]
      simp only [Registry.apply]
      split
      · next named done =>
          rcases registerName_cases done with rfl | ⟨-, -, -, -, -, rfl⟩
          · exact ⟨retains, .of_records rfl⟩
          · exact ⟨{ retains with }, .of_records rfl⟩
      · exact ⟨retains, .of_records rfl⟩
  | rebuild =>
      rw [show registrations [.rebuild] = [] from rfl, List.append_nil] at unclaimed ⊢
      exact ⟨retains.rebuild unclaimed, .of_records registry.records_rebuild⟩

/-- So do all operations, by induction on them. -/
theorem Retains.applyAll (retains : registry.Retains records) (changes : List Change)
    (unclaimed : Unclaimed (records ++ registrations changes))
    : (registry.applyAll changes).Retains (records ++ registrations changes)
      ∧ KeepsTypes registry (registry.applyAll changes) := by
  induction changes generalizing registry records with
  | nil =>
      rw [show registrations [] = [] from rfl, List.append_nil]
      exact ⟨retains, .of_records rfl⟩
  | cons change rest ih =>
      rw [← List.singleton_append, registrations_append, ← List.append_assoc] at unclaimed ⊢
      obtain ⟨step, keeps⟩ := retains.apply change unclaimed.of_append
      obtain ⟨final, further⟩ := ih step unclaimed
      exact ⟨final, keeps.trans further⟩

/-- Whatever the operations are: if no type claims the canonical reference of one that comes in
later, there is one record for each canonical reference that was ever registered, it is found by the
reference, and a slot that was given to a type is never taken by another one.
-/
theorem registered_holds {changes : List Change} (unclaimed : Unclaimed (registrations changes))
    : let registry := empty.applyAll changes
      (∀ record ∈ registrations changes, registry.Holds record.primary)
      ∧ ∀ earlier, earlier <+: changes → KeepsTypes (empty.applyAll earlier) registry := by
  intro registry
  constructor
  · intro record member
    exact (retains_empty.applyAll changes unclaimed).1.holds unclaimed member
  · rintro earlier ⟨later, rfl⟩
    rw [registrations_append] at unclaimed
    have before := (retains_empty.applyAll earlier unclaimed.of_append).1
    have keeps := (before.applyAll later unclaimed).2
    rwa [applyAll, applyAll, ← List.foldl_append] at keeps

/-- A scalar type that can also be found by these references. -/
def scalarType (name : String) (synonyms : List Reference) : TypeRecord :=
  TypeRecord.new (.scalar ⟨⟨⟨name⟩, some name, none, RuntimeType.object⟩⟩) synonyms []
    Discovered.nothing

/-- Two types with aliases, the second one found by the canonical reference of the first. The first
one is stored again with a further alias after both were named and indexed anew.
-/
def amended : List Change :=
  [
    .register (scalarType "First" [.schema ⟨"Former"⟩]),
    .register (scalarType "Second" [.schema ⟨"First"⟩, .named "Latter" .input]),
    .registerName 0,
    .registerName 1,
    .rebuild,
    .register (scalarType "First" [.schema ⟨"Former"⟩, .named "Latter" .output]),
    .rebuild
  ]

theorem amended_holds
    : Unclaimed (registrations amended)
      ∧ (empty.applyAll amended).Holds (.schema ⟨"First"⟩)
      ∧ (empty.applyAll amended).Holds (.schema ⟨"Second"⟩) := by
  have unclaimed : Unclaimed (registrations amended) := ⟨by decide, by decide⟩
  have holds := (registered_holds unclaimed).1
  exact ⟨unclaimed,
    holds (scalarType "First" [.schema ⟨"Former"⟩]) (by simp [registrations, amended]),
    holds (scalarType "Second" [.schema ⟨"First"⟩, .named "Latter" .input])
      (by simp [registrations, amended])⟩

/-- A type that can be found by the canonical reference of another one, which comes next. -/
def displaced : List Change :=
  [.register (scalarType "First" [.schema ⟨"Second"⟩]), .register (scalarType "Second" [])]

/-- The second type is stored over the first one, of which no record is left. -/
theorem displaced_not_held
    : ¬∀ record ∈ registrations displaced, (empty.applyAll displaced).Holds record.primary := by
  intro all
  obtain ⟨slot, -, only⟩ :=
    all (scalarType "First" [.schema ⟨"Second"⟩]) (by simp [registrations, displaced])
  obtain ⟨record, here, same⟩ := (only slot).mpr rfl
  have names
      : (empty.applyAll displaced).records.map TypeRecord.primary = [.schema ⟨"Second"⟩] := by
    decide
  have member := List.mem_map_of_mem (f := TypeRecord.primary) (mem_records_of_get? here)
  rw [names, same] at member
  revert member
  decide

end SchemaGraph.Registry
