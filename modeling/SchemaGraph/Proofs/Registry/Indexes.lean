import SchemaGraph.Proofs.Registry.KeyTables
import SchemaGraph.Registry.Canonical

/-! What each operation on a registry does to the records and to the three indexes.
An index entry always stems from a record that was indexed: its slot is the one that the record was
indexed under, and a key is one of the references of the record.
-/

namespace SchemaGraph.Registry

variable {registry : Registry} {slot : Slot} {record : TypeRecord}

-----------------------------------------------------------------------------------------
-- Look-ups in one index
-----------------------------------------------------------------------------------------

/-- What is found was found by a key that agrees. -/
theorem exists_mem_of_findKey {reference : Reference} (h : registry.findKey reference = some slot)
    : ∃ key ∈ registry.byReference.keys, key.1.agrees reference = true ∧ key.2 = slot :=
  KeyTable.exists_mem_of_find h

/-- Where nothing is found, no key agrees. -/
theorem not_agrees_of_findKey {reference : Reference} (h : registry.findKey reference = none)
    {key : Reference × Slot} (member : key ∈ registry.byReference.keys)
    : ¬key.1.agrees reference = true :=
  KeyTable.not_agrees_of_find h member

/-- Only slots that are taken hold types. -/
theorem lt_size_of_get? (h : registry.get? slot = some record) : slot < registry.size :=
  (List.getElem?_eq_some_iff.mp h).1

theorem mem_records_of_get? (h : registry.get? slot = some record)
    : record ∈ registry.records :=
  List.mem_of_getElem? h

theorem exists_get?_of_lt (h : slot < registry.size)
    : ∃ record, registry.get? slot = some record :=
  ⟨registry.records[slot], List.getElem?_eq_getElem h⟩

/-- Every type is in a slot. -/
theorem exists_get?_of_mem (h : record ∈ registry.records)
    : ∃ slot, registry.get? slot = some record :=
  List.mem_iff_getElem?.mp h

theorem mem_slots : slot ∈ registry.slots ↔ slot < registry.size :=
  List.mem_range

-----------------------------------------------------------------------------------------
-- Indexing a record
-----------------------------------------------------------------------------------------

/-- An entry is an old one or one that was added. -/
theorem mem_foldl_addEntry {additions entries : List RuntimeEntry} {entry : RuntimeEntry}
    (h : entry ∈ additions.foldl addEntry entries)
    : entry ∈ entries ∨ entry ∈ additions := by
  induction additions generalizing entries with
  | nil => exact Or.inl h
  | cons addition rest ih =>
      rcases ih h with added | member
      · unfold addEntry at added
        split at added
        · exact Or.inl added
        · rcases List.mem_append.mp added with old | new
          · exact Or.inl old
          · exact Or.inr (by simp [List.mem_singleton.mp new])
      · exact Or.inr (List.mem_cons_of_mem addition member)

/-- Entries are added behind the ones that there are. -/
theorem foldl_addEntry_grows (additions entries : List RuntimeEntry)
    : entries <+: additions.foldl addEntry entries :=
  prefix_foldl id (fun _ _ => prefix_unless _ _ _) additions entries

/-- An entry that is added is there, unless it was there before. -/
theorem mem_foldl_addEntry_of_mem {additions : List RuntimeEntry} (entries : List RuntimeEntry)
    {entry : RuntimeEntry} (h : entry ∈ additions)
    : entry ∈ additions.foldl addEntry entries :=
  absorbing_mem.gains_foldl entries h

/-- The entries of a type lead to its slot, those for its aliases as well as its own one. -/
theorem slot_of_mem_runtimeEntries {entry : RuntimeEntry}
    (h : entry ∈ runtimeEntries slot record)
    : entry.slot = slot := by
  rcases List.mem_append.mp h with byAlias | byOwn
  · obtain ⟨reference, -, found⟩ := List.mem_filterMap.mp byAlias
    unfold entryFor at found
    split at found
    · exact (congrArg RuntimeEntry.slot (Option.some.inj found)).symm
    · cases found
  · split at byOwn
    · rw [List.mem_singleton.mp byOwn]
    · cases byOwn

@[simp] theorem records_index : (registry.index slot record).records = registry.records :=
  rfl

/-- A key is an old one, or a reference of the type that is indexed. -/
theorem mem_byReference_index {key : Reference × Slot}
    (h : key ∈ (registry.index slot record).byReference.keys)
    : key ∈ registry.byReference.keys ∨ (key.1 ∈ record.references ∧ key.2 = slot) :=
  (KeyTable.mem_keys_foldl_add h).imp_right fun ⟨member, same⟩ =>
    ⟨(List.mem_filter.mp member).1, same⟩

/-- An entry is an old one, or leads to the type that is indexed. -/
theorem mem_byRuntime_index {entry : RuntimeEntry}
    (h : entry ∈ (registry.index slot record).byRuntime)
    : entry ∈ registry.byRuntime ∨ entry.slot = slot :=
  (mem_foldl_addEntry h).imp_right slot_of_mem_runtimeEntries

/-- A key among the references of an indexed record is found afterwards. -/
theorem isSome_findKey_index (registry : Registry) (slot : Slot) {reference : Reference}
    (member : reference ∈ record.references) (key : isKey reference = true)
    : ((registry.index slot record).findKey reference).isSome = true := by
  have kept : reference ∈ record.references.filter isKey := List.mem_filter.mpr ⟨member, key⟩
  exact (KeyTable.absorbing_add slot).gains_foldl registry.byReference kept

/-- A record brings no key where all its references lead somewhere. -/
theorem byReference_index_of_isSome
    (found
      : ∀ reference ∈ record.references,
          isKey reference = true → (registry.findKey reference).isSome = true)
    : (registry.index slot record).byReference = registry.byReference := by
  refine (KeyTable.absorbing_add slot).foldl_of_has fun reference kept => ?_
  obtain ⟨carried, key⟩ := List.mem_filter.mp kept
  exact found reference carried key

-----------------------------------------------------------------------------------------
-- Registering a record
-----------------------------------------------------------------------------------------

/-- A record whose canonical reference is found takes the place of the record there. -/
theorem register_of_some (h : registry.findKey record.primary = some slot)
    : registry.register record
      = ({ registry with records := registry.records.set slot record }.index slot record,
          slot) := by
  simp [register, h]

/-- A record whose canonical reference is not found comes behind all others. -/
theorem register_of_none (h : registry.findKey record.primary = none)
    : registry.register record
      = ({ registry with records := registry.records ++ [record] }.index registry.size record,
          registry.size) := by
  simp [register, h]

/-- Such a record changes what its slot holds, and no other slot. -/
theorem get?_register_of_some (h : registry.findKey record.primary = some slot)
    (inside : slot < registry.size) (other : Slot)
    : (registry.register record).1.get? other
      = if slot = other then some record else registry.get? other := by
  have bound : slot < registry.records.length := inside
  simp only [register_of_some h, get?, records_index, List.getElem?_set, bound, if_true]

/-- Nor does a record that is stored over another one where all its references lead somewhere. -/
theorem byReference_register_of_isSome (leads : registry.findKey record.primary = some slot)
    (found
      : ∀ reference ∈ record.references,
          isKey reference = true → (registry.findKey reference).isSome = true)
    : (registry.register record).1.byReference = registry.byReference := by
  rw [register_of_some leads]
  exact @byReference_index_of_isSome { registry with records := registry.records.set slot record }
    slot record found

/-- A type that is new comes last. -/
theorem get?_size_register_of_none (h : registry.findKey record.primary = none)
    : (registry.register record).1.get? registry.size = some record := by
  rw [register_of_none h]
  exact List.getElem?_concat_length

/-- Then the canonical reference of the record becomes a key of its own. -/
theorem mem_keys_register_of_none (h : registry.findKey record.primary = none)
    (key : isKey record.primary = true)
    : (record.primary, registry.size) ∈ (registry.register record).1.byReference.keys := by
  rw [register_of_none h]
  simp only [index, TypeRecord.references, List.filter_cons, key, if_true, List.foldl_cons]
  exact KeyTable.mem_keys_foldl_add_of_mem _ (KeyTable.mem_keys_add.mpr (.inr ⟨h, rfl⟩))

@[simp] theorem byName_register (registry : Registry) (record : TypeRecord)
    : (registry.register record).1.byName = registry.byName := by
  unfold register
  split <;> rfl

-----------------------------------------------------------------------------------------
-- Registering a name
-----------------------------------------------------------------------------------------

/-- A registered name changes nothing but the index of names, and there only its own key. -/
theorem registerName_cases {named : Registry} (h : registry.registerName slot = .ok named)
    : named = registry
      ∨ ∃ record key,
          registry.get? slot = some record
          ∧ nameKey record = some key
          ∧ Entries.get? registry.byName key = none
          ∧ named = { registry with byName := Entries.insert registry.byName key slot } := by
  unfold registerName at h
  split at h
  · exact Or.inl (Except.ok.inj h).symm
  · next key bound =>
      obtain ⟨record, found, same⟩ := Option.bind_eq_some_iff.mp bound
      split at h
      · next free =>
          exact Or.inr ⟨record, key, found, same, free, (Except.ok.inj h).symm⟩
      · split at h
        · exact Or.inl (Except.ok.inj h).symm
        · cases h

/-- After its name was registered, the key of a type leads to the type. -/
theorem get?_byName_registerName {named : Registry} {key : String}
    (h : registry.registerName slot = .ok named) (found : registry.get? slot = some record)
    (same : nameKey record = some key)
    : Entries.get? named.byName key = some slot := by
  have bound : (registry.get? slot).bind nameKey = some key := by rw [found]; exact same
  unfold registerName at h
  rw [bound] at h
  dsimp only at h
  split at h
  · cases Except.ok.inj h
    simp [Entries.get?_insert]
  · next holder taken =>
      split at h
      · next own =>
          cases Except.ok.inj h
          rw [taken, own]
      · cases h

/-- A registered name leads to its type where it led nowhere before.
Witness: the cases of a registration; a key is new, or its type has it already.
-/
theorem get?_byName_of_ok {named : Registry} (h : registry.registerName slot = .ok named)
    (key : String)
    : Entries.get? named.byName key
      = (Entries.get? registry.byName key).or
          (if (registry.get? slot).bind nameKey = some key then some slot else none) := by
  unfold registerName at h
  split at h
  · next unkeyed =>
      cases Except.ok.inj h
      simp [unkeyed]
  · next own keyed =>
      rw [keyed]
      split at h
      · next free =>
          cases Except.ok.inj h
          rw [Entries.get?_insert]
          by_cases same : own = key
          · simp [← same, free]
          · simp [same]
      · next holder taken =>
          split at h
          · next self =>
              cases Except.ok.inj h
              by_cases same : own = key
              · simp [← same, taken, self]
              · simp [same]
          · cases h

/-- A name that cannot be registered has a key that leads to another slot. -/
theorem exists_key_of_error {holder : Slot} (h : registry.registerName slot = .error holder)
    : ∃ key,
        (registry.get? slot).bind nameKey = some key
        ∧ Entries.get? registry.byName key = some holder
        ∧ holder ≠ slot := by
  unfold registerName at h
  split at h
  · cases h
  · next key keyed =>
      split at h
      · cases h
      · next other taken =>
          split at h
          · cases h
          · next different =>
              cases h
              exact ⟨key, keyed, taken, different⟩

/-- A type whose key leads nowhere can register its name, and then only that key is new.
Witness: a type without a key registers nothing, and a key that leads nowhere is stored behind the
others.
-/
theorem registerName_of_free
    (free
      : ∀ key,
          (registry.get? slot).bind nameKey = some key
          → Entries.get? registry.byName key = none)
    : ∃ named,
        registry.registerName slot = .ok named
        ∧ named.byReference = registry.byReference
        ∧ ∀ key other,
            Entries.get? named.byName key = some other
            ↔ Entries.get? registry.byName key = some other
              ∨ other = slot ∧ (registry.get? slot).bind nameKey = some key := by
  cases own : (registry.get? slot).bind nameKey with
  | none => exact ⟨registry, by simp [registerName, own], rfl, by simp⟩
  | some key =>
      have unheld := free key own
      refine ⟨{ registry with byName := Entries.insert registry.byName key slot }, ?_, rfl, ?_⟩
      · simp [registerName, own, unheld]
      · intro held other
        rw [Entries.get?_insert]
        split
        · next same => simp [← same, unheld, eq_comm]
        · next different => simp [different]

-----------------------------------------------------------------------------------------
-- What was found stays found
-----------------------------------------------------------------------------------------

/-- Whatever the first registry finds something by, the second one does, too: it has all its keys,
and its entries for host types go on where those of the first one end.
-/
structure Grows (before after : Registry) : Prop where
  byReference : before.byReference.keys ⊆ after.byReference.keys
  byRuntime : before.byRuntime <+: after.byRuntime

theorem Grows.refl (registry : Registry) : Grows registry registry :=
  ⟨List.Subset.refl _, List.prefix_rfl⟩

/-- Growing twice is growing. -/
theorem Grows.trans {first second third : Registry} (earlier : Grows first second)
    (later : Grows second third)
    : Grows first third :=
  ⟨List.Subset.trans earlier.byReference later.byReference,
    earlier.byRuntime.trans later.byRuntime⟩

/-- Indexing takes no key away, and puts entries behind the old ones. -/
theorem grows_index (registry : Registry) (slot : Slot) (record : TypeRecord)
    : Grows registry (registry.index slot record) :=
  ⟨fun _ => KeyTable.mem_keys_foldl_add_of_mem _, foldl_addEntry_grows _ _⟩

/-- Registering a type only adds to the indexes, whether the type is new or not. -/
theorem grows_register (registry : Registry) (record : TypeRecord)
    : Grows registry (registry.register record).1 := by
  unfold register
  split <;> exact ⟨fun _ => KeyTable.mem_keys_foldl_add_of_mem _, foldl_addEntry_grows _ _⟩

/-- Registering a name leaves the other indexes as they are. -/
theorem grows_registerName {named : Registry} (h : registry.registerName slot = .ok named)
    : Grows registry named := by
  rcases registerName_cases h with rfl | ⟨record, key, -, -, -, rfl⟩
  · exact .refl _
  · exact ⟨List.Subset.refl _, List.prefix_rfl⟩

/-- What leads somewhere goes on doing so. -/
theorem Grows.isSome_findKey {before after : Registry} (grows : Grows before after)
    {reference : Reference} (h : (before.findKey reference).isSome = true)
    : (after.findKey reference).isSome = true := by
  obtain ⟨key, member, agrees⟩ := isSome_findKey_iff.mp h
  exact isSome_findKey_iff.mpr ⟨key, grows.byReference member, agrees⟩

/-- A host type goes on leading where it led, since the first entry wins. -/
theorem Grows.findRuntime {before after : Registry} (grows : Grows before after)
    {type : RuntimeType} {position : Position} {scope : Option String}
    (h : before.findRuntime type position scope = some slot)
    : after.findRuntime type position scope = some slot := by
  obtain ⟨entry, first, same⟩ := Option.map_eq_some_iff.mp h
  exact Option.map_eq_some_iff.mpr ⟨entry, grows.byRuntime.find?_eq_some first, same⟩

/-- What led somewhere leads somewhere still, if perhaps to another slot. -/
theorem Grows.isSome_find {before after : Registry} (grows : Grows before after)
    {reference : Reference} (h : (before.find reference).isSome = true)
    : (after.find reference).isSome = true := by
  unfold Registry.find at h ⊢
  split at h
  · obtain ⟨found, leads⟩ := Option.isSome_iff_exists.mp h
    rw [grows.findRuntime leads]
    rfl
  · exact grows.isSome_findKey h

/-- A reference that is no host type is looked up among the keys. -/
theorem find_of_isKey {reference : Reference} (h : isKey reference = true)
    : registry.find reference = registry.findKey reference := by
  unfold find
  split
  · next type target => simp [isKey, target] at h
  · rfl

/-- What is found by a reference is what the reference denotes. -/
theorem locate_of_find {reference : Reference} (found : registry.find reference = some slot)
    : registry.locate reference = some slot := by
  unfold locate
  split
  · rw [found, Option.some_or]
  · exact found

/-- As long as no name is registered, a reference denotes what is found by it. -/
theorem locate_of_unnamed {reference : Reference} (unnamed : registry.byName = [])
    : registry.locate reference = registry.find reference := by
  unfold locate
  split
  · rw [findByName, unnamed, Entries.get?, List.lookup_nil, Option.or_none]
  · rfl

theorem resolve_of_locate {reference : Reference} (leads : registry.locate reference = some slot)
    : registry.resolve reference = registry.get? slot := by
  rw [resolve, leads]
  rfl

theorem resolve_of_nowhere {reference : Reference} (nowhere : registry.locate reference = none)
    : registry.resolve reference = none := by
  rw [resolve, nowhere]
  rfl

/-- A reference that leads to a type stands for its canonical reference. -/
theorem canonicalOrSelf_of_some {reference : Reference}
    (resolved : registry.resolve reference = some record)
    : registry.canonicalOrSelf reference = record.primary := by
  rw [canonicalOrSelf, resolved]

/-- One that leads nowhere stands for itself. -/
theorem canonicalOrSelf_of_none {reference : Reference}
    (unresolved : registry.resolve reference = none)
    : registry.canonicalOrSelf reference = reference := by
  rw [canonicalOrSelf, unresolved]

-----------------------------------------------------------------------------------------
-- Rebuilding the indexes
-----------------------------------------------------------------------------------------

/-- Indexes records one after the other, each under the slot beside it. -/
def indexAll (registry : Registry) (entries : List (TypeRecord × Slot)) : Registry :=
  entries.foldl (fun sofar entry => sofar.index entry.2 entry.1) registry

/-- The registry without what it finds types by, apart from names. -/
def cleared (registry : Registry) : Registry :=
  { registry with byReference := registry.byReference.cleared, byRuntime := [] }

/-- Indexing changes no type, by induction on the types that are indexed. -/
theorem records_indexAll (registry : Registry) (entries : List (TypeRecord × Slot))
    : (registry.indexAll entries).records = registry.records := by
  induction entries generalizing registry with
  | nil => rfl
  | cons entry rest ih => exact ih (registry.index entry.2 entry.1)

/-- So indexing one type after the other takes nothing away either. -/
theorem grows_indexAll (registry : Registry) (entries : List (TypeRecord × Slot))
    : Grows registry (registry.indexAll entries) := by
  induction entries generalizing registry with
  | nil => exact .refl registry
  | cons entry rest ih => exact (grows_index registry entry.2 entry.1).trans (ih _)

/-- A key is an old one, or a reference of the type that it leads to. -/
theorem mem_byReference_indexAll {entries : List (TypeRecord × Slot)} {key : Reference × Slot}
    (h : key ∈ (registry.indexAll entries).byReference.keys)
    : key ∈ registry.byReference.keys
      ∨ ∃ record, (record, key.2) ∈ entries ∧ key.1 ∈ record.references := by
  induction entries generalizing registry with
  | nil => exact Or.inl h
  | cons entry rest ih =>
      rcases ih h with indexed | ⟨record, member, found⟩
      · rcases mem_byReference_index indexed with old | ⟨found, same⟩
        · exact Or.inl old
        · exact Or.inr ⟨entry.1, by simp [same], found⟩
      · exact Or.inr ⟨record, List.mem_cons_of_mem entry member, found⟩

/-- An entry is an old one, or leads to one of the types that are indexed. -/
theorem mem_byRuntime_indexAll {entries : List (TypeRecord × Slot)} {found : RuntimeEntry}
    (h : found ∈ (registry.indexAll entries).byRuntime)
    : found ∈ registry.byRuntime ∨ ∃ record, (record, found.slot) ∈ entries := by
  induction entries generalizing registry with
  | nil => exact Or.inl h
  | cons entry rest ih =>
      rcases ih h with indexed | ⟨record, member⟩
      · rcases mem_byRuntime_index indexed with old | same
        · exact Or.inl old
        · exact Or.inr ⟨entry.1, by simp [same]⟩
      · exact Or.inr ⟨record, List.mem_cons_of_mem entry member⟩

theorem indexAll_append (registry : Registry) (earlier later : List (TypeRecord × Slot))
    : registry.indexAll (earlier ++ later) = (registry.indexAll earlier).indexAll later :=
  List.foldl_append

@[simp] theorem records_rebuild (registry : Registry)
    : registry.rebuild.records = registry.records :=
  records_indexAll registry.cleared registry.records.zipIdx

@[simp] theorem size_rebuild (registry : Registry) : registry.rebuild.size = registry.size :=
  congrArg List.length registry.records_rebuild

@[simp] theorem get?_rebuild (registry : Registry) (slot : Slot)
    : registry.rebuild.get? slot = registry.get? slot := by
  simp [get?]

theorem byReference_rebuild (registry : Registry)
    : registry.rebuild.byReference
      = (registry.cleared.indexAll registry.records.zipIdx).byReference :=
  rfl

theorem byRuntime_rebuild (registry : Registry)
    : registry.rebuild.byRuntime
      = (registry.cleared.indexAll registry.records.zipIdx).byRuntime :=
  rfl

/-- In rebuilt indexes, every key is a reference of the type that it leads to.
Witness: there are no old keys, since the indexes were cleared before.
-/
theorem mem_byReference_rebuild {key : Reference × Slot}
    (h : key ∈ registry.rebuild.byReference.keys)
    : ∃ record, registry.get? key.2 = some record ∧ key.1 ∈ record.references := by
  rw [byReference_rebuild] at h
  rcases mem_byReference_indexAll h with none | ⟨record, entered, member⟩
  · cases none
  · exact ⟨record, List.mem_zipIdx_iff_getElem?.mp entered, member⟩

/-- In rebuilt indexes, every entry leads to a type. -/
theorem mem_byRuntime_rebuild {entry : RuntimeEntry} (h : entry ∈ registry.rebuild.byRuntime)
    : ∃ record, registry.get? entry.slot = some record := by
  rw [byRuntime_rebuild] at h
  rcases mem_byRuntime_indexAll h with none | ⟨record, entered⟩
  · cases none
  · exact ⟨record, List.mem_zipIdx_iff_getElem?.mp entered⟩

/-- A name survives the rebuilding where the slot still has it.
Witness: induction on the names; the ones that are left out in front of it have other keys.
-/
theorem get?_byName_rebuild {key : String} (held : Entries.get? registry.byName key = some slot)
    (found : registry.get? slot = some record) (same : nameKey record = some key)
    : Entries.get? registry.rebuild.byName key = some slot := by
  have current : (registry.get? slot).bind nameKey = some key := by rw [found]; exact same
  have kept
      : ∀ names : Entries String Slot,
          Entries.get? names key = some slot
          → Entries.get?
              (names.filter fun entry => (registry.get? entry.2).bind nameKey = some entry.1)
              key
            = some slot := by
    intro names
    induction names with
    | nil => exact id
    | cons entry rest ih =>
        obtain ⟨name, holder⟩ := entry
        intro first
        rw [Entries.get?_cons] at first
        split at first
        · next here =>
            subst here
            cases Option.some.inj first
            simp [current]
        · next other =>
            rw [List.filter_cons]
            split
            · rw [Entries.get?_cons, if_neg other]
              exact ih first
            · exact ih first
  exact kept registry.byName held

end SchemaGraph.Registry
