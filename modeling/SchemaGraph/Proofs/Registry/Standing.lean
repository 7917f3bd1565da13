import Mathlib.Logic.Relation
import SchemaGraph.Proofs.Registry.Candidates
import SchemaGraph.Proofs.Registry.Ownership

/-! Look-ups that changes of a type leave alone.
A type is found by its references and by its host type, as its kind and its scope say. A change that
keeps these, its standing, moves no look-up: what the type is indexed by is indexed already, and
rebuilding the indexes gives the same keys. These may lie in other buckets then, so that a reference
without a position leads to another one of the slots that it may lead to.
-/

namespace SchemaGraph

/-- What look-ups depend on in a type, and all that was found out about it at its discovery. -/
structure Standing where
  references : List Reference
  kind : Kind
  runtime : RuntimeType
  isNamedType : Bool
  discovered : Discovered

def TypeRecord.standing (record : TypeRecord) : Standing :=
  ⟨record.references, record.kind, record.runtime, record.isNamedType, record.discovered⟩

/-- A definition of the same outline stands where the former one did. -/
theorem TypeRecord.standing_withDefinition {record : TypeRecord} {definition : Definition}
    (kind : definition.kind = record.kind) (runtime : definition.runtime = record.runtime)
    (isNamedType : definition.isNamedType = record.isNamedType)
    : (record.withDefinition definition).standing = record.standing :=
  (Standing.mk.injEq ..).mpr ⟨rfl, kind, runtime, isNamedType, rfl⟩

namespace Registry

variable {registry before after : Registry} {slot : Slot} {record new : TypeRecord}

def standings (registry : Registry) : List Standing :=
  registry.records.map TypeRecord.standing

/-- Types of one standing are referred to alike. -/
theorem references_congr (same : new.standing = record.standing)
    : new.references = record.references :=
  congrArg Standing.references same

/-- Types of one standing are found by the same host types. -/
theorem runtimeEntries_congr (slot : Slot) (same : new.standing = record.standing)
    : runtimeEntries slot new = runtimeEntries slot record := by
  have kind : new.kind = record.kind := congrArg Standing.kind same
  have runtime : new.runtime = record.runtime := congrArg Standing.runtime same
  have named : new.isNamedType = record.isNamedType := congrArg Standing.isNamedType same
  have discovered : new.discovered = record.discovered := congrArg Standing.discovered same
  rw [runtimeEntries, runtimeEntries, references_congr same, kind, runtime, named, discovered]

/-- Look-ups read nothing but the keys and the entries for host types. -/
theorem find_congr (keys : after.byReference.keys = before.byReference.keys)
    (entries : after.byRuntime = before.byRuntime)
    : after.find = before.find := by
  funext reference
  simp only [find, findKey, KeyTable.find, findRuntime, keys, entries]

-----------------------------------------------------------------------------------------
-- Registries in which nothing has moved
-----------------------------------------------------------------------------------------

/-- Every reference may lead to the slots that it might lead to, and every slot holds a type of the
standing it held.
-/
structure Unshifted (before after : Registry) : Prop where
  mayFind
    : ∀ reference slot, after.MayFind reference slot ↔ before.MayFind reference slot
  standings : after.standings = before.standings

/-- Every reference leads where it led. -/
structure Unmoved (before after : Registry) : Prop extends Unshifted before after where
  find : after.find = before.find

/-- A registry may find what it may find. -/
theorem Unshifted.refl (registry : Registry) : Unshifted registry registry :=
  ⟨fun _ _ => .rfl, rfl⟩

/-- What two changes one after the other leave alone, both together do. -/
theorem Unshifted.trans {first second third : Registry} (earlier : Unshifted first second)
    (later : Unshifted second third)
    : Unshifted first third :=
  ⟨fun reference slot => (later.mayFind reference slot).trans (earlier.mayFind reference slot),
    later.standings.trans earlier.standings⟩

/-- What may be found is the same seen from either side. -/
theorem Unshifted.symm (unshifted : Unshifted before after) : Unshifted after before :=
  ⟨fun reference slot => (unshifted.mayFind reference slot).symm, unshifted.standings.symm⟩

/-- The same look-ups and standings are enough.
Witness: in each position a reference has one answer, so what is found there tells what may be
found.
-/
theorem unmoved_of_find (find : after.find = before.find)
    (standings : after.standings = before.standings)
    : Unmoved before after :=
  ⟨⟨fun _ => mayFind_congr fun _ _ => congrFun find _, standings⟩, find⟩

/-- In the registry itself, everything leads where it leads. -/
theorem Unmoved.refl (registry : Registry) : Unmoved registry registry :=
  unmoved_of_find rfl rfl

/-- Two changes that move nothing move nothing together. -/
theorem Unmoved.trans {first second third : Registry} (earlier : Unmoved first second)
    (later : Unmoved second third)
    : Unmoved first third :=
  unmoved_of_find (later.find.trans earlier.find) (later.standings.trans earlier.standings)

/-- Where nothing has moved, nothing moves on the way back. -/
theorem Unmoved.symm (unmoved : Unmoved before after) : Unmoved after before :=
  unmoved_of_find unmoved.find.symm unmoved.standings.symm

/-- A reference that one slot at most answers leads where it led. -/
theorem Unshifted.find_eq (unshifted : Unshifted before after) {reference : Reference}
    (decides : before.Decides reference)
    : after.find reference = before.find reference :=
  decides.find_congr (unshifted.mayFind reference)

/-- Host types lead where they led. -/
theorem Unshifted.findRuntime_eq (unshifted : Unshifted before after) (type : RuntimeType)
    (position : Position) (scope : Option String)
    : after.findRuntime type position scope = before.findRuntime type position scope := by
  have decides : before.Decides ⟨.runtime type, position, scope⟩ :=
    decides_of_pinned (pinned_of_not_isKey rfl)
  exact unshifted.find_eq decides

/-- A reference leads somewhere if and only if it did before, by the slots that it may lead to. -/
theorem Unshifted.isSome_find (unshifted : Unshifted before after) (reference : Reference)
    : (after.find reference).isSome = (before.find reference).isSome := by
  rw [Bool.eq_iff_iff, isSome_find_iff, isSome_find_iff]
  exact exists_congr (unshifted.mayFind reference)

/-- There are as many slots, since each has its standing. -/
theorem Unshifted.size (unshifted : Unshifted before after) : after.size = before.size := by
  have lengths := congrArg List.length unshifted.standings
  rwa [Registry.standings, Registry.standings, List.length_map, List.length_map] at lengths

/-- Whatever can be told from the standing of a type is told of all types as before. -/
theorem Unshifted.map_records {β : Type} (unshifted : Unshifted before after)
    (view : Standing → β)
    : after.records.map (fun record => view record.standing)
      = before.records.map fun record => view record.standing := by
  have views := congrArg (List.map view) unshifted.standings
  simpa [Registry.standings, Function.comp_def] using views

/-- So it is of the type in each slot. -/
theorem Unshifted.map_get? {β : Type} (unshifted : Unshifted before after) (view : Standing → β)
    (slot : Slot)
    : (after.get? slot).map (fun record => view record.standing)
      = (before.get? slot).map fun record => view record.standing := by
  have here : after.standings[slot]? = before.standings[slot]? := by rw [unshifted.standings]
  simpa [Registry.standings, get?, Function.comp_def] using congrArg (Option.map view) here

/-- A slot that held a type holds one of the same standing. -/
theorem Unshifted.exists_get? (unshifted : Unshifted before after)
    (found : before.get? slot = some record)
    : ∃ later, after.get? slot = some later ∧ later.standing = record.standing := by
  have here := unshifted.map_get? id slot
  rw [found] at here
  exact Option.map_eq_some_iff.mp here

/-- A slot that held no type holds none. -/
theorem Unshifted.get?_eq_none (unshifted : Unshifted before after)
    (nothing : before.get? slot = none)
    : after.get? slot = none := by
  have here := unshifted.map_get? id slot
  rw [nothing] at here
  exact Option.map_eq_none_iff.mp here

/-- What moves nothing leaves all types where their canonical references find them. -/
theorem Anchored.unmoved (anchored : before.Anchored) (unmoved : Unmoved before after)
    : after.Anchored := by
  refine anchored.congr (unmoved.map_records Standing.references) fun reference key => ?_
  rw [← find_of_isKey key, ← find_of_isKey key, unmoved.find]

-----------------------------------------------------------------------------------------
-- Storing a type again
-----------------------------------------------------------------------------------------

/-- Wherever the type could be indexed, something is found already. -/
structure Covers (registry : Registry) (slot : Slot) (record : TypeRecord) : Prop where
  keys
    : ∀ reference ∈ record.references,
        isKey reference = true → (registry.findKey reference).isSome = true
  entries
    : ∀ entry ∈ runtimeEntries slot record,
        ∀ position,
          entry.position.compatible position = true
          → (registry.findRuntime entry.runtime position entry.scope).isSome = true

/-- Every stored type is covered by the indexes. -/
def Covered (registry : Registry) : Prop :=
  ∀ ⦃slot record⦄, registry.get? slot = some record → registry.Covers slot record

/-- Further entries are looked up only where nothing was found before.
Witness: the first entry that matches is an old one if there is one, and otherwise an added one
would have been covered.
-/
theorem findRuntime_addEntries {additions : List RuntimeEntry} {type : RuntimeType}
    {position : Position} {scope : Option String}
    (entries : after.byRuntime = additions.foldl addEntry before.byRuntime)
    (covered
      : ∀ entry ∈ additions,
          entry.runtime = type
          → entry.scope = scope
          → entry.position.compatible position = true
          → (before.findRuntime type position scope).isSome = true)
    : after.findRuntime type position scope = before.findRuntime type position scope := by
  cases there : before.findRuntime type position scope with
  | some slot =>
      obtain ⟨entry, first, same⟩ := Option.map_eq_some_iff.mp there
      have grows : before.byRuntime <+: after.byRuntime := by
        rw [entries]
        exact foldl_addEntry_grows _ _
      exact Option.map_eq_some_iff.mpr ⟨entry, grows.find?_eq_some first, same⟩
  | none =>
      refine Option.map_eq_none_iff.mpr (List.find?_eq_none.mpr ?_)
      intro entry inside matching
      rw [entries] at inside
      rcases mem_foldl_addEntry inside with old | added
      · exact List.find?_eq_none.mp (Option.map_eq_none_iff.mp there) entry old matching
      · simp only [Bool.and_eq_true, decide_eq_true_eq] at matching
        obtain ⟨⟨type, position⟩, scope⟩ := matching
        have something := covered entry added type scope position
        rw [there] at something
        cases something

/-- Indexing a type that is covered moves no look-up. -/
theorem Covers.find_index (covers : registry.Covers slot record)
    : (registry.index slot record).find = registry.find := by
  have keys : (registry.index slot record).byReference = registry.byReference :=
    byReference_index_of_isSome covers.keys
  funext reference
  unfold find
  split
  · have entries
        : (registry.index slot record).byRuntime
          = (runtimeEntries slot record).foldl addEntry registry.byRuntime :=
      rfl
    apply findRuntime_addEntries entries
    rintro entry added rfl scope compatible
    rw [← scope]
    exact covers.entries entry added reference.position compatible
  · rw [findKey, keys, findKey]

/-- A change that leaves the look-ups leaves a type covered, as long as it keeps its standing. -/
theorem Covers.unshifted (covers : before.Covers slot record)
    (isSome : ∀ reference, (after.find reference).isSome = (before.find reference).isSome)
    (same : new.standing = record.standing)
    : after.Covers slot new := by
  constructor
  · intro reference member key
    rw [← find_of_isKey key, isSome, find_of_isKey key]
    exact covers.keys reference (references_congr same ▸ member) key
  · intro entry member position compatible
    rw [runtimeEntries_congr slot same] at member
    have leads := isSome ⟨.runtime entry.runtime, position, entry.scope⟩
    simp only [Registry.find] at leads
    rw [leads]
    exact covers.entries entry member position compatible

/-- So it leaves all types covered, each by what the type in its slot was covered by. -/
theorem Covered.unshifted (covered : before.Covered) (unshifted : Unshifted before after)
    : after.Covered := by
  intro slot record here
  obtain ⟨old, there, same⟩ := unshifted.symm.exists_get? here
  exact (covered there).unshifted unshifted.isSome_find same.symm

/-- Storing a type again with the same standing moves nothing. -/
theorem Anchored.unmoved_register (anchored : registry.Anchored) (covered : registry.Covered)
    (found : registry.get? slot = some record) (same : new.standing = record.standing)
    : Unmoved registry (registry.register new).1 := by
  have references := references_congr same
  refine unmoved_of_find ?_ ((anchored.stores found references).map_records found same)
  have leads := anchored.findKey_primary found
  rw [← TypeRecord.primary_congr references] at leads
  rw [register_of_some leads]
  have covers : { registry with records := registry.records.set slot new }.Covers slot new :=
    (covered found).unshifted (fun _ => rfl) same
  exact covers.find_index

-----------------------------------------------------------------------------------------
-- Rebuilding
-----------------------------------------------------------------------------------------

/-- Rebuilding the indexes would not change what a reference may lead to. -/
def Current (registry : Registry) : Prop :=
  ∀ reference slot, registry.rebuild.MayFind reference slot ↔ registry.MayFind reference slot

/-- Both registries have the same keys, in whichever buckets, and the same host types. -/
structure SameIndexes (one other : Registry) : Prop where
  keys : ∀ key, key ∈ one.byReference.keys ↔ key ∈ other.byReference.keys
  byRuntime : one.byRuntime = other.byRuntime

/-- The same keys may answer the same references. -/
theorem SameIndexes.mayFind (same : SameIndexes before after) (reference : Reference)
    (slot : Slot)
    : after.MayFind reference slot ↔ before.MayFind reference slot := by
  cases key : isKey reference with
  | true => simp only [mayFind_of_isKey key, same.keys]
  | false =>
      rw [mayFind_of_not_isKey key, mayFind_of_not_isKey key]
      unfold find
      split
      · simp only [findRuntime, same.byRuntime]
      · next other => cases target : reference.target <;> simp_all [isKey]

/-- Whether a reference becomes a key depends on the keys that there are, not on their buckets.
Witness: a reference is kept out by any key that agrees with it.
-/
theorem SameIndexes.index (same : SameIndexes before after) (slot : Slot)
    (alike : new.standing = record.standing)
    : SameIndexes (before.index slot record) (after.index slot new) := by
  have added (references : List Reference) {one other : KeyTable}
      (keys : ∀ key, key ∈ one.keys ↔ key ∈ other.keys)
      : ∀ key,
          key ∈ (references.foldl (KeyTable.add slot) one).keys
          ↔ key ∈ (references.foldl (KeyTable.add slot) other).keys := by
    induction references generalizing one other with
    | nil => exact keys
    | cons reference rest ih =>
        refine ih fun key => ?_
        have free : one.find reference = none ↔ other.find reference = none := by
          rw [← Option.not_isSome_iff_eq_none, ← Option.not_isSome_iff_eq_none,
            KeyTable.isSome_find_iff, KeyTable.isSome_find_iff]
          simp only [keys]
        rw [KeyTable.mem_keys_add, KeyTable.mem_keys_add, keys, free]
  constructor
  · simp only [Registry.index, references_congr alike]
    exact added _ same.keys
  · simp only [Registry.index, runtimeEntries_congr slot alike, same.byRuntime]

/-- Records of the same standings are indexed in the same way. -/
theorem SameIndexes.indexAll {left right : List TypeRecord} (same : SameIndexes before after)
    (alike : right.map TypeRecord.standing = left.map TypeRecord.standing) (start : Nat)
    : SameIndexes (before.indexAll (left.zipIdx start)) (after.indexAll (right.zipIdx start)) := by
  induction left generalizing right before after start with
  | nil =>
      obtain rfl : right = [] := by simpa using alike
      exact same
  | cons record rest ih =>
      cases right with
      | nil => simp at alike
      | cons head tail =>
          obtain ⟨first, further⟩ := List.cons.inj alike
          exact ih (same.index start first) further (start + 1)

/-- Cleared registries have no keys and no entries. -/
theorem sameIndexes_cleared (one other : Registry) : SameIndexes one.cleared other.cleared :=
  ⟨fun _ => .rfl, rfl⟩

/-- Rebuilt indexes have the same keys if the standings are the same, by induction on the slots. -/
theorem sameIndexes_rebuild (same : after.standings = before.standings)
    : SameIndexes before.rebuild after.rebuild := by
  have indexes := (sameIndexes_cleared before after).indexAll same 0
  exact ⟨indexes.keys, indexes.byRuntime⟩

/-- What a rebuilt registry may find depends on the standings alone. -/
theorem mayFind_rebuild_congr (same : after.standings = before.standings) (reference : Reference)
    (slot : Slot)
    : after.rebuild.MayFind reference slot ↔ before.rebuild.MayFind reference slot :=
  (sameIndexes_rebuild same).mayFind reference slot

/-- What leaves all that may be found leaves the indexes as good as rebuilt. -/
theorem Current.unshifted (current : before.Current) (unshifted : Unshifted before after)
    : after.Current := by
  intro reference slot
  rw [mayFind_rebuild_congr unshifted.standings, unshifted.mayFind]
  exact current reference slot

/-- Rebuilding changes no type. -/
@[simp] theorem standings_rebuild (registry : Registry)
    : registry.rebuild.standings = registry.standings := by
  rw [standings, records_rebuild, standings]

/-- Rebuilding twice finds what rebuilding once may find. -/
theorem current_rebuild (registry : Registry) : registry.rebuild.Current :=
  mayFind_rebuild_congr registry.standings_rebuild

/-- Indexes that are as good as rebuilt may be rebuilt. -/
theorem Current.unshifted_rebuild (current : registry.Current)
    : Unshifted registry registry.rebuild :=
  ⟨current, registry.standings_rebuild⟩

/-- Where the buckets are as many, too, the rebuilt indexes are the same.
Witness: the tables are made from the same keys in the same order, and have the same buckets to
begin with.
-/
theorem find_rebuild_congr (same : after.standings = before.standings)
    (buckets : after.byReference.buckets = before.byReference.buckets)
    : after.rebuild.find = before.rebuild.find := by
  have indexed {left right : List TypeRecord} {one other : Registry} (start : Nat)
      (alike : right.map TypeRecord.standing = left.map TypeRecord.standing)
      (keys : other.byReference = one.byReference) (entries : other.byRuntime = one.byRuntime)
      : (other.indexAll (right.zipIdx start)).find = (one.indexAll (left.zipIdx start)).find := by
    induction left generalizing right one other start with
    | nil =>
        obtain rfl : right = [] := by simpa using alike
        exact find_congr (congrArg KeyTable.keys keys) entries
    | cons record rest ih =>
        cases right with
        | nil => simp at alike
        | cons head tail =>
            obtain ⟨first, further⟩ := List.cons.inj alike
            refine ih (start + 1) further ?_ ?_
            · simp only [index, keys, references_congr first]
            · simp only [index, entries, runtimeEntries_congr start first]
  have cleared : after.cleared.byReference = before.cleared.byReference := by
    simp only [Registry.cleared, KeyTable.cleared, buckets]
  exact indexed 0 same cleared rfl

/-- An entry answers for its host type in every position that it is compatible with. -/
theorem isSome_findRuntime_of_mem {entry : RuntimeEntry} {position : Position}
    (member : entry ∈ registry.byRuntime)
    (compatible : entry.position.compatible position = true)
    : (registry.findRuntime entry.runtime position entry.scope).isSome = true := by
  rw [findRuntime, Option.isSome_map, List.find?_isSome]
  exact ⟨entry, member, by simp [compatible]⟩

/-- Each of the indexed types has its entries.
Witness: they are added with the type, and what is indexed behind it takes none away.
-/
theorem mem_byRuntime_indexAll_of_mem {entries : List (TypeRecord × Slot)}
    {entry : RuntimeEntry} (entered : (record, slot) ∈ entries)
    (member : entry ∈ runtimeEntries slot record)
    : entry ∈ (registry.indexAll entries).byRuntime := by
  obtain ⟨front, back, rfl⟩ := List.append_of_mem entered
  rw [indexAll_append]
  have added : entry ∈ ((registry.indexAll front).index slot record).byRuntime :=
    mem_foldl_addEntry_of_mem _ member
  exact (grows_indexAll _ back).byRuntime.mem added

/-- In rebuilt indexes, every type has its entries. -/
theorem mem_byRuntime_rebuild_of_mem {entry : RuntimeEntry}
    (found : registry.get? slot = some record) (member : entry ∈ runtimeEntries slot record)
    : entry ∈ registry.rebuild.byRuntime := by
  rw [byRuntime_rebuild]
  exact mem_byRuntime_indexAll_of_mem (List.mem_zipIdx_iff_getElem?.mpr found) member

/-- Rebuilt indexes cover every type. -/
theorem covered_rebuild (registry : Registry) : registry.rebuild.Covered := by
  intro slot record here
  have found : registry.get? slot = some record := by simpa using here
  constructor
  · exact (indexed_rebuild found).keys
  · intro entry member position compatible
    exact isSome_findRuntime_of_mem (mem_byRuntime_rebuild_of_mem found member) compatible

/-- So do indexes that are as good as rebuilt. -/
theorem Current.covered (current : registry.Current) : registry.Covered :=
  registry.covered_rebuild.unshifted current.unshifted_rebuild.symm

-----------------------------------------------------------------------------------------
-- Registries that operations have built
-----------------------------------------------------------------------------------------

/-- Every stored type has its entries for host types. -/
def EntriesAll (registry : Registry) : Prop :=
  ∀ ⦃slot record⦄,
    registry.get? slot = some record
    → ∀ entry ∈ runtimeEntries slot record, entry ∈ registry.byRuntime

/-- A type that is registered has its entries, in whichever slot it is stored. -/
theorem mem_byRuntime_register {entry : RuntimeEntry}
    (member : entry ∈ runtimeEntries (registry.register record).2 record)
    : entry ∈ (registry.register record).1.byRuntime := by
  unfold register at member ⊢
  split at member <;> exact mem_foldl_addEntry_of_mem _ member

/-- Storing a type with its entries leaves all types with theirs. -/
theorem EntriesAll.store (all : before.EntriesAll) (stores : Stores before slot record after)
    (added : ∀ entry ∈ runtimeEntries slot record, entry ∈ after.byRuntime)
    : after.EntriesAll := by
  intro other later here entry member
  rcases stores.get?_cases here with ⟨rfl, rfl⟩ | ⟨-, old⟩
  · exact added entry member
  · exact stores.byRuntime.mem (all old entry member)

/-- Every operation leaves all types with their entries.
Witness: a registration adds those of its type, and rebuilding adds those of all.
-/
theorem EntriesAll.apply (all : registry.EntriesAll) (bounded : registry.Bounded)
    (change : Change)
    : (registry.apply change).EntriesAll := by
  cases change with
  | register record =>
      have added := @mem_byRuntime_register registry record
      cases leads : registry.findKey record.primary with
      | some slot =>
          have stored : (registry.register record).2 = slot := by rw [register_of_some leads]
          exact all.store (stores_register_of_some leads (bounded.findKey_lt leads))
            (stored ▸ fun _ => added)
      | none =>
          have stored : (registry.register record).2 = registry.size := by
            rw [register_of_none leads]
          exact all.store (stores_register_of_none leads) (stored ▸ fun _ => added)
  | registerName slot =>
      simp only [Registry.apply]
      split
      · next named done =>
          rcases registerName_cases done with rfl | ⟨-, -, -, -, -, rfl⟩ <;> exact all
      · exact all
  | rebuild =>
      intro slot record here entry member
      have found : registry.get? slot = some record := by simpa [Registry.apply] using here
      exact mem_byRuntime_rebuild_of_mem found member

/-- So all types have theirs in a registry that operations have built, by induction on these. -/
theorem IsBuilt.entriesAll (built : registry.IsBuilt) : registry.EntriesAll := by
  obtain ⟨changes, rfl⟩ := built
  have start : empty.Bounded ∧ empty.EntriesAll := by
    refine ⟨bounded_empty, ?_⟩
    intro slot record here
    simp [empty, get?] at here
  have step (registry : Registry) (change : Change)
      (kept : registry.Bounded ∧ registry.EntriesAll)
      : (registry.apply change).Bounded ∧ (registry.apply change).EntriesAll :=
    ⟨kept.1.apply change, kept.2.apply kept.1 change⟩
  exact (applyAll_induction step changes start).2

/-- Whatever the operations were, the indexes cover every type as it is stored now. -/
theorem IsBuilt.covered (built : registry.IsBuilt) : registry.Covered := by
  intro slot record found
  constructor
  · exact (built.indexesAll found).keys
  · intro entry member position compatible
    exact isSome_findRuntime_of_mem (built.entriesAll found entry member) compatible

-----------------------------------------------------------------------------------------
-- Revisions
-----------------------------------------------------------------------------------------

/-- One change that keeps the standing of every type: a type is stored again, or a name is
registered.
-/
inductive Edit : Registry → Registry → Prop where
  | store {registry : Registry} {slot : Slot} {record new : TypeRecord}
      (found : registry.get? slot = some record) (same : new.standing = record.standing)
      : Edit registry (registry.register new).1
  | registerName {registry named : Registry} {slot : Slot}
      (done : registry.registerName slot = .ok named)
      : Edit registry named

abbrev Edits : Registry → Registry → Prop :=
  Relation.ReflTransGen Edit

/-- An edit, or the indexes are rebuilt. -/
inductive Revision : Registry → Registry → Prop where
  | edit {before after : Registry} (edit : Edit before after) : Revision before after
  | rebuild (registry : Registry) : Revision registry registry.rebuild

abbrev Revisions : Registry → Registry → Prop :=
  Relation.ReflTransGen Revision

/-- Edits are revisions that do not rebuild the indexes. -/
theorem Edits.revisions (edits : Edits before after) : Revisions before after :=
  edits.lift id fun _ _ => .edit

/-- A name that is registered moves no look-up by a reference. -/
theorem unmoved_registerName {named : Registry} (done : registry.registerName slot = .ok named)
    : Unmoved registry named := by
  rcases registerName_cases done with rfl | ⟨-, -, -, -, -, rfl⟩
  · exact .refl _
  · exact unmoved_of_find rfl rfl

/-- An edit brings no key and moves nothing. -/
theorem Edit.unmoved (edit : Edit before after) (anchored : before.Anchored)
    (covered : before.Covered)
    : Unmoved before after ∧ after.byReference = before.byReference := by
  cases edit with
  | store found same =>
      exact ⟨anchored.unmoved_register covered found same,
        anchored.byReference_register found (references_congr same)⟩
  | registerName done =>
      refine ⟨unmoved_registerName done, ?_⟩
      rcases registerName_cases done with rfl | ⟨-, -, -, -, -, rfl⟩ <;> rfl

/-- In a registry with indexes that cover all types, edits move nothing. -/
theorem Edits.unmoved (edits : Edits before after) (anchored : before.Anchored)
    (covered : before.Covered)
    : Unmoved before after ∧ after.byReference = before.byReference := by
  induction edits with
  | refl => exact ⟨.refl before, rfl⟩
  | tail _ edit ih =>
      obtain ⟨unmoved, keys⟩ := ih
      obtain ⟨further, sameKeys⟩ :=
        edit.unmoved (anchored.unmoved unmoved) (covered.unshifted unmoved.toUnshifted)
      exact ⟨unmoved.trans further, sameKeys.trans keys⟩

/-- Where nothing moves, the canonical references stay apart from all others. -/
theorem Settled.unmoved (settled : before.Settled) (unmoved : Unmoved before after)
    : after.Settled := by
  have anchored := settled.anchored.unmoved unmoved
  have lists : after.referenceLists = before.referenceLists :=
    unmoved.map_records Standing.references
  exact ⟨anchored.keyed, anchored.owned, settled.apart.congr lists, anchored.indexed⟩

/-- Where no type claims the canonical reference of another one, revisions change nothing that a
reference may lead to.
Witness: an edit moves nothing, and after a rebuilding all that agrees with a canonical reference
leads to its type again.
-/
theorem Revisions.unshifted (revisions : Revisions before after) (settled : before.Settled)
    (current : before.Current)
    : Unshifted before after ∧ after.Settled := by
  induction revisions with
  | refl => exact ⟨.refl before, settled⟩
  | tail _ revision ih =>
      obtain ⟨unshifted, still⟩ := ih
      have currently := current.unshifted unshifted
      cases revision with
      | edit edit =>
          obtain ⟨unmoved, -⟩ := edit.unmoved still.anchored currently.covered
          exact ⟨unshifted.trans unmoved.toUnshifted, still.unmoved unmoved⟩
      | rebuild =>
          exact ⟨unshifted.trans currently.unshifted_rebuild, still.rebuild⟩

end Registry
end SchemaGraph
