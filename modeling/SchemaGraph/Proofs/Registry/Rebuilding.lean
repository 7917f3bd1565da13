import SchemaGraph.Proofs.Registry.Extent
import SchemaGraph.Proofs.Registry.Handles
import SchemaGraph.Proofs.Registry.Permanence

/-! What rebuilding the indexes moves.
Indexes are filled in the order of the registrations, and rebuilt in the order of the slots. Both
give a reference to the first type that takes it. So they differ only where a type that was stored
again has lost a reference, or was given one that meets a reference of a type behind it, and where
keys of several types agree with a reference: of these, the rebuilt buckets may put another one
first.
-/

namespace SchemaGraph

/-- What the first type is indexed under at the target and scope of the reference, the second one is
indexed under, too.
-/
def TypeRecord.Within (place : Reference) (record other : TypeRecord) : Prop :=
  ∀ handle ∈ record.handles, handle.Meets place → handle ∈ other.handles

instance (place : Reference) (record other : TypeRecord)
    : Decidable (record.Within place other) :=
  inferInstanceAs (Decidable (∀ handle ∈ record.handles, _ → _))

theorem TypeRecord.within_refl (place : Reference) (record : TypeRecord)
    : record.Within place record :=
  fun _ member _ => member

namespace Registry

variable {registry one other : Registry} {slot : Slot} {record earlier : TypeRecord}
  {place reference : Reference}

/-- Whatever points at the target in the scope of the reference, in one position, leads to the same
slot in both.
-/
def SameUnder (place : Reference) (one other : Registry) : Prop :=
  ∀ reference,
    reference.Meets place → Pinned reference → one.find reference = other.find reference

/-- What is the same in two steps is the same. -/
theorem SameUnder.trans {first second third : Registry} (earlier : SameUnder place first second)
    (later : SameUnder place second third)
    : SameUnder place first third :=
  fun reference meets pinned =>
    (earlier reference meets pinned).trans (later reference meets pinned)

theorem SameUnder.symm (same : SameUnder place one other) : SameUnder place other one :=
  fun reference meets pinned => (same reference meets pinned).symm

/-- Registries that find the same do so under every place. -/
theorem sameUnder_of_find (same : one.find = other.find) : SameUnder place one other :=
  fun reference _ _ => congrFun same reference

/-- A rebuilt registry finds in each position what its types give, in the order of their slots. -/
theorem sameUnder_rebuild (place : Reference) (registry : Registry)
    : SameUnder place registry.rebuild (empty.indexAll registry.records.zipIdx) :=
  fun _ _ pinned => find_rebuild pinned

/-- A reference without a position may lead to the same slots, too. -/
theorem SameUnder.mayFind (same : SameUnder place one other) (meets : reference.Meets place)
    (slot : Slot)
    : one.MayFind reference slot ↔ other.MayFind reference slot :=
  mayFind_congr (fun position => same (reference.withPosition position) meets) slot

/-- So a reference leads somewhere in both or in neither. -/
theorem SameUnder.isSome_find (same : SameUnder place one other) (meets : reference.Meets place)
    : (one.find reference).isSome = (other.find reference).isSome := by
  rw [Bool.eq_iff_iff, isSome_find_iff, isSome_find_iff]
  exact exists_congr (same.mayFind meets)

-----------------------------------------------------------------------------------------
-- Indexing
-----------------------------------------------------------------------------------------

/-- What a type opens for a reference, one with more handles opens in a registry that finds the
same.
-/
theorem opens_mono {new : TypeRecord} (same : SameUnder place one other)
    (within : record.Within place new) (meets : reference.Meets place)
    (opened : one.opens record reference = true)
    : other.opens new reference = true := by
  obtain ⟨handle, member, takes⟩ := List.any_eq_true.mp opened
  have agrees : handle.agrees reference = true := (Bool.and_eq_true_iff.mp takes).1
  have met := (Reference.meets_of_agrees agrees).trans meets
  refine List.any_eq_true.mpr ⟨handle, within handle member met, ?_⟩
  rwa [← Option.not_isSome, ← same.isSome_find met, Option.not_isSome]

/-- Registries that find the same go on to do so when types with the same handles are indexed. -/
theorem SameUnder.index {new : TypeRecord} (same : SameUnder place one other)
    (within : record.Within place new) (without : new.Within place record) (slot : Slot)
    : SameUnder place (one.index slot record) (other.index slot new) := by
  intro reference meets pinned
  have opens : one.opens record reference = other.opens new reference :=
    Bool.eq_iff_iff.mpr
      ⟨opens_mono same within meets, opens_mono same.symm without meets⟩
  rw [find_index_eq pinned, find_index_eq pinned, same reference meets pinned, opens]

/-- So they do when the same types are indexed one after the other. -/
theorem SameUnder.indexAll (same : SameUnder place one other)
    (entries : List (TypeRecord × Slot))
    : SameUnder place (one.indexAll entries) (other.indexAll entries) := by
  induction entries generalizing one other with
  | nil => exact same
  | cons entry rest ih =>
      have within := TypeRecord.within_refl place entry.1
      exact ih (same.index within within entry.2)

/-- A type with no handle at the place changes nothing there. -/
theorem sameUnder_index_of_not_meets
    (elsewhere : ∀ handle ∈ record.handles, ¬handle.Meets place) (slot : Slot)
    : SameUnder place (registry.index slot record) registry := by
  intro reference meets pinned
  have unopened : registry.opens record reference = false := by
    rw [Bool.eq_false_iff]
    intro opened
    obtain ⟨handle, member, takes⟩ := List.any_eq_true.mp opened
    have agrees : handle.agrees reference = true := (Bool.and_eq_true_iff.mp takes).1
    exact elsewhere handle member ((Reference.meets_of_agrees agrees).trans meets)
  rw [find_index_eq pinned, unopened]
  simp

/-- Types with no handle at the place change nothing there, one after the other. -/
theorem sameUnder_indexAll_of_not_meets {entries : List (TypeRecord × Slot)}
    (elsewhere : ∀ entry ∈ entries, ∀ handle ∈ entry.1.handles, ¬handle.Meets place)
    : SameUnder place (registry.indexAll entries) registry := by
  induction entries generalizing registry with
  | nil => exact sameUnder_of_find rfl
  | cons entry rest ih =>
      have further :=
        @ih (registry.index entry.2 entry.1) fun later member =>
          elsewhere later (List.mem_cons_of_mem entry member)
      exact further.trans
        (sameUnder_index_of_not_meets (elsewhere entry List.mem_cons_self) entry.2)

/-- Indexing a type that has no more handles than one that is covered changes nothing.
Witness: a handle that agrees with the reference would be one of the covered type, and lead
somewhere.
-/
theorem Covers.sameUnder_index (covers : registry.Covers slot earlier)
    (within : record.Within place earlier) (other : Slot)
    : SameUnder place (registry.index other record) registry := by
  intro reference meets pinned
  rw [find_index_eq pinned]
  cases leads : registry.find reference with
  | some found => rfl
  | none =>
      have unopened : registry.opens record reference = false := by
        rw [Bool.eq_false_iff]
        intro opened
        obtain ⟨handle, member, takes⟩ := List.any_eq_true.mp opened
        obtain ⟨agrees, free⟩ := Bool.and_eq_true_iff.mp takes
        have met := (Reference.meets_of_agrees agrees).trans meets
        have listed := within handle member met
        cases key : isKey reference with
        | true =>
            rw [key, Bool.not_true, Bool.false_or, Option.isNone_iff_eq_none] at free
            have found := covers.isSome_find listed
            rw [free] at found
            cases found
        | false =>
            have found := covers.isSome_find_of_agrees listed key agrees
            rw [leads] at found
            cases found
      rw [unopened]
      rfl

/-- Where a type is indexed under all that it was indexed under before, it might as well be indexed
once.
Witness: a handle that the earlier indexing took is one of the new ones, and no other one agrees
with it.
-/
theorem sameUnder_index_index (within : earlier.Within place record) (registry : Registry)
    (slot : Slot)
    : SameUnder place ((registry.index slot earlier).index slot record)
        (registry.index slot record) := by
  intro reference meets pinned
  have stillFree (handle : Reference)
      : ((registry.index slot earlier).find handle).isNone
        = ((registry.find handle).isNone && !registry.opens earlier handle) :=
    registry.isNone_find_index slot earlier handle
  have opens
      : (registry.opens earlier reference
          || (registry.index slot earlier).opens record reference)
        = registry.opens record reference := by
    rw [Bool.eq_iff_iff, Bool.or_eq_true]
    constructor
    · rintro (before | after)
      · exact opens_mono (sameUnder_of_find rfl) within meets before
      · obtain ⟨handle, member, takes⟩ := List.any_eq_true.mp after
        refine List.any_eq_true.mpr ⟨handle, member, ?_⟩
        simp only [stillFree handle] at takes
        grind
    · intro opened
      obtain ⟨handle, member, takes⟩ := List.any_eq_true.mp opened
      obtain ⟨agrees, free⟩ := Bool.and_eq_true_iff.mp takes
      cases key : isKey reference with
      | false =>
          right
          rw [opens_of_not_isKey key]
          exact List.any_eq_true.mpr ⟨handle, member, agrees⟩
      | true =>
          by_cases taken : registry.opens earlier handle = true
          · obtain ⟨held, listed, holds⟩ := List.any_eq_true.mp taken
            have near : held.agrees handle = true := (Bool.and_eq_true_iff.mp holds).1
            have met := (Reference.meets_of_agrees near).trans
              ((Reference.meets_of_agrees agrees).trans meets)
            have keyed := (isKey_of_agrees near).trans ((isKey_of_agrees agrees).trans key)
            obtain rfl : held = handle :=
              eq_of_mem_handles_of_agrees (within held listed met) member near keyed
            exact .inl (List.any_eq_true.mpr ⟨held, listed, takes⟩)
          · right
            refine List.any_eq_true.mpr ⟨handle, member, ?_⟩
            rw [stillFree handle, Bool.eq_false_iff.mpr taken]
            simpa using takes
  rw [find_index_eq pinned, find_index_eq pinned, find_index_eq pinned, ← opens]
  cases registry.opens earlier reference <;> simp

-----------------------------------------------------------------------------------------
-- One registration
-----------------------------------------------------------------------------------------

/-- If the type is stored over another one, it keeps the handles that this one has at the place, and
it gains none there unless no later type has any.
-/
def Orderly (place : Reference) (registry : Registry) (record : TypeRecord) : Prop :=
  ∀ slot ∈ registry.findKey record.primary,
    ∀ earlier ∈ registry.get? slot,
      earlier.Within place record
      ∧ (record.Within place earlier
        ∨ ∀ later ∈ registry.records.drop (slot + 1),
            ∀ handle ∈ later.handles, ¬handle.Meets place)

instance : Decidable (Orderly place registry record) :=
  inferInstanceAs (Decidable (∀ slot ∈ findKey _ _, ∀ earlier ∈ registry.get? slot, _))

/-- A type that is new comes last in either order, so rebuilding moves nothing then. -/
theorem sameUnder_rebuild_register_of_none
    (unknown : registry.findKey record.primary = none)
    (same : SameUnder place registry.rebuild registry)
    : SameUnder place (registry.register record).1.rebuild (registry.register record).1 := by
  have rebuilt
      : SameUnder place (registry.register record).1.rebuild
          ((empty.indexAll registry.records.zipIdx).index registry.size record) := by
    have further := sameUnder_rebuild place (registry.register record).1
    rw [register_of_none unknown, records_index, List.zipIdx_append, indexAll_append] at further
    rw [register_of_none unknown]
    simpa [indexAll, size] using further
  have registered
      : (registry.register record).1.find = (registry.index registry.size record).find := by
    rw [register_of_none unknown]
    rfl
  have before := (sameUnder_rebuild place registry).symm.trans same
  have within := TypeRecord.within_refl place record
  exact (rebuilt.trans (before.index within within _)).trans (sameUnder_of_find registered.symm)

/-- The indexes of the types up to the slot. -/
def indexedUpTo (registry : Registry) (slot : Slot) : Registry :=
  empty.indexAll (registry.records.take slot).zipIdx

/-- The types behind the slot. -/
def behind (registry : Registry) (slot : Slot) : List (TypeRecord × Slot) :=
  (registry.records.drop (slot + 1)).zipIdx (slot + 1)

/-- With a type in the slot, the records are indexed up to the slot, there, and behind it. -/
theorem sameUnder_rebuild_of_set {after : Registry} (inside : slot < registry.size)
    (stored : after.records = registry.records.set slot record)
    : SameUnder place after.rebuild
        (((registry.indexedUpTo slot).index slot record).indexAll (registry.behind slot)) := by
  have length : (registry.records.take slot).length = slot := by
    rw [List.length_take]
    exact Nat.min_eq_left (Nat.le_of_lt inside)
  have whole := sameUnder_rebuild place after
  rw [stored, List.set_eq_take_cons_drop record inside, List.zipIdx_append, List.zipIdx_cons,
    length, Nat.zero_add, indexAll_append] at whole
  exact whole

/-- Storing the type that is there changes nothing. -/
theorem records_eq_set (found : registry.get? slot = some earlier)
    : registry.records = registry.records.set slot earlier := by
  obtain ⟨inside, here⟩ := List.getElem?_eq_some_iff.mp found
  rw [← here, List.set_getElem_self]

section

variable {front : Registry} {back : List (TypeRecord × Slot)}

/-- A type with the same handles may take the place of another one among those that are indexed,
where that one is covered.
-/
theorem sameUnder_indexAll_of_covers (kept : earlier.Within place record)
    (nothing : record.Within place earlier) (covers : registry.Covers slot earlier)
    (before : SameUnder place ((front.index slot earlier).indexAll back) registry)
    : SameUnder place ((front.index slot record).indexAll back) (registry.index slot record) := by
  have alike : SameUnder place (front.index slot record) (front.index slot earlier) :=
    (sameUnder_of_find rfl).index nothing kept slot
  have again : SameUnder place registry (registry.index slot record) :=
    (covers.sameUnder_index nothing slot).symm
  exact ((alike.indexAll back).trans before).trans again

/-- A type with further handles may do so where the types behind it have no say. -/
theorem sameUnder_indexAll_of_last (kept : earlier.Within place record)
    (elsewhere : ∀ entry ∈ back, ∀ handle ∈ entry.1.handles, ¬handle.Meets place)
    (before : SameUnder place ((front.index slot earlier).indexAll back) registry)
    : SameUnder place ((front.index slot record).indexAll back) (registry.index slot record) := by
  have skipped (registry : Registry) : SameUnder place (registry.indexAll back) registry :=
    sameUnder_indexAll_of_not_meets elsewhere
  have once
      : SameUnder place (front.index slot record)
          ((front.index slot earlier).index slot record) :=
    (sameUnder_index_index kept front slot).symm
  have within := TypeRecord.within_refl place record
  have again
      : SameUnder place ((front.index slot earlier).index slot record)
          (registry.index slot record) :=
    ((skipped _).symm.trans before).index within within slot
  exact ((skipped _).trans once).trans again

end

/-- Storing an orderly type over another one keeps both fillings of the indexes alike.
Witness: both index the earlier type before the new one. The rebuilt indexes might do so, too, as
the new type has all that the earlier one had. Then the types behind come too late, unless the new
type brings nothing.
-/
theorem sameUnder_rebuild_register_of_some (covered : registry.Covered)
    (orderly : registry.Orderly place record)
    (leads : registry.findKey record.primary = some slot)
    (inside : slot < registry.size) (same : SameUnder place registry.rebuild registry)
    : SameUnder place (registry.register record).1.rebuild (registry.register record).1 := by
  obtain ⟨earlier, found⟩ := exists_get?_of_lt inside
  obtain ⟨kept, gained⟩ := orderly slot leads earlier found
  have before : SameUnder place
      (((registry.indexedUpTo slot).index slot earlier).indexAll (registry.behind slot))
      registry :=
    (sameUnder_rebuild_of_set inside (records_eq_set found)).symm.trans same
  have rebuilt : SameUnder place (registry.register record).1.rebuild
      (((registry.indexedUpTo slot).index slot record).indexAll (registry.behind slot)) := by
    refine sameUnder_rebuild_of_set inside ?_
    rw [register_of_some leads, records_index]
  have registered : (registry.register record).1.find = (registry.index slot record).find := by
    rw [register_of_some leads]
    rfl
  refine (rebuilt.trans ?_).trans (sameUnder_of_find registered.symm)
  rcases gained with nothing | last
  · exact sameUnder_indexAll_of_covers kept nothing (covered found) before
  · exact sameUnder_indexAll_of_last kept
      (fun entry member => last entry.1 (List.fst_mem_of_mem_zipIdx member)) before

-----------------------------------------------------------------------------------------
-- Histories
-----------------------------------------------------------------------------------------

/-- Each registration is orderly at the place when it is made. -/
def OrderlyAt (place : Reference) (registry : Registry) : List Change → Prop
  | [] => True
  | .register record :: rest =>
      registry.Orderly place record ∧ OrderlyAt place (registry.register record).1 rest
  | change :: rest => OrderlyAt place (registry.apply change) rest

instance decidableOrderlyAt (place : Reference)
    : (registry : Registry) → (changes : List Change) → Decidable (OrderlyAt place registry changes)
  | _, [] => inferInstanceAs (Decidable True)
  | registry, .register record :: rest =>
      have := decidableOrderlyAt place (registry.register record).1 rest
      inferInstanceAs (Decidable (registry.Orderly place record ∧ _))
  | registry, .registerName slot :: rest =>
      decidableOrderlyAt place (registry.apply (.registerName slot)) rest
  | registry, .rebuild :: rest => decidableOrderlyAt place registry.rebuild rest

/-- Registering a name changes no type, and nothing that is found by a reference. -/
theorem registerName_moves_nothing (registry : Registry) (slot : Slot)
    : (registry.apply (.registerName slot)).records = registry.records
      ∧ Unmoved registry (registry.apply (.registerName slot)) := by
  simp only [Registry.apply]
  split
  · next named done =>
      refine ⟨?_, unmoved_registerName done⟩
      rcases registerName_cases done with rfl | ⟨-, -, -, -, -, rfl⟩ <;> rfl
  · exact ⟨rfl, .refl registry⟩

/-- Where rebuilding moves nothing, it moves nothing after orderly operations.
Witness: induction on the operations, each of which leaves the rebuilt indexes and the kept ones in
step.
-/
theorem sameUnder_rebuild_applyAll (changes : List Change) (built : registry.IsBuilt)
    (orderly : OrderlyAt place registry changes) (same : SameUnder place registry.rebuild registry)
    : SameUnder place (registry.applyAll changes).rebuild (registry.applyAll changes) := by
  induction changes generalizing registry with
  | nil => exact same
  | cons change rest ih =>
      have next := built.apply change
      cases change with
      | register record =>
          refine ih next orderly.2 ?_
          cases leads : registry.findKey record.primary with
          | some slot =>
              exact sameUnder_rebuild_register_of_some built.covered orderly.1 leads
                (built.bounded.findKey_lt leads) same
          | none => exact sameUnder_rebuild_register_of_none leads same
      | registerName slot =>
          obtain ⟨records, unmoved⟩ := registry.registerName_moves_nothing slot
          have rebuilt := (sameUnder_rebuild place (registry.apply (.registerName slot))).trans
            (records ▸ (sameUnder_rebuild place registry).symm)
          exact ih next orderly
            ((rebuilt.trans same).trans (sameUnder_of_find unmoved.find.symm))
      | rebuild =>
          have again : SameUnder place registry.rebuild.rebuild registry.rebuild :=
            (sameUnder_rebuild place registry.rebuild).trans
              (registry.records_rebuild ▸ (sameUnder_rebuild place registry).symm)
          exact ih next orderly again

/-- Every reference of a type leads somewhere, and so does the host type of a named type unless it
is that of all objects.
-/
def Findable (registry : Registry) : Prop :=
  ∀ record ∈ registry.records,
    (∀ reference ∈ record.references, (registry.find reference).isSome = true)
    ∧ (record.isNamedType = true
      → record.runtime.isObject = false
      → (registry.findRuntime record.runtime record.kind.position
          record.discovered.scope).isSome
        = true)

/-- What the indexes cover is found. -/
theorem Covered.findable (covered : registry.Covered) : registry.Findable := by
  intro record member
  obtain ⟨slot, found⟩ := exists_get?_of_mem member
  refine ⟨fun reference carried => (covered found).isSome_find_reference carried, ?_⟩
  intro named concrete
  have entered
      : ⟨record.runtime, record.kind.position, record.discovered.scope, slot⟩
        ∈ runtimeEntries slot record := by
    simp [runtimeEntries, named, concrete]
  exact (covered found).entries _ entered record.kind.position (by simp [Position.compatible])

/-- Whatever was registered and named, in whichever order: every type is found before and after a
rebuilding. A look-up may lead to the same slots, if all that was stored over a type had the
references of that type which the look-up is about, and brought further ones only while no later
type had any. It leads to the same slot then, unless keys of several types agree with it. They never
do for a reference in a position, nor for one that is a key itself or a host type.
Witness: both registries find the same in each position, and that tells what a reference may lead
to.
-/
theorem rebuild_preserves_lookups (changes : List Change)
    : let registry := empty.applyAll changes
      registry.Findable
      ∧ registry.rebuild.Findable
      ∧ (∀ reference,
          Pinned reference ∨ (∃ slot, (reference, slot) ∈ registry.byReference.keys)
          → registry.Decides reference)
      ∧ (∀ reference,
          OrderlyAt reference empty changes
          → (∀ slot, registry.rebuild.MayFind reference slot ↔ registry.MayFind reference slot)
            ∧ (registry.Decides reference
              → registry.rebuild.find reference = registry.find reference))
      ∧ ∀ type position scope,
          OrderlyAt ⟨.runtime type, position, scope⟩ empty changes
          → registry.rebuild.findRuntime type position scope
            = registry.findRuntime type position scope := by
  intro registry
  have built : registry.IsBuilt := ⟨changes, rfl⟩
  have same (reference : Reference) (orderly : OrderlyAt reference empty changes) (slot : Slot)
      : registry.rebuild.MayFind reference slot ↔ registry.MayFind reference slot := by
    have start : SameUnder reference empty.rebuild empty := sameUnder_of_find rfl
    exact (sameUnder_rebuild_applyAll changes isBuilt_empty orderly start).mayFind ⟨rfl, rfl⟩ slot
  refine ⟨built.covered.findable, registry.covered_rebuild.findable, ?_, ?_, ?_⟩
  · rintro reference (pinned | ⟨slot, member⟩)
    · exact decides_of_pinned pinned
    · exact decides_of_mem member
  · exact fun reference orderly =>
      ⟨same reference orderly, fun decides => decides.find_congr (same reference orderly)⟩
  · intro type position scope orderly
    have decides : registry.Decides ⟨.runtime type, position, scope⟩ :=
      decides_of_pinned (pinned_of_not_isKey rfl)
    exact decides.find_congr (same ⟨.runtime type, position, scope⟩ orderly)

/-- Two types, each stored again with a further alias: the first one with one that is new, the
second one with the same, which leads to the first one.
-/
def widened : List Change :=
  [
    .register (scalarType "First" []),
    .register (scalarType "Second" [.runtime (.named "Host") .input]),
    .register (scalarType "First" [.schema ⟨"Former"⟩]),
    .register (scalarType "Second" [.runtime (.named "Host") .input, .schema ⟨"Former"⟩])
  ]

theorem widened_preserves_lookups
    : OrderlyAt (.schema ⟨"Former"⟩) empty widened
      ∧ OrderlyAt (.runtime (.named "Host") .input) empty widened
      ∧ (empty.applyAll widened).Decides (.schema ⟨"Former"⟩)
      ∧ (empty.applyAll widened).rebuild.find (.schema ⟨"Former"⟩)
        = (empty.applyAll widened).find (.schema ⟨"Former"⟩)
      ∧ (empty.applyAll widened).rebuild.findRuntime (.named "Host") .input none
        = (empty.applyAll widened).findRuntime (.named "Host") .input none := by
  have key : OrderlyAt (.schema ⟨"Former"⟩) empty widened := by decide +kernel
  have host : OrderlyAt (.runtime (.named "Host") .input) empty widened := by decide +kernel
  have member
      : (.schema ⟨"Former"⟩, 0) ∈ (empty.applyAll widened).byReference.keys := by
    decide +kernel
  obtain ⟨-, -, alone, found, foundRuntime⟩ := rebuild_preserves_lookups widened
  have decides := alone _ (.inr ⟨0, member⟩)
  exact ⟨key, host, decides, (found _ key).2 decides, foundRuntime _ _ _ host⟩

example : (empty.applyAll widened).find (.schema ⟨"Former"⟩) = some 0 := by decide +kernel

/-- A type that is stored again with a reference of the one behind it. -/
def overtaken : List Change :=
  [
    .register (scalarType "First" []),
    .register (scalarType "Second" [.schema ⟨"Shared"⟩]),
    .register (scalarType "First" [.schema ⟨"Shared"⟩])
  ]

/-- The reference led to the second type, and leads to the first one in rebuilt indexes. -/
theorem overtaken_moves
    : ¬∀ record ∈ (empty.applyAll overtaken).records,
        ∀ reference ∈ record.references,
          (empty.applyAll overtaken).rebuild.find reference
          = (empty.applyAll overtaken).find reference := by
  decide +kernel

end Registry
end SchemaGraph
