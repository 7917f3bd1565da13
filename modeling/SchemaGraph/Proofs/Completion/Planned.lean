import SchemaGraph.Proofs.Completion.Merges
import SchemaGraph.Proofs.Registry.Names

/-! Merges that are known beforehand.
Where the indexes of a registry cover all types, a merge changes nothing that later merges depend
on: names lead to bases, which are no extensions, and only bases are changed. So what is merged, and
in which order, can be read off the registry before the first merge, and is the same after the last
one. The indexes that are rebuilt at the end have the same keys, if perhaps in other buckets.
-/

namespace SchemaGraph

open Registry

/-- Every type is found by its canonical reference, the indexes cover it, and rebuilding them
changes no look-up by a name.
-/
structure Registry.Poised (registry : Registry) : Prop where
  anchored : registry.Anchored
  covered : registry.Covered
  findByName : registry.rebuild.findByName = registry.findByName

/-- Every type is found by its canonical reference, and rebuilding the indexes changes no look-up by
a reference or a name.
-/
structure Registry.Steady (registry : Registry) : Prop where
  anchored : registry.Anchored
  find : registry.rebuild.find = registry.find
  findByName : registry.rebuild.findByName = registry.findByName

/-- What rebuilding does not change is what it would find. -/
theorem Registry.Steady.current {registry : Registry} (steady : registry.Steady)
    : registry.Current :=
  fun _ => mayFind_congr fun _ _ => congrFun steady.find _

/-- Indexes that rebuilding does not change cover all types, as rebuilt ones do. -/
theorem Registry.Steady.poised {registry : Registry} (steady : registry.Steady)
    : registry.Poised :=
  ⟨steady.anchored, steady.current.covered, steady.findByName⟩

namespace Merging

variable {registry before after : Registry} {slot : Slot} {record : TypeRecord}

/-- No extension is in the slot. -/
def IsBase (registry : Registry) (slot : Slot) : Prop :=
  ∀ record, registry.get? slot = some record → record.isExtension = false

/-- The additions to one base. An extension of another kind ends them. -/
def plannedInto (registry : Registry) (baseSlot : Slot) (slots : List Slot) : List Addition :=
  match registry.get? baseSlot with
  | none => []
  | some base =>
      (slots.filterMap fun slot =>
          (registry.get? slot).map fun extension => ⟨baseSlot, slot, extension⟩).takeWhile
        fun addition => addition.extension.kind = base.kind

/-- The bindings of the extension on the host type that the base has. -/
def plannedBindings (registry : Registry) (addition : Addition) : List (FieldKey × Binding) :=
  match registry.get? addition.baseSlot with
  | none => []
  | some base =>
      addition.extension.discovered.bindings.map fun entry =>
        (entry.1, retarget base.runtime entry.2)

def plannedAlong (registry : Registry) (groups : List (String × List Slot)) : List Addition :=
  groups.flatMap fun group =>
    match registry.findByName group.1 with
    | some baseSlot => plannedInto registry baseSlot group.2
    | none => []

/-- What a run over the registry merges, by group and slot. -/
def planned (registry : Registry) : List Addition :=
  plannedAlong registry (groups registry)

-----------------------------------------------------------------------------------------
-- Groups
-----------------------------------------------------------------------------------------

/-- Adds a slot to the group of its name, if it holds an extension. -/
def addToGroups (groups : Entries String (List Slot)) (entry : (Bool × Option String) × Slot)
    : Entries String (List Slot) :=
  match entry.1.1, entry.1.2 with
  | true, some name =>
      Entries.insert groups name ((Entries.get? groups name).getD [] ++ [entry.2])
  | _, _ => groups

/-- The groups are formed by the names of the extensions in the order of the slots. -/
theorem groups_eq (registry : Registry)
    : groups registry
      = (registry.records.map fun record => (record.isExtension, record.name)).zipIdx.foldl
          addToGroups [] := by
  rw [List.zipIdx_map, List.foldl_map]
  rfl

/-- The groups depend on the outlines of the definitions alone. -/
theorem groups_congr (same : after.outlines = before.outlines)
    : groups after = groups before := by
  have labels (registry : Registry)
      : (registry.records.map fun record => (record.isExtension, record.name))
        = registry.outlines.map fun outline => (outline.isExtension, outline.name) := by
    simp [outlines, Definition.outline, TypeRecord.isExtension, TypeRecord.name]
  rw [groups_eq, groups_eq, labels, labels, same]

/-- A slot is in a group behind those before, or is the one that was added to the group. -/
theorem mem_addToGroups {groups : Entries String (List Slot)} {label : Bool × Option String}
    {added : Slot} {group : String × List Slot} (formed : group ∈ addToGroups groups (label, added))
    (member : slot ∈ group.2)
    : (∃ earlier ∈ groups, earlier.1 = group.1 ∧ slot ∈ earlier.2)
      ∨ label = (true, some group.1) ∧ slot = added := by
  unfold addToGroups at formed
  split at formed
  · next name extension named =>
      rcases Entries.mem_insert formed with old | rfl
      · exact Or.inl ⟨group, old, rfl, member⟩
      · rcases List.mem_append.mp member with earlier | own
        · cases before : Entries.get? groups name with
          | none => simp [before] at earlier
          | some slots =>
              have here : slot ∈ slots := by simpa [before] using earlier
              exact Or.inl ⟨(name, slots), Entries.mem_of_get? before, rfl, here⟩
        · exact Or.inr ⟨Prod.ext extension named, List.mem_singleton.mp own⟩
  · exact Or.inl ⟨group, formed, rfl, member⟩

/-- The slots of a group hold extensions of its name.
Witness: induction on the labels; a slot joins the group of its own name only.
-/
theorem exists_extension_of_mem_groups {group : String × List Slot}
    (formed : group ∈ groups registry) (member : slot ∈ group.2)
    : ∃ record,
        registry.get? slot = some record
        ∧ record.isExtension = true
        ∧ record.name = some group.1 := by
  have collected (labels : List ((Bool × Option String) × Slot))
      (sofar : Entries String (List Slot)) {group : String × List Slot}
      (formed : group ∈ labels.foldl addToGroups sofar) (member : slot ∈ group.2)
      : (∃ earlier ∈ sofar, earlier.1 = group.1 ∧ slot ∈ earlier.2)
        ∨ ((true, some group.1), slot) ∈ labels := by
    induction labels generalizing sofar with
    | nil => exact Or.inl ⟨group, formed, rfl, member⟩
    | cons entry rest ih =>
        obtain ⟨label, added⟩ := entry
        rcases ih _ formed with ⟨earlier, here, same, inside⟩ | later
        · rcases mem_addToGroups here inside with ⟨first, old, sameFirst, inFirst⟩ | ⟨rfl, rfl⟩
          · exact Or.inl ⟨first, old, sameFirst.trans same, inFirst⟩
          · exact Or.inr (same ▸ List.mem_cons_self)
        · exact Or.inr (List.mem_cons_of_mem _ later)
  rw [groups_eq] at formed
  rcases collected _ [] formed member with ⟨_, impossible, -⟩ | labelled
  · cases impossible
  · have here := List.mem_zipIdx_iff_getElem?.mp labelled
    rw [List.getElem?_map] at here
    obtain ⟨record, found, same⟩ := Option.map_eq_some_iff.mp here
    exact ⟨record, found, congrArg Prod.fst same, congrArg Prod.snd same⟩

-----------------------------------------------------------------------------------------
-- Names behind a rebuilding
-----------------------------------------------------------------------------------------

/-- So does the key that a type has in the index of names. -/
theorem bind_nameKey_congr (same : after.outlines = before.outlines) (slot : Slot)
    : (after.get? slot).bind nameKey = (before.get? slot).bind nameKey := by
  have here := map_outline_get? same slot
  cases found : before.get? slot with
  | none =>
      rw [found] at here
      rw [Option.map_eq_none_iff.mp here]
  | some record =>
      rw [found] at here
      obtain ⟨later, there, outline⟩ := Option.map_eq_some_iff.mp here
      rw [there]
      exact nameKey_congr outline

/-- Which names are left depends on the names, not on the structure of the types. -/
theorem byName_rebuild_congr (same : after.outlines = before.outlines)
    (byName : after.byName = before.byName)
    : after.rebuild.byName = before.rebuild.byName := by
  unfold rebuild
  dsimp only
  rw [byName]
  simp only [bind_nameKey_congr same]

/-- Names stay as they are when a rebuilt registry is rebuilt again. -/
theorem poised_rebuild (anchored : registry.rebuild.Anchored) : registry.rebuild.Poised where
  anchored := anchored
  covered := covered_rebuild registry
  findByName := (namesHold_rebuild registry).findByName_rebuild

/-- References do, too, if there were buckets enough. -/
theorem steady_rebuild (anchored : registry.rebuild.Anchored)
    (buckets : registry.rebuild.byReference.buckets = registry.byReference.buckets)
    : registry.rebuild.Steady where
  anchored := anchored
  find := find_rebuild_congr registry.standings_rebuild buckets
  findByName := (namesHold_rebuild registry).findByName_rebuild

-----------------------------------------------------------------------------------------
-- What merges leave alone
-----------------------------------------------------------------------------------------

/-- References and names lead where they led, to types of the standing that they had. -/
structure Tracks (before after : Registry) : Prop extends Unmoved before after where
  findByName : after.findByName = before.findByName

/-- A registry tracks itself. -/
theorem Tracks.refl (registry : Registry) : Tracks registry registry :=
  ⟨.refl registry, rfl⟩

/-- However types are merged, look-ups go on leading where they led. -/
theorem Tracks.store (tracks : Tracks before after) (anchored : before.Anchored)
    (covered : before.Covered) {merge : Merge} (found : after.get? merge.baseSlot = some merge.base)
    : Tracks before (store after merge) := by
  have same := standing_mergedRecord after merge.base merge.extension
  have stored :=
    (anchored.unmoved tracks.toUnmoved).unmoved_register
      (covered.unshifted tracks.toUnshifted) found same
  refine ⟨tracks.toUnmoved.trans stored, ?_⟩
  rw [← tracks.findByName]
  funext name
  simp only [Registry.findByName, Merging.store, byName_register]

/-- What does not change while bases are merged into. -/
structure Keeps (before after : Registry) : Prop extends Unmoved before after where
  outlines : after.outlines = before.outlines
  findByName : after.findByName = before.findByName
  extensions
    : ∀ ⦃slot record⦄,
        before.get? slot = some record
        → record.isExtension = true
        → after.get? slot = some record

/-- A registry keeps all that it has. -/
theorem Keeps.refl (registry : Registry) : Keeps registry registry where
  toUnmoved := .refl registry
  outlines := rfl
  findByName := rfl
  extensions _ _ found _ := found

/-- Names lead to bases. -/
theorem isBase_of_findByName (poised : registry.Poised) {name : String}
    (leads : registry.findByName name = some slot)
    : IsBase registry slot := by
  intro record found
  rw [← poised.findByName] at leads
  have keyed := (namesHold_rebuild registry).nameKey_of_findByName leads
  rw [get?_rebuild, found, Option.bind_some] at keyed
  exact isExtension_of_nameKey keyed

/-- What keeps a registry tracks it. -/
theorem Keeps.tracks (keeps : Keeps before after) : Tracks before after :=
  ⟨keeps.toUnmoved, keeps.findByName⟩

section

variable (poised : before.Poised)
include poised

/-- The canonical references go on to find their types. -/
theorem Keeps.anchored (keeps : Keeps before after) : after.Anchored :=
  poised.anchored.unmoved keeps.toUnmoved

/-- Merging into a base keeps all of this. -/
theorem Keeps.store (keeps : Keeps before after) {merge : Merge}
    (found : after.get? merge.baseSlot = some merge.base) (isBase : IsBase before merge.baseSlot)
    : Keeps before (store after merge) := by
  have same := standing_mergedRecord after merge.base merge.extension
  have outline := outline_mergedRecord after merge.base merge.extension
  have tracks := keeps.tracks.store poised.anchored poised.covered found
  have stores := (keeps.anchored poised).stores found (references_congr same)
  refine ⟨tracks.toUnmoved, ?_, tracks.findByName, ?_⟩
  · exact (stores.map_records found outline).trans keeps.outlines
  · intro slot record here extension
    have there := keeps.extensions here extension
    by_cases own : merge.baseSlot = slot
    · subst own
      rw [isBase record here] at extension
      cases extension
    · exact (stores.others slot own).trans there

/-- Merging one extension after the other keeps the registry, as long as it is into bases.
Witness: a base stays one, since each merge keeps all outlines.
-/
theorem Keeps.foldl_store {merges : List Merge} (keeps : Keeps before after)
    (traced : Traced after merges) (bases : ∀ merge ∈ merges, IsBase before merge.baseSlot)
    : Keeps before (merges.foldl Merging.store after) := by
  induction merges generalizing after with
  | nil => exact keeps
  | cons merge rest ih =>
      obtain ⟨found, -, -, later⟩ := traced
      have stored := keeps.store poised found (bases merge List.mem_cons_self)
      exact ih stored later fun other member => bases other (List.mem_cons_of_mem merge member)

/-- Names lead where they led also behind a rebuilding. -/
theorem Keeps.findByName_rebuild (keeps : Keeps before after)
    (byName : after.byName = before.byName)
    : after.rebuild.findByName = before.findByName := by
  rw [← poised.findByName]
  funext name
  rw [Registry.findByName, byName_rebuild_congr keeps.outlines byName, Registry.findByName]

end

/-- Where the indexes are rebuilt in the same number of buckets, a rebuilding keeps it, too. -/
theorem Keeps.rebuild (keeps : Keeps before after) (steady : before.Steady)
    (byName : after.byName = before.byName)
    (buckets : after.byReference.buckets = before.byReference.buckets)
    : Keeps before after.rebuild where
  toUnmoved := by
    refine unmoved_of_find ?_ (after.standings_rebuild.trans keeps.standings)
    exact (find_rebuild_congr keeps.standings buckets).trans steady.find
  outlines := by
    rw [Registry.outlines, records_rebuild]
    exact keeps.outlines
  findByName := keeps.findByName_rebuild steady.poised byName
  extensions slot record found extension := by
    rw [get?_rebuild]
    exact keeps.extensions found extension

-----------------------------------------------------------------------------------------
-- What is merged
-----------------------------------------------------------------------------------------

/-- The next extension is planned if it is of the kind of the base, and otherwise ends the plan. -/
theorem plannedInto_cons {baseSlot : Slot} {base : TypeRecord}
    (found : registry.get? baseSlot = some base) (slot : Slot) (rest : List Slot)
    : plannedInto registry baseSlot (slot :: rest)
      = match registry.get? slot with
        | none => plannedInto registry baseSlot rest
        | some extension =>
            if extension.kind = base.kind then
              ⟨baseSlot, slot, extension⟩ :: plannedInto registry baseSlot rest
            else
              [] := by
  simp only [plannedInto, found, List.filterMap_cons]
  cases registry.get? slot with
  | none => rfl
  | some extension =>
      simp only [Option.map_some, List.takeWhile_cons, decide_eq_true_eq]

/-- Nothing is planned for a base that is not there. -/
theorem plannedInto_of_none {baseSlot : Slot} (nothing : registry.get? baseSlot = none)
    (slots : List Slot)
    : plannedInto registry baseSlot slots = [] := by
  rw [plannedInto, nothing]

/-- All merges of a group go into its base. -/
theorem baseSlot_of_mem_mergesInto {baseSlot : Slot} {slots : List Slot} {merge : Merge}
    (member : merge ∈ mergesInto baseSlot registry slots)
    : merge.baseSlot = baseSlot := by
  induction slots generalizing registry with
  | nil => cases member
  | cons slot rest ih =>
      unfold mergesInto at member
      split at member
      · split at member
        · cases member
        · rcases List.mem_cons.mp member with rfl | later
          · rfl
          · exact ih later
      · exact ih member

section

variable (poised : before.Poised)
include poised

/-- What is merged into a base is what was planned, whatever was merged before.
Witness: induction on the slots; the merges in between keep the base, its kind and the extensions.
-/
theorem additions_mergesInto {baseSlot : Slot} {slots : List Slot}
    (isBase : IsBase before baseSlot)
    (extensions
      : ∀ slot ∈ slots, ∃ record, before.get? slot = some record ∧ record.isExtension = true)
    (keeps : Keeps before after)
    : (mergesInto baseSlot after slots).map Merge.toAddition
      = plannedInto before baseSlot slots := by
  induction slots generalizing after with
  | nil =>
      unfold plannedInto
      split <;> rfl
  | cons slot rest ih =>
      have later := fun other member => extensions other (List.mem_cons_of_mem slot member)
      obtain ⟨extension, found, isExtension⟩ := extensions slot List.mem_cons_self
      have there := keeps.extensions found isExtension
      unfold mergesInto
      cases foundBase : before.get? baseSlot with
      | none =>
          rw [keeps.toUnmoved.get?_eq_none foundBase]
          refine (ih later keeps).trans ?_
          rw [plannedInto_of_none foundBase, plannedInto_of_none foundBase]
      | some base =>
          obtain ⟨current, here, same⟩ := keeps.toUnmoved.exists_get? foundBase
          have kind : current.kind = base.kind := congrArg Standing.kind same
          rw [plannedInto_cons foundBase, here, there, found]
          dsimp only
          by_cases alike : extension.kind = base.kind
          · let merge : Merge := { baseSlot, slot, extension, base := current }
            have stored : Keeps before (store after merge) := keeps.store poised here isBase
            rw [if_pos alike, if_neg (by simp [kind, alike]), List.map_cons, ih later stored]
          · rw [if_neg alike, if_pos (by simp [kind, alike]), List.map_nil]

/-- So it is for one group after the other.
Witness: the groups before keep the look-up of the name.
-/
theorem additions_mergesAlong {groups : List (String × List Slot)}
    (extensions
      : ∀ group ∈ groups,
          ∀ slot ∈ group.2,
            ∃ record, before.get? slot = some record ∧ record.isExtension = true)
    (keeps : Keeps before after)
    : (mergesAlong after groups).map Merge.toAddition = plannedAlong before groups := by
  induction groups generalizing after with
  | nil => rfl
  | cons group rest ih =>
      have here := extensions group List.mem_cons_self
      have later := fun other member => extensions other (List.mem_cons_of_mem group member)
      have sameName := congrFun keeps.findByName group.1
      rw [mergesAlong, List.map_append, plannedAlong, List.flatMap_cons, ← plannedAlong]
      cases leads : before.findByName group.1 with
      | none =>
          rw [leads] at sameName
          simp only [mergesOf, sameName, List.foldl_nil, List.map_nil, List.nil_append]
          exact ih later keeps
      | some baseSlot =>
          have isBase := isBase_of_findByName poised leads
          rw [leads] at sameName
          simp only [mergesOf, sameName, additions_mergesInto poised isBase here keeps]
          congr 1
          refine ih later (keeps.foldl_store poised (traced_mergesInto _ _ _) ?_)
          intro merge member
          rw [baseSlot_of_mem_mergesInto member]
          exact isBase

/-- While only bases are changed, a run merges what it merged at first. -/
theorem additions_merges (keeps : Keeps before after)
    : (merges after).map Merge.toAddition = planned before := by
  rw [merges, groups_congr keeps.outlines]
  refine additions_mergesAlong poised ?_ keeps
  intro group formed slot member
  obtain ⟨record, found, extension, -⟩ := exists_extension_of_mem_groups formed member
  exact ⟨record, found, extension⟩

/-- What is planned for a slot is an extension, and is merged into a base. -/
theorem isBase_of_mem_planned {addition : Addition} (member : addition ∈ planned before)
    : IsBase before addition.baseSlot
      ∧ before.get? addition.slot = some addition.extension
      ∧ addition.extension.isExtension = true := by
  obtain ⟨group, formed, inside⟩ := List.mem_flatMap.mp member
  split at inside
  · next baseSlot leads =>
      unfold plannedInto at inside
      split at inside
      · cases inside
      · have kept := (List.takeWhile_sublist _).mem inside
        obtain ⟨slot, listed, found⟩ := List.mem_filterMap.mp kept
        obtain ⟨extension, here, rfl⟩ := Option.map_eq_some_iff.mp found
        obtain ⟨record, there, isExtension, -⟩ := exists_extension_of_mem_groups formed listed
        cases Option.some.inj (here.symm.trans there)
        exact ⟨isBase_of_findByName poised leads, here, isExtension⟩
  · cases inside

/-- The host type of a base is the one that it has at the start. -/
theorem flatMap_bindings {merges : List Merge} (keeps : Keeps before after)
    (traced : Traced after merges) (bases : ∀ merge ∈ merges, IsBase before merge.baseSlot)
    : merges.flatMap Merge.bindings
      = (merges.map Merge.toAddition).flatMap (plannedBindings before) := by
  induction merges generalizing after with
  | nil => rfl
  | cons merge rest ih =>
      obtain ⟨found, -, -, later⟩ := traced
      have stored := keeps.store poised found (bases merge List.mem_cons_self)
      obtain ⟨base, here, same⟩ := keeps.toUnmoved.symm.exists_get? found
      have runtime : base.runtime = merge.base.runtime := congrArg Standing.runtime same
      have own : merge.bindings = plannedBindings before merge.toAddition := by
        rw [Merge.bindings, plannedBindings, here, ← runtime]
      rw [List.flatMap_cons, List.map_cons, List.flatMap_cons, own,
        ih stored later fun other member => bases other (List.mem_cons_of_mem merge member)]

end

/-- The bindings that an extension brings are the same in a registry that is kept. -/
theorem plannedBindings_congr (keeps : Keeps before after)
    : plannedBindings after = plannedBindings before := by
  funext addition
  rw [plannedBindings, plannedBindings]
  cases found : before.get? addition.baseSlot with
  | none => rw [keeps.toUnmoved.get?_eq_none found]
  | some base =>
      obtain ⟨later, here, same⟩ := keeps.toUnmoved.exists_get? found
      have runtime : later.runtime = base.runtime := congrArg Standing.runtime same
      rw [here]
      simp only [runtime]

-----------------------------------------------------------------------------------------
-- A run by what is planned
-----------------------------------------------------------------------------------------

/-- Merging leaves the index of names alone. -/
theorem byName_foldl_store (registry : Registry) (merges : List Merge)
    : (merges.foldl store registry).byName = registry.byName := by
  induction merges generalizing registry with
  | nil => rfl
  | cons merge rest ih => rw [List.foldl_cons, ih, store, byName_register]

section

variable {merging : Merging} (poised : merging.registry.Poised)
include poised

/-- Every merge was planned. -/
theorem mem_planned_of_mem_merges {merge : Merge} (member : merge ∈ merges merging.registry)
    : merge.toAddition ∈ planned merging.registry := by
  rw [← additions_merges poised (.refl _)]
  exact List.mem_map_of_mem member

/-- So every merge is into a base. -/
theorem isBase_of_mem_merges {merge : Merge} (member : merge ∈ merges merging.registry)
    : IsBase merging.registry merge.baseSlot :=
  (isBase_of_mem_planned poised (mem_planned_of_mem_merges poised member)).1

/-- Until the indexes are rebuilt, a run moves nothing. -/
theorem keeps_merges
    : Keeps merging.registry ((merges merging.registry).foldl store merging.registry) :=
  (Keeps.refl merging.registry).foldl_store poised (traced_merges _) fun _ member =>
    isBase_of_mem_merges poised member

/-- A run changes no outline. -/
theorem outlines_run (policy : UnmatchedPolicy)
    : (run policy merging).registry.outlines = merging.registry.outlines := by
  rw [registry_run, Registry.outlines, records_rebuild]
  exact (keeps_merges poised).outlines

/-- A run changes no look-up by a name.
Witness: merging leaves the index of names, and rebuilding keeps each name whose type still has it.
-/
theorem findByName_run (policy : UnmatchedPolicy)
    : (run policy merging).registry.findByName = merging.registry.findByName := by
  rw [registry_run]
  exact (keeps_merges poised).findByName_rebuild poised (byName_foldl_store _ _)

/-- A run leaves extensions as they are. -/
theorem get?_run_of_isExtension (policy : UnmatchedPolicy)
    (found : merging.registry.get? slot = some record) (extension : record.isExtension = true)
    : (run policy merging).registry.get? slot = some record := by
  rw [registry_run, get?_rebuild]
  exact (keeps_merges poised).extensions found extension

/-- The bindings are stored in the order of the plan. -/
theorem bindings_run_planned (policy : UnmatchedPolicy)
    : (run policy merging).bindings
      = Entries.insertAll merging.bindings
          ((planned merging.registry).flatMap (plannedBindings merging.registry)) := by
  have listed :=
    flatMap_bindings poised (.refl _) (traced_merges merging.registry) fun _ member =>
      isBase_of_mem_merges poised member
  rw [bindings_run, listed, additions_merges poised (.refl _)]

/-- The keys that a run starts with are in the buckets until it rebuilds them. -/
theorem byReference_merges
    : ((merges merging.registry).foldl store merging.registry).byReference
      = merging.registry.byReference :=
  ((traced_merges merging.registry).edits.unmoved poised.anchored poised.covered).2

end

/-- Where rebuilding moves nothing, a run moves nothing. -/
theorem keeps_run {merging : Merging} (steady : merging.registry.Steady) (policy : UnmatchedPolicy)
    : Keeps merging.registry (run policy merging).registry := by
  rw [registry_run]
  exact (keeps_merges steady.poised).rebuild steady (byName_foldl_store _ _)
    (congrArg KeyTable.buckets (byReference_merges steady.poised))

/-- The next run finds everything as this one did. -/
theorem poised_run {merging : Merging} (steady : merging.registry.Steady)
    (policy : UnmatchedPolicy)
    : (run policy merging).registry.Poised := by
  have anchored := (keeps_run steady policy).anchored steady.poised
  rw [registry_run] at anchored ⊢
  exact poised_rebuild anchored

/-- A second run merges what the first one did. -/
theorem planned_run {merging : Merging} (steady : merging.registry.Steady)
    (policy : UnmatchedPolicy)
    : planned (run policy merging).registry = planned merging.registry := by
  rw [← additions_merges (poised_run steady policy) (.refl _)]
  exact additions_merges steady.poised (keeps_run steady policy)

end Merging
end SchemaGraph
