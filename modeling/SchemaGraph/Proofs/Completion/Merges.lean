import SchemaGraph.Completion.Extensions
import SchemaGraph.Proofs.Data.Insertion
import SchemaGraph.Proofs.Definition.Outline
import SchemaGraph.Proofs.Registry.Standing

/-! The merges of a run, one after the other.
A run comes to a list of merges, each with the two types as they are stored at its time. Registry,
bindings and states at the end are what these merges make of those at the start; all else that a run
does is to count and to report.
-/

namespace SchemaGraph.Merging

open Registry

/-- An extension that is merged into the type in a slot. -/
structure Addition where
  baseSlot : Slot
  slot : Slot
  extension : TypeRecord

/-- A merge, with the base as it is before it. -/
structure Merge extends Addition where
  base : TypeRecord

/-- The bindings of the extension on the host type of the base. -/
def Merge.bindings (merge : Merge) : List (FieldKey × Binding) :=
  merge.extension.discovered.bindings.map fun entry =>
    (entry.1, retarget merge.base.runtime entry.2)

/-- Stores the base with what the extension adds. -/
def store (registry : Registry) (merge : Merge) : Registry :=
  (registry.register (mergedRecord registry merge.base merge.extension)).1

def apply (merging : Merging) (merge : Merge) : Merging :=
  merging.mergeOne merge.baseSlot merge.slot merge.base merge.extension

/-- The merges into one base. An extension of another kind ends them. -/
def mergesInto (baseSlot : Slot) (registry : Registry) : List Slot → List Merge
  | [] => []
  | slot :: rest =>
      match registry.get? baseSlot, registry.get? slot with
      | some base, some extension =>
          if extension.kind ≠ base.kind then
            []
          else
            let merge : Merge := { baseSlot, slot, extension, base }
            merge :: mergesInto baseSlot (store registry merge) rest
      | _, _ => mergesInto baseSlot registry rest

def mergesOf (registry : Registry) (group : String × List Slot) : List Merge :=
  match registry.findByName group.1 with
  | some baseSlot => mergesInto baseSlot registry group.2
  | none => []

/-- A group finds the registry that the merges of the groups before it have left. -/
def mergesAlong (registry : Registry) : List (String × List Slot) → List Merge
  | [] => []
  | group :: rest =>
      let here := mergesOf registry group
      here ++ mergesAlong (here.foldl store registry) rest

/-- The merges of a run over the registry, by group and slot. -/
def merges (registry : Registry) : List Merge :=
  mergesAlong registry (groups registry)

-----------------------------------------------------------------------------------------
-- A run by its merges
-----------------------------------------------------------------------------------------

/-- Errors and dropped extensions do not change what is merged. -/
theorem foldl_apply_with (merging : Merging) (errors : List SchemaError) (dropped : Nat)
    (merges : List Merge)
    : merges.foldl apply { merging with errors, dropped }
      = { merges.foldl apply merging with errors, dropped } := by
  induction merges generalizing merging with
  | nil => rfl
  | cons merge rest ih => exact ih (merging.apply merge)

/-- A merge stores its base and touches the registry in no other way. -/
theorem registry_foldl_apply (merging : Merging) (merges : List Merge)
    : (merges.foldl apply merging).registry = merges.foldl store merging.registry := by
  induction merges generalizing merging with
  | nil => rfl
  | cons merge rest ih => exact ih (merging.apply merge)

/-- The bindings of each merge are stored over those of the ones before. -/
theorem bindings_foldl_apply (merging : Merging) (merges : List Merge)
    : (merges.foldl apply merging).bindings
      = Entries.insertAll merging.bindings (merges.flatMap Merge.bindings) := by
  induction merges generalizing merging with
  | nil => rfl
  | cons merge rest ih =>
      have here
          : (merging.apply merge).bindings
            = Entries.insertAll merging.bindings merge.bindings := by
        simp [apply, mergeOne, mergeBindings, Entries.insertAll, Merge.bindings, List.foldl_map]
      rw [List.foldl_cons, ih, here, List.flatMap_cons, Entries.insertAll_append]

/-- Every merge is counted once. -/
theorem merged_foldl_apply (merging : Merging) (merges : List Merge)
    : (merges.foldl apply merging).merged = merging.merged + merges.length := by
  induction merges generalizing merging with
  | nil => rfl
  | cons merge rest ih =>
      have here : (merging.apply merge).merged = merging.merged + 1 := rfl
      rw [List.foldl_cons, ih, here, List.length_cons]
      omega

/-- Merging the extensions of a base is applying their merges, but for the errors.
Witness: induction on the slots; what stops the group stops both.
-/
theorem mergeInto_eq (name : String) (baseSlot : Slot) (merging : Merging) (slots : List Slot)
    : ∃ errors,
        mergeInto name baseSlot merging slots
        = { (mergesInto baseSlot merging.registry slots).foldl apply merging with errors } := by
  induction slots generalizing merging with
  | nil => exact ⟨merging.errors, rfl⟩
  | cons slot rest ih =>
      unfold mergeInto mergesInto
      cases merging.registry.get? baseSlot with
      | none => exact ih merging
      | some base =>
          cases merging.registry.get? slot with
          | none => exact ih merging
          | some extension =>
              dsimp only
              split
              · exact ⟨_, rfl⟩
              · exact ih (merging.mergeOne baseSlot slot base extension)

/-- So it is for a group, whether its base is found or not. -/
theorem mergeGroup_eq (policy : UnmatchedPolicy) (merging : Merging)
    (group : String × List Slot)
    : ∃ errors dropped,
        mergeGroup policy merging group
        = { (mergesOf merging.registry group).foldl apply merging with errors, dropped } := by
  unfold mergeGroup mergesOf
  cases merging.registry.findByName group.1 with
  | some baseSlot =>
      obtain ⟨errors, same⟩ := mergeInto_eq group.1 baseSlot merging group.2
      exact ⟨errors, _, same⟩
  | none =>
      cases policy with
      | drop => exact ⟨_, _, rfl⟩
      | report => exact ⟨_, _, rfl⟩

/-- So it is for one group after the other, each in the registry that the ones before have left. -/
theorem foldl_mergeGroup_eq (policy : UnmatchedPolicy) (merging : Merging)
    (groups : List (String × List Slot))
    : ∃ errors dropped,
        groups.foldl (mergeGroup policy) merging
        = { (mergesAlong merging.registry groups).foldl apply merging with errors, dropped } := by
  induction groups generalizing merging with
  | nil => exact ⟨_, _, rfl⟩
  | cons group rest ih =>
      obtain ⟨errors, dropped, first⟩ := mergeGroup_eq policy merging group
      let here := mergesOf merging.registry group
      obtain ⟨laterErrors, laterDropped, further⟩ :=
        ih { here.foldl apply merging with errors, dropped }
      refine ⟨laterErrors, laterDropped, ?_⟩
      rw [List.foldl_cons, first, further, mergesAlong, List.foldl_append, foldl_apply_with]
      simp only [registry_foldl_apply]
      rfl

/-- A run applies its merges and rebuilds the indexes. -/
theorem run_eq (policy : UnmatchedPolicy) (merging : Merging)
    : ∃ errors dropped,
        run policy merging
        = { (merges merging.registry).foldl apply merging with
            registry := ((merges merging.registry).foldl store merging.registry).rebuild
            errors
            dropped } := by
  obtain ⟨errors, dropped, same⟩ :=
    foldl_mergeGroup_eq policy merging (groups merging.registry)
  refine ⟨errors, dropped, ?_⟩
  unfold run
  rw [same, ← registry_foldl_apply]
  rfl

section

variable (policy : UnmatchedPolicy) (merging : Merging)

/-- The registry is that of the merges with rebuilt indexes. -/
theorem registry_run
    : (run policy merging).registry
      = ((merges merging.registry).foldl store merging.registry).rebuild := by
  obtain ⟨errors, dropped, same⟩ := run_eq policy merging
  rw [same]

/-- The bindings are the old ones with those of the merges stored over them. -/
theorem bindings_run
    : (run policy merging).bindings
      = Entries.insertAll merging.bindings
          ((merges merging.registry).flatMap Merge.bindings) := by
  obtain ⟨errors, dropped, same⟩ := run_eq policy merging
  rw [same, ← bindings_foldl_apply]

/-- The states are those that the merges have left. -/
theorem states_run
    : (run policy merging).states = ((merges merging.registry).foldl apply merging).states := by
  obtain ⟨errors, dropped, same⟩ := run_eq policy merging
  rw [same]

/-- What is counted are the merges. -/
theorem merged_run
    : (run policy merging).merged = merging.merged + (merges merging.registry).length := by
  obtain ⟨errors, dropped, same⟩ := run_eq policy merging
  rw [same, ← merged_foldl_apply]

end

-----------------------------------------------------------------------------------------
-- The order of the merges
-----------------------------------------------------------------------------------------

/-- At most the slots of a group are merged, in their order and each once. -/
theorem slots_mergesInto (baseSlot : Slot) (registry : Registry) (slots : List Slot)
    : ((mergesInto baseSlot registry slots).map fun merge => merge.slot).Sublist slots := by
  induction slots generalizing registry with
  | nil => exact .slnil
  | cons slot rest ih =>
      unfold mergesInto
      split
      · split
        · exact List.nil_sublist _
        · exact (ih _).cons_cons slot
      · exact (ih registry).cons slot

/-- So it is for one group after the other. -/
theorem slots_mergesAlong (registry : Registry) (groups : List (String × List Slot))
    : ((mergesAlong registry groups).map fun merge => merge.slot).Sublist
        (groups.flatMap Prod.snd) := by
  induction groups generalizing registry with
  | nil => exact .slnil
  | cons group rest ih =>
      rw [mergesAlong, List.map_append, List.flatMap_cons]
      refine List.Sublist.append ?_ (ih _)
      unfold mergesOf
      split
      · exact slots_mergesInto _ _ _
      · exact List.nil_sublist _

/-- The extensions are merged by group and slot. -/
theorem slots_merges (registry : Registry)
    : ((merges registry).map fun merge => merge.slot).Sublist
        ((groups registry).flatMap Prod.snd) :=
  slots_mergesAlong registry (groups registry)

-----------------------------------------------------------------------------------------
-- What a merge finds
-----------------------------------------------------------------------------------------

/-- Each merge finds the base and the extension, of one kind, in the registry that the merges before
it have left.
-/
def Traced : Registry → List Merge → Prop
  | _, [] => True
  | registry, merge :: rest =>
      registry.get? merge.baseSlot = some merge.base
      ∧ registry.get? merge.slot = some merge.extension
      ∧ merge.extension.kind = merge.base.kind
      ∧ Traced (store registry merge) rest

variable {registry : Registry}

/-- A trace may be continued where it ends. -/
theorem Traced.append {first rest : List Merge} (here : Traced registry first)
    (further : Traced (first.foldl store registry) rest)
    : Traced registry (first ++ rest) := by
  induction first generalizing registry with
  | nil => exact further
  | cons merge tail ih =>
      obtain ⟨base, extension, kind, later⟩ := here
      exact ⟨base, extension, kind, ih later further⟩

/-- The merges of a group are a trace: each finds its base as the ones before have left it. -/
theorem traced_mergesInto (baseSlot : Slot) (registry : Registry) (slots : List Slot)
    : Traced registry (mergesInto baseSlot registry slots) := by
  induction slots generalizing registry with
  | nil => trivial
  | cons slot rest ih =>
      unfold mergesInto
      split
      · next base extension found foundExtension =>
          split
          · trivial
          · next same => exact ⟨found, foundExtension, Decidable.not_not.mp same, ih _⟩
      · exact ih registry

/-- A group without a base has the empty trace. -/
theorem traced_mergesOf (registry : Registry) (group : String × List Slot)
    : Traced registry (mergesOf registry group) := by
  unfold mergesOf
  split
  · exact traced_mergesInto _ _ _
  · trivial

/-- One group continues the trace of the ones before. -/
theorem traced_mergesAlong (registry : Registry) (groups : List (String × List Slot))
    : Traced registry (mergesAlong registry groups) := by
  induction groups generalizing registry with
  | nil => trivial
  | cons group rest ih => exact (traced_mergesOf registry group).append (ih _)

/-- So all the merges of a run are one trace. -/
theorem traced_merges (registry : Registry) : Traced registry (merges registry) :=
  traced_mergesAlong registry (groups registry)

/-- A base keeps its outline, whatever is merged into it. -/
theorem outline_mergedRecord (registry : Registry) (base extension : TypeRecord)
    : (mergedRecord registry base extension).definition.outline = base.definition.outline := by
  unfold mergedRecord
  dsimp only [TypeRecord.addDependencies, TypeRecord.withDefinition]
  split
  · exact Definition.outline_merge _ _
  · rfl

/-- A merge changes structure and dependencies of the base, and so keeps its standing. -/
theorem standing_mergedRecord (registry : Registry) (base extension : TypeRecord)
    : (mergedRecord registry base extension).standing = base.standing := by
  have same := outline_mergedRecord registry base extension
  exact TypeRecord.standing_withDefinition (congrArg Outline.kind same)
    (congrArg Outline.runtime same) (Definition.isNamedType_congr same)

/-- What storing a merged base leads to, all merges together lead to. -/
theorem Traced.steps {rel : Registry → Registry → Prop} {merges : List Merge}
    (stored
      : ∀ {registry : Registry} {merge : Merge},
          registry.get? merge.baseSlot = some merge.base → rel registry (store registry merge))
    (traced : Traced registry merges)
    : Relation.ReflTransGen rel registry (merges.foldl store registry) := by
  induction merges generalizing registry with
  | nil => exact .refl
  | cons merge rest ih =>
      obtain ⟨found, -, -, later⟩ := traced
      exact (ih later).head (stored found)

/-- Merging stores types of the same standing, and so edits the registry. -/
theorem Traced.edits {merges : List Merge} (traced : Traced registry merges)
    : Edits registry (merges.foldl store registry) :=
  traced.steps fun found => .store found (standing_mergedRecord _ _ _)

/-- A run edits the registry and then rebuilds the indexes. -/
theorem run_revisions (policy : UnmatchedPolicy) (merging : Merging)
    : Revisions merging.registry (run policy merging).registry := by
  rw [registry_run]
  exact (traced_merges merging.registry).edits.revisions.tail (.rebuild _)

end SchemaGraph.Merging
