import SchemaGraph.Proofs.Completion.Unmatched
import SchemaGraph.Proofs.Data.Absorbing
import SchemaGraph.Proofs.Registry.Extent

/-! What a run merges when it reports nothing.
Errors are only ever added. So where a run reports none, no group was ended by an extension of
another kind, and every extension whose name leads to a type was merged into that type.
-/

namespace SchemaGraph.Merging

open Registry

variable {registry : Registry} {merging : Merging} {policy : UnmatchedPolicy} {name : String}
  {slot baseSlot : Slot} {slots : List Slot} {groups : List (String × List Slot)}

-----------------------------------------------------------------------------------------
-- Errors
-----------------------------------------------------------------------------------------

theorem errors_mergeInto (name : String) (baseSlot : Slot) (merging : Merging)
    (slots : List Slot)
    : merging.errors <+: (mergeInto name baseSlot merging slots).errors := by
  induction slots generalizing merging with
  | nil => exact List.prefix_refl _
  | cons slot rest ih =>
      unfold mergeInto
      split
      · next base extension _ _ =>
          split
          · exact List.prefix_append _ _
          · exact ih (merging.mergeOne baseSlot slot base extension)
      · exact ih merging

theorem errors_mergeGroup (policy : UnmatchedPolicy) (merging : Merging)
    (group : String × List Slot)
    : merging.errors <+: (mergeGroup policy merging group).errors := by
  unfold mergeGroup
  split
  · exact errors_mergeInto _ _ _ _
  · cases policy with
    | drop => exact List.prefix_refl _
    | report => exact List.prefix_append _ _

theorem errors_run (policy : UnmatchedPolicy) (merging : Merging)
    : merging.errors <+: (run policy merging).errors :=
  prefix_foldl Merging.errors (errors_mergeGroup policy) (Merging.groups merging.registry) merging

-----------------------------------------------------------------------------------------
-- Groups
-----------------------------------------------------------------------------------------

/-- The slots in the group of a name. -/
def groupOf (groups : Entries String (List Slot)) (name : String) : List Slot :=
  (Entries.get? groups name).getD []

/-- One step adds the slot to the group of its name, if it holds an extension. -/
theorem mem_groupOf_addToGroups {sofar : Entries String (List Slot)}
    {entry : (Bool × Option String) × Slot}
    : slot ∈ groupOf (addToGroups sofar entry) name
      ↔ slot ∈ groupOf sofar name ∨ entry = ((true, some name), slot) := by
  obtain ⟨⟨extension, own⟩, added⟩ := entry
  unfold addToGroups groupOf
  split
  · next other isExtension named =>
      dsimp only at isExtension named
      subst isExtension named
      rw [Entries.get?_insert]
      by_cases same : other = name
      · simp [same, eq_comm]
      · simp [same]
  · next other =>
      refine (or_iff_left ?_).symm
      rintro ⟨⟩
      exact other name rfl rfl

/-- The group of a name has just the extensions with the name. -/
theorem mem_groupOf_iff
    : slot ∈ groupOf (Merging.groups registry) name
      ↔ ∃ record,
          registry.get? slot = some record
          ∧ record.isExtension = true
          ∧ record.name = some name := by
  have collected (labels : List ((Bool × Option String) × Slot))
      (sofar : Entries String (List Slot))
      : slot ∈ groupOf (labels.foldl addToGroups sofar) name
        ↔ slot ∈ groupOf sofar name ∨ ((true, some name), slot) ∈ labels := by
    induction labels generalizing sofar with
    | nil => simp
    | cons entry rest ih =>
        rw [List.foldl_cons, ih, mem_groupOf_addToGroups, List.mem_cons, or_assoc, eq_comm]
  rw [groups_eq, collected, List.mem_zipIdx_iff_getElem?, List.getElem?_map]
  simp [groupOf, Registry.get?]

-----------------------------------------------------------------------------------------
-- Merges of a run without errors
-----------------------------------------------------------------------------------------

theorem size_le_store (registry : Registry) (merge : Merge)
    : registry.size ≤ (store registry merge).size :=
  size_le_register _ _

theorem size_le_foldl_store (registry : Registry) (merges : List Merge)
    : registry.size ≤ (merges.foldl store registry).size := by
  induction merges generalizing registry with
  | nil => exact Nat.le_refl _
  | cons merge rest ih => exact (size_le_store registry merge).trans (ih _)

/-- Without an error, all extensions of a group are merged.
Witness: induction on the slots; an extension of another kind than the base would be an error.
-/
theorem exists_mem_mergesInto
    (clean : (mergeInto name baseSlot merging slots).errors = merging.errors)
    (insideBase : baseSlot < merging.registry.size)
    (inside : ∀ slot ∈ slots, slot < merging.registry.size) (member : slot ∈ slots)
    : ∃ merge ∈ mergesInto baseSlot merging.registry slots, merge.slot = slot := by
  induction slots generalizing merging with
  | nil => cases member
  | cons first rest ih =>
      obtain ⟨base, foundBase⟩ := exists_get?_of_lt insideBase
      obtain ⟨extension, found⟩ := exists_get?_of_lt (inside first List.mem_cons_self)
      unfold mergeInto at clean
      unfold mergesInto
      simp only [foundBase, found] at clean ⊢
      by_cases kind : extension.kind = base.kind
      · rw [if_neg (not_not.mpr kind)] at clean ⊢
        let merge : Merge := { baseSlot, slot := first, extension, base }
        have larger := size_le_store merging.registry merge
        rcases List.mem_cons.mp member with rfl | later
        · exact ⟨merge, List.mem_cons_self, rfl⟩
        · have further
              : (mergeInto name baseSlot (merging.mergeOne baseSlot first base extension)
                  rest).errors
                = (merging.mergeOne baseSlot first base extension).errors :=
            clean
          obtain ⟨other, among, same⟩ :=
            ih further (insideBase.trans_le larger)
              (fun slot listed => (inside slot (List.mem_cons_of_mem _ listed)).trans_le larger)
              later
          exact ⟨other, List.mem_cons_of_mem _ among, same⟩
      · rw [if_pos kind] at clean
        exact absurd clean (by simp)

/-- Without an error, all extensions of a group with a base are merged into it. -/
theorem exists_mem_mergesOf {group : String × List Slot}
    (clean : (mergeGroup policy merging group).errors = merging.errors)
    (leads : merging.registry.findByName group.1 = some baseSlot)
    (insideBase : baseSlot < merging.registry.size)
    (inside : ∀ slot ∈ group.2, slot < merging.registry.size) (member : slot ∈ group.2)
    : ∃ merge ∈ mergesOf merging.registry group,
        merge.slot = slot ∧ merge.baseSlot = baseSlot := by
  unfold mergeGroup at clean
  rw [leads] at clean
  obtain ⟨merge, among, same⟩ := exists_mem_mergesInto clean insideBase inside member
  have own : mergesOf merging.registry group = mergesInto baseSlot merging.registry group.2 := by
    rw [mergesOf, leads]
  exact ⟨merge, own ▸ among, same, baseSlot_of_mem_mergesInto among⟩

theorem registry_mergeGroup (policy : UnmatchedPolicy) (merging : Merging)
    (group : String × List Slot)
    : (mergeGroup policy merging group).registry
      = (mergesOf merging.registry group).foldl store merging.registry := by
  obtain ⟨errors, dropped, same⟩ := mergeGroup_eq policy merging group
  rw [same, ← registry_foldl_apply]

/-- Where all groups together report nothing, neither does the first of them. -/
theorem errors_mergeGroup_of_clean {first : String × List Slot}
    {rest : List (String × List Slot)}
    (clean : ((first :: rest).foldl (mergeGroup policy) merging).errors = merging.errors)
    : (mergeGroup policy merging first).errors = merging.errors := by
  have here := errors_mergeGroup policy merging first
  have later :=
    prefix_foldl Merging.errors (errors_mergeGroup policy) rest (mergeGroup policy merging first)
  rw [List.foldl_cons] at clean
  rw [clean] at later
  exact later.eq_of_length_le here.length_le

/-- Without an error, all extensions of all groups with a base are merged.
Witness: induction on the groups; the ones before neither move the name of the base nor take its
slot away.
-/
theorem exists_mem_mergesAlong
    (clean : (groups.foldl (mergeGroup policy) merging).errors = merging.errors)
    (inside : ∀ group ∈ groups, ∀ slot ∈ group.2, slot < merging.registry.size)
    (insideBase : baseSlot < merging.registry.size) {group : String × List Slot}
    (formed : group ∈ groups) (member : slot ∈ group.2)
    (leads : merging.registry.findByName group.1 = some baseSlot)
    : ∃ merge ∈ mergesAlong merging.registry groups,
        merge.slot = slot ∧ merge.baseSlot = baseSlot := by
  induction groups generalizing merging with
  | nil => cases formed
  | cons first rest ih =>
      have fine := errors_mergeGroup_of_clean clean
      rw [mergesAlong]
      rcases List.mem_cons.mp formed with rfl | further
      · obtain ⟨merge, among, same⟩ :=
          exists_mem_mergesOf fine leads insideBase (inside group List.mem_cons_self) member
        exact ⟨merge, List.mem_append_left _ among, same⟩
      · have others
            : (rest.foldl (mergeGroup policy) (mergeGroup policy merging first)).errors
              = (mergeGroup policy merging first).errors :=
          clean.trans fine.symm
        have registry := registry_mergeGroup policy merging first
        have larger := size_le_foldl_store merging.registry (mergesOf merging.registry first)
        rw [← registry] at larger ⊢
        have stillLeads
            : (mergeGroup policy merging first).registry.findByName group.1 = some baseSlot := by
          rw [registry, Registry.findByName, byName_foldl_store]
          exact leads
        have stillInside (other : String × List Slot) (listed : other ∈ rest) (slot : Slot)
            (inGroup : slot ∈ other.2)
            : slot < (mergeGroup policy merging first).registry.size :=
          (inside other (List.mem_cons_of_mem first listed) slot inGroup).trans_le larger
        obtain ⟨merge, among, same⟩ :=
          ih others stillInside (insideBase.trans_le larger) further stillLeads
        exact ⟨merge, List.mem_append_right _ among, same⟩

/-- A run without errors merges an extension into a type if and only if the extension's name leads
to the type.
Witness: an extension is in the group of its name, and in no other one.
-/
theorem exists_merge_iff (hold : merging.registry.NamesHold)
    (clean : (run policy merging).errors = merging.errors)
    : (∃ merge ∈ merges merging.registry, merge.slot = slot ∧ merge.baseSlot = baseSlot)
      ↔ ∃ extension name,
          merging.registry.get? slot = some extension
          ∧ extension.isExtension = true
          ∧ extension.name = some name
          ∧ merging.registry.findByName name = some baseSlot := by
  constructor
  · rintro ⟨merge, member, rfl, rfl⟩
    obtain ⟨group, formed, listed, leads⟩ := exists_group_of_mem_mergesAlong member
    obtain ⟨extension, found, isExtension, named⟩ := exists_extension_of_mem_groups formed listed
    exact ⟨extension, group.1, found, isExtension, named, leads⟩
  · rintro ⟨extension, name, found, isExtension, named, leads⟩
    have grouped := mem_groupOf_iff.mpr ⟨extension, found, isExtension, named⟩
    unfold groupOf at grouped
    cases formed : Entries.get? (Merging.groups merging.registry) name with
    | none => simp [formed] at grouped
    | some slots =>
        have listed : slot ∈ slots := by simpa [formed] using grouped
        obtain ⟨base, foundBase, -⟩ :=
          Option.bind_eq_some_iff.mp (hold.nameKey_of_findByName leads)
        refine exists_mem_mergesAlong clean ?_ (lt_size_of_get? foundBase)
          (Entries.mem_of_get? formed) listed leads
        intro group formed slot member
        obtain ⟨record, there, -⟩ := exists_extension_of_mem_groups formed member
        exact lt_size_of_get? there

end SchemaGraph.Merging
