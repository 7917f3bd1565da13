import SchemaGraph.Proofs.Construction.Published
import SchemaGraph.Proofs.Registry.Permanence

/-! Look-ups from linking to the end of a run.
Naming, merging and completing store types again and register names. This moves no look-up by a
reference or a host type. Merging rebuilds the indexes, too. Then all that is found by the types is
found again, but a reference on which keys of several types agree may lead to another one of these.
-/

namespace SchemaGraph

open Registry

/-- Both registries find the same by every reference and every host type, in as many slots, whose
types have the same references and were found out to be the same.
-/
structure Registry.SameLookups (before after : Registry) : Prop where
  find : ∀ reference, after.find reference = before.find reference
  findRuntime
    : ∀ type position scope,
        after.findRuntime type position scope = before.findRuntime type position scope
  size : after.size = before.size
  references : after.referenceLists = before.referenceLists
  discovered
    : after.records.map TypeRecord.discovered = before.records.map TypeRecord.discovered

theorem Registry.Unmoved.sameLookups {before after : Registry}
    (unmoved : Unmoved before after)
    : SameLookups before after where
  find reference := congrFun unmoved.find reference
  findRuntime type position scope :=
    congrFun unmoved.find ⟨.runtime type, position, scope⟩
  size := unmoved.size
  references := unmoved.map_records Standing.references
  discovered := unmoved.map_records Standing.discovered

/-- Both registries may find the same by every reference. They find the same by every host type, and
by every reference that one slot at most answers.
-/
structure Registry.SameCandidates (before after : Registry) : Prop where
  mayFind : ∀ reference slot, after.MayFind reference slot ↔ before.MayFind reference slot
  find
    : ∀ reference,
        before.Decides reference → after.find reference = before.find reference
  findRuntime
    : ∀ type position scope,
        after.findRuntime type position scope = before.findRuntime type position scope
  size : after.size = before.size
  references : after.referenceLists = before.referenceLists
  discovered
    : after.records.map TypeRecord.discovered = before.records.map TypeRecord.discovered

theorem Registry.Unshifted.sameCandidates {before after : Registry}
    (unshifted : Unshifted before after)
    : SameCandidates before after where
  mayFind := unshifted.mayFind
  find _ := unshifted.find_eq
  findRuntime := unshifted.findRuntime_eq
  size := unshifted.size
  references := unshifted.map_records Standing.references
  discovered := unshifted.map_records Standing.discovered

-----------------------------------------------------------------------------------------
-- Phases
-----------------------------------------------------------------------------------------

/-- A run whose calls edit the registry edits it. -/
theorem Schedule.run_edits {σ : Type} (phase : Phase) {action : Action σ}
    (each : ∀ workspace slot, Edits workspace.registry (action slot workspace).2.registry)
    (workspace : Workspace σ)
    : Edits workspace.registry (Schedule.run phase action workspace).2.registry := by
  rw [run_registry]
  exact Chains.reflTransGen_foldl Workspace.registry each _ workspace

theorem TypeRecord.standing_withName (record : TypeRecord) (name : String)
    : (record.withDefinition (record.definition.withName name)).standing = record.standing := by
  have isNamedType
      : (record.definition.withName name).isNamedType = record.definition.isNamedType := by
    cases record.definition <;> rfl
  refine standing_withDefinition (Definition.kind_mapHeader _ _) ?_ isNamedType
  simp [Definition.runtime, Definition.withName, TypeRecord.runtime]

theorem TypeRecord.standing_complete (completion : Completion) (record : TypeRecord)
    : (record.withDefinition (completion.complete record.definition).1).standing
      = record.standing := by
  have same := completion.outline_complete record.definition
  exact standing_withDefinition (congrArg Outline.kind same) (congrArg Outline.runtime same)
    (Definition.isNamedType_congr same)

namespace Plan

variable (plan : Plan)

theorem nameType_edits (progress : Progress) (slot : Slot)
    : Edits progress.registry (plan.nameType slot progress).2.registry := by
  cases found : progress.registry.get? slot with
  | none =>
      unfold nameType
      rw [found]
  | some record =>
      rcases plan.nameType_cases found with ⟨-, same, -⟩ | ⟨name, -, outcome⟩
      · rw [same]
      · have stored := Edit.store found (record.standing_withName name)
        rcases outcome with ⟨-, same, -⟩ | ⟨-, registered, -⟩
        · rw [same]
          exact .single stored
        · exact .tail (.single stored) (.registerName registered)

theorem completeType_edits (progress : Progress) (slot : Slot)
    : Edits progress.registry (plan.completeType slot progress).2.registry := by
  cases found : progress.registry.get? slot with
  | none =>
      unfold completeType
      rw [found]
  | some record =>
      rcases plan.completeType_cases found with ⟨-, same⟩ | ⟨stored, -, -⟩
      · rw [same]
      · rw [stored]
        exact .single (.store found (record.standing_complete _))

/-- Behind the linking, naming only edits the registry. -/
theorem nameTypes_edits (progress : Progress)
    : Edits (progress.registry.linkInterfaces plan.inspector).1
        (plan.nameTypes progress).registry := by
  let prepared := plan.prepareTypes (progress.announce (.allDiscovered progress.registry))
  have named
      : Edits prepared.registry (Schedule.run .named plan.nameType prepared).2.registry :=
    Schedule.run_edits .named plan.nameType_edits prepared
  exact named

/-- Behind the naming, no type claims the canonical reference of another one, and rebuilding the
indexes would not change what may be found.
-/
theorem nameTypes_settled {progress : Progress} (settled : progress.registry.Settled)
    : (plan.nameTypes progress).registry.Settled
      ∧ (plan.nameTypes progress).registry.Current := by
  have linked := settled.updates (progress.registry.linkInterfaces_updates plan.inspector)
  have current : (progress.registry.linkInterfaces plan.inspector).1.Current := current_rebuild _
  obtain ⟨unmoved, -⟩ := (plan.nameTypes_edits progress).unmoved linked.anchored current.covered
  exact ⟨linked.unmoved unmoved, current.unshifted unmoved.toUnshifted⟩

/-- Once the indexes were rebuilt, naming and completing leave all look-ups by references and host
types, whatever goes wrong in them. Merging rebuilds the indexes again. Then a reference on which
keys of several types agree may lead to another one of these, unless the table had buckets enough
when it was rebuilt the first time.
Witness: types that are stored again bring no key. So the second rebuilding starts with the keys and
the buckets that the first one has left.
-/
theorem phases_sameLookups {earlier : Registry}
    (keyed : ∀ record ∈ earlier.records, isKey record.primary = true)
    (owned : earlier.rebuild.CanonicalOwned)
    : (∀ progress : Progress,
        progress.registry = earlier.rebuild
        → SameLookups progress.registry
            (Schedule.run .named plan.nameType progress).2.registry)
      ∧ (∀ policy (merging : Merging),
          merging.registry = earlier.rebuild
          → SameCandidates merging.registry (Merging.run policy merging).registry
            ∧ (earlier.rebuild.byReference.buckets = earlier.byReference.buckets
              → SameLookups merging.registry (Merging.run policy merging).registry))
      ∧ ∀ progress : Progress,
          progress.registry = earlier.rebuild
          → SameLookups progress.registry
              (Schedule.run .completed plan.completeType progress).2.registry := by
  have anchored : earlier.rebuild.Anchored :=
    ⟨by simpa using keyed, owned, earlier.keysIndexed_rebuild⟩
  have edited {after : Registry} (edits : Edits earlier.rebuild after) :=
    edits.unmoved anchored earlier.covered_rebuild
  refine ⟨?_, ?_, ?_⟩
  · rintro progress rebuilt
    have edits := Schedule.run_edits .named plan.nameType_edits progress
    rw [rebuilt] at edits ⊢
    exact (edited edits).1.sameLookups
  · rintro policy merging rebuilt
    have edits := (Merging.traced_merges merging.registry).edits
    rw [Merging.registry_run, rebuilt] at *
    obtain ⟨unmoved, keys⟩ := edited edits
    have unshifted := unmoved.toUnshifted
    have again := unshifted.trans (earlier.current_rebuild.unshifted unshifted).unshifted_rebuild
    refine ⟨again.sameCandidates, fun buckets => (unmoved_of_find ?_ again.standings).sameLookups⟩
    refine find_rebuild_congr (unshifted.standings.trans earlier.standings_rebuild) ?_
    rw [keys, buckets]
  · rintro progress rebuilt
    have edits := Schedule.run_edits .completed plan.completeType_edits progress
    rw [rebuilt] at edits ⊢
    exact (edited edits).1.sameLookups

/-- The types of a plan when they are named, with an extension that is merged, again before the
indexes are rebuilt.
-/
theorem greetings_sameLookups
    : let plan := Greetings.plan
      let earlier := (plan.nameTypes (plan.discoverTypes Progress.start)).registry
      let progress : Progress := { Progress.start with registry := earlier.rebuild }
      let merging : Merging := ⟨earlier.rebuild, [], [], [], 0, 0⟩
      (∀ record ∈ earlier.records, isKey record.primary = true)
      ∧ earlier.rebuild.CanonicalOwned
      ∧ (Merging.run .report merging).merged = 1
      ∧ SameLookups earlier.rebuild (Schedule.run .named plan.nameType progress).2.registry
      ∧ SameCandidates earlier.rebuild (Merging.run .report merging).registry
      ∧ SameLookups earlier.rebuild
          (Schedule.run .completed plan.completeType progress).2.registry := by
  intro plan earlier progress merging
  have named : earlier.Settled :=
    (plan.nameTypes_settled (discoverTypes_settled Greetings.catalog_distinct)).1
  obtain ⟨naming, merges, completing⟩ := plan.phases_sameLookups named.keyed named.rebuild.owned
  have counted : (Merging.run .report merging).merged = 1 := by
    simp only [merging, earlier, plan]
    cbv
  exact ⟨named.keyed, named.rebuild.owned, counted, naming progress rfl,
    (merges .report merging rfl).1, completing progress rfl⟩

/-- Two types that were known by one identity, the one as an input, the other one as an output. -/
def inquiries : Registry :=
  Registry.empty.applyAll
    [
      .register (scalarType "Alpha" []),
      .register
        (scalarType "Beta" [.schema ⟨"Yard"⟩, ⟨.schema ⟨"Query"⟩, .input, none⟩]),
      .register
        (scalarType "Gamma"
          [⟨.schema ⟨"Yard"⟩, .output, none⟩, ⟨.schema ⟨"Query"⟩, .output, none⟩]),
      .register (scalarType "Alpha" [⟨.schema ⟨"Yard"⟩, .input, none⟩]),
      .register (scalarType "Delta" [])
    ]

/-- Rebuilding enlarges the table, and the two keys change places on the way into it. When nothing
is merged, they are put there again in the order of their slots.
-/
theorem inquiries_move
    : let merging : Merging := ⟨inquiries.rebuild, [], [], [], 0, 0⟩
      let after := (Merging.run .report merging).registry
      (∀ record ∈ inquiries.records, isKey record.primary = true)
      ∧ inquiries.rebuild.CanonicalOwned
      ∧ merging.registry.find (.schema ⟨"Query"⟩) = some 2
      ∧ after.find (.schema ⟨"Query"⟩) = some 1
      ∧ ¬SameLookups merging.registry after := by
  intro merging after
  have before : merging.registry.find (.schema ⟨"Query"⟩) = some 2 := by decide +kernel
  have moved : after.find (.schema ⟨"Query"⟩) = some 1 := by decide +kernel
  refine ⟨by decide +kernel, by decide +kernel, before, moved, fun same => ?_⟩
  exact absurd (before.symm.trans ((same.find _).symm.trans moved)) (by decide)

-----------------------------------------------------------------------------------------
-- A whole run
-----------------------------------------------------------------------------------------

theorem later_revisions
    : ∀ stage ∈ [plan.mergeExtensions, plan.compileBindings, plan.completeTypes,
          plan.validateTypes],
        ∀ progress : Progress, Revisions progress.registry (stage progress).registry := by
  simp only [List.forall_mem_cons, List.not_mem_nil]
  refine ⟨?_, ?_, ?_, ?_, by simp⟩ <;> intro progress
  · exact Merging.run_revisions plan.options.unmatchedExtensions progress.merging
  · exact .refl
  · exact (Schedule.run_edits .completed plan.completeType_edits progress).revisions
  · rw [registry_validateTypes]

theorem runStages_revisions {stages : List Stage}
    (each
      : ∀ stage ∈ stages,
          ∀ progress : Progress, Revisions progress.registry (stage progress).registry)
    (progress : Progress)
    : Revisions progress.registry (progress.runStages stages).registry := by
  induction stages generalizing progress with
  | nil => exact .refl
  | cons stage rest ih =>
      have first := each stage List.mem_cons_self progress
      have further := ih (fun other member => each other (List.mem_cons_of_mem _ member))
      unfold Progress.runStages
      dsimp only
      split
      · exact first.trans (further _)
      · exact first

/-- Wherever a run ends behind the discovery, all may be found that might be found when the types
were linked.
Witness: every stage behind the linking revises the registry, and starts from indexes that were
rebuilt.
-/
theorem progress_sameCandidates (distinct : plan.catalog.Distinct)
    (discovered : (plan.discoverTypes Progress.start).problems = [])
    : let linked :=
        ((plan.discoverTypes Progress.start).registry.linkInterfaces plan.inspector).1
      SameCandidates linked plan.progress.registry := by
  let start := plan.discoverTypes Progress.start
  have settled :=
    (discoverTypes_settled distinct).updates
      (start.registry.linkInterfaces_updates plan.inspector)
  have current : (start.registry.linkInterfaces plan.inspector).1.Current := current_rebuild _
  have named := (plan.nameTypes_edits start).revisions
  have revisions
      : Revisions (start.registry.linkInterfaces plan.inspector).1 plan.progress.registry := by
    unfold Plan.progress stages Progress.runStages
    simp only [discovered, List.isEmpty_nil, if_true]
    unfold Progress.runStages
    dsimp only
    split
    · exact named.trans (runStages_revisions plan.later_revisions _)
    · exact named
  exact (revisions.unshifted settled current).1.sameCandidates

end Plan
end SchemaGraph
