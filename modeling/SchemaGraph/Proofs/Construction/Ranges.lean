import SchemaGraph.Proofs.Construction.Lookups
import SchemaGraph.Proofs.Construction.Problems
import SchemaGraph.Proofs.Schedule.Flags

/-! The slots that a construction comes to.
Only discovery makes a registry larger. Whatever the catalogue is, everything that leads to a slot
afterwards leads to one of the types that were discovered: look-ups, batches and cycles, the states
of the types, and the flags of a run over all types.
-/

namespace SchemaGraph

open Registry Schedule

-----------------------------------------------------------------------------------------
-- Registries with so many types
-----------------------------------------------------------------------------------------

namespace Registry

variable {before after registry : Registry} {states later : TypeStates} {count : Nat}

/-- Operations have built the registry, it holds so many types, and only these have a state. -/
structure Inside (registry : Registry) (states : TypeStates) (count : Nat) : Prop where
  firm : registry.Firm
  size : registry.size = count
  states : ∀ entry ∈ states, entry.1 < count

/-- The registry holds so many types. Each is found by its first reference, and storing it again
makes the registry no larger. Nothing that leads to a slot leads beyond them.
-/
structure InRange (registry : Registry) (states : TypeStates) (count : Nat) : Prop where
  size : registry.size = count
  leads : registry.LeadsInside
  first
    : ∀ record ∈ registry.records,
        ∃ first,
          record.references.head? = some first ∧ (registry.find first).isSome = true
  again
    : ∀ slot record new,
        registry.get? slot = some record
        → new.references = record.references
        → (registry.register new).1.size = count
  states : ∀ entry ∈ states, entry.1 < count

/-- Slots that the indexes lead to are inside, since the registry is as operations have built it. -/
theorem Inside.inRange (inside : registry.Inside states count)
    : registry.InRange states count where
  size := inside.size
  leads := inside.firm.built.bounded.leadsInside
  first record member := by
    obtain ⟨slot, found⟩ := exists_get?_of_mem member
    obtain ⟨holder, leads⟩ := inside.firm.exists_findKey_primary found
    refine ⟨record.primary, rfl, ?_⟩
    rw [find_of_isKey (inside.firm.keyed record member), leads]
    rfl
  again _ _ _ found same :=
    (inside.firm.store found (TypeRecord.primary_congr same)).2.trans inside.size
  states := inside.states

/-- Revisions of the registry, and states for some of its types, lead to no other slots. -/
theorem Inside.revise (inside : before.Inside states count) (revisions : Revisions before after)
    (among : ∀ entry ∈ later, entry ∈ states ∨ entry.1 < count)
    : after.Inside later count where
  firm := (inside.firm.revisions revisions).1
  size := (inside.firm.revisions revisions).2.trans inside.size
  states entry member := (among entry member).elim (inside.states entry) id

-----------------------------------------------------------------------------------------
-- Linking and merging
-----------------------------------------------------------------------------------------

/-- Links are dependencies, and dependencies are no part of a type's standing. -/
theorem linkObject_edits (inspector : Inspector) (interfaces : List RuntimeType)
    (sofar : Registry × Nat) (object : Slot × RuntimeType)
    : Edits sofar.1 (linkObject inspector interfaces sofar object).1 := by
  rcases linkObject_cases inspector interfaces sofar object with
    same | ⟨record, links, found, stored⟩
  · rw [same]
  · rw [stored]
    exact .single (.store found rfl)

/-- Linking stores types again, one object after the other. -/
theorem linkObjects_edits (registry : Registry) (inspector : Inspector)
    (objects : List (Slot × RuntimeType))
    : Edits registry
        (objects.foldl (linkObject inspector registry.interfaceRuntimes) (registry, 0)).1 :=
  Chains.reflTransGen_foldl Prod.fst (linkObject_edits inspector registry.interfaceRuntimes)
    objects (registry, 0)

/-- In the end it rebuilds the indexes. -/
theorem linkInterfaces_revisions (registry : Registry) (inspector : Inspector)
    : Revisions registry (registry.linkInterfaces inspector).1 :=
  (linkObjects_edits registry inspector registry.objectRuntimes).revisions.tail (.rebuild _)

end Registry

namespace Merging

variable {registry : Registry} {merges rest : List Merge} {count : Nat}

/-- The first part of a trace is one. -/
theorem Traced.of_append (traced : Traced registry (merges ++ rest)) : Traced registry merges := by
  induction merges generalizing registry with
  | nil => trivial
  | cons merge tail ih =>
      obtain ⟨base, extension, kind, later⟩ := traced
      exact ⟨base, extension, kind, ih later⟩

/-- Merges store bases again, and give states to no other types. -/
theorem Traced.inside (merging : Merging) (traced : Traced merging.registry merges)
    (inside : merging.registry.Inside merging.states count)
    : (merges.foldl apply merging).registry.Inside (merges.foldl apply merging).states count := by
  induction merges generalizing merging with
  | nil => exact inside
  | cons merge rest ih =>
      obtain ⟨found, -, -, later⟩ := traced
      refine ih (merging.apply merge) later ?_
      refine inside.revise (.single (.edit (.store found (standing_mergedRecord _ _ _)))) ?_
      intro entry member
      refine (Entries.mem_insert member).imp_right ?_
      rintro rfl
      exact inside.size ▸ lt_size_of_get? found

end Merging

-----------------------------------------------------------------------------------------
-- Calls on single types
-----------------------------------------------------------------------------------------

namespace Progress

variable {before after first second third progress : Progress} {slot : Slot} {count : Nat}

abbrev Inside (progress : Progress) (count : Nat) : Prop :=
  progress.registry.Inside progress.state.states count

abbrev InRange (progress : Progress) (count : Nat) : Prop :=
  progress.registry.InRange progress.state.states count

/-- Besides those from before, just the slot has got a state. -/
def StatesOnly (slot : Slot) (before after : Progress) : Prop :=
  ∀ entry ∈ after.state.states, entry ∈ before.state.states ∨ entry.1 = slot

theorem StatesOnly.refl (slot : Slot) (progress : Progress)
    : StatesOnly slot progress progress :=
  fun _ => Or.inl

/-- Two calls that touch only the state of a slot do so together. -/
theorem StatesOnly.trans (earlier : StatesOnly slot first second)
    (later : StatesOnly slot second third)
    : StatesOnly slot first third := by
  intro entry member
  rcases later entry member with middle | own
  · exact earlier entry middle
  · exact Or.inr own

/-- Setting the state of a slot touches only that one. -/
theorem statesOnly_setState (progress : Progress) (slot : Slot) (state : TypeState)
    : StatesOnly slot progress (progress.setState slot state) := by
  intro entry member
  exact (Entries.mem_insert member).imp_right (congrArg Prod.fst)

/-- Advancing the state of a type touches only that one, be it allowed or not. -/
theorem statesOnly_advance (progress : Progress) (slot : Slot) (state : TypeState)
    (status : Status) (event : Definition → TypeState → Event)
    : StatesOnly slot progress (progress.advance slot state status event) := by
  have set := statesOnly_setState progress slot (state.advance status).1
  unfold advance
  dsimp only
  split <;> exact set

/-- Registering a name touches only the state of its type, be the name free or not. -/
theorem statesOnly_registerNamed (progress : Progress) (slot : Slot) (record : TypeRecord)
    (definition : Definition) (state : TypeState)
    : StatesOnly slot progress (progress.registerNamed slot record definition state).2 := by
  unfold registerNamed
  dsimp only
  split
  · exact .refl slot progress
  · exact statesOnly_advance _ slot state .named .named

/-- A call for a slot inside that edits the registry and touches the state of the slot stays inside.
-/
theorem Inside.call (inside : before.Inside count)
    (revisions : Revisions before.registry after.registry) (only : StatesOnly slot before after)
    (bound : slot < count)
    : after.Inside count := by
  refine inside.revise revisions fun entry member => (only entry member).imp_right ?_
  intro own
  exact own ▸ bound

end Progress

namespace Plan

variable {plan : Plan} {count : Nat} {progress : Progress} {slot : Slot}

/-- Naming a type touches only its state, by the cases of the call. -/
theorem statesOnly_nameType (plan : Plan) (slot : Slot) (progress : Progress)
    : Progress.StatesOnly slot progress (plan.nameType slot progress).2 := by
  unfold nameType
  split
  · exact .refl slot progress
  · have set := Progress.statesOnly_setState progress slot
    dsimp only
    split
    · exact set _
    · exact (set _).trans (Progress.statesOnly_registerNamed _ slot _ _ _)

/-- Completing a type touches only its state, by the cases of the call. -/
theorem statesOnly_completeType (plan : Plan) (slot : Slot) (progress : Progress)
    : Progress.StatesOnly slot progress (plan.completeType slot progress).2 := by
  unfold completeType
  split
  · exact .refl slot progress
  · split
    · exact .refl slot progress
    · have set := Progress.statesOnly_setState progress slot
      dsimp only
      split
      · exact (set _).trans (Progress.statesOnly_advance _ slot _ _ _)
      · exact set _

/-- So naming a type inside stays inside. -/
theorem inside_nameType (slot : Slot) (progress : Progress) (bound : slot < count)
    (inside : progress.Inside count)
    : (plan.nameType slot progress).2.Inside count :=
  inside.call (plan.nameType_edits progress slot).revisions (plan.statesOnly_nameType slot progress)
    bound

/-- So completing a type inside stays inside. -/
theorem inside_completeType (slot : Slot) (progress : Progress) (bound : slot < count)
    (inside : progress.Inside count)
    : (plan.completeType slot progress).2.Inside count :=
  inside.call (plan.completeType_edits progress slot).revisions
    (plan.statesOnly_completeType slot progress) bound

end Plan

-----------------------------------------------------------------------------------------
-- Runs over all types
-----------------------------------------------------------------------------------------

/-- A run over so many types comes to no other slots: neither its batches and calls do nor what its
calls find and leave. It could be done with a flag for each slot.
-/
structure Schedule.RunsInRange (count : Nat) (phase : Phase) (action : Action Journal)
    (start : Progress) : Prop where
  slots
    : ∀ slot ∈ (run phase action start).1.batches.flatten
        ++ (run phase action start).1.unprocessed,
        slot < count
  calls
    : EachCall action
        (fun slot found =>
          slot < count
          ∧ Progress.InRange found count
          ∧ Progress.InRange (action slot found).2 count)
        (run phase action start).1.batches.flatten start
  flagged : flaggedRun phase action start = some (run phase action start)

/-- A run of calls that stay inside has all its slots inside, and ends inside.
Witness: the run is a fold of the calls for the slots of its batches, and these are slots of the
registry.
-/
theorem Progress.Inside.run {count : Nat} {action : Action Journal} {start : Progress}
    (each
      : ∀ slot (progress : Progress),
          slot < count
          → progress.Inside count
          → Progress.Inside (action slot progress).2 count)
    (phase : Phase) (inside : start.Inside count)
    : RunsInRange count phase action start
      ∧ Progress.Inside (Schedule.run phase action start).2 count := by
  have slots (slot : Slot)
      (member
        : slot ∈ (Schedule.run phase action start).1.batches.flatten
            ++ (Schedule.run phase action start).1.unprocessed)
      : slot < count :=
    inside.size ▸ lt_size_of_mem_run phase action start member
  obtain ⟨calls, last⟩ :=
    eachCall_of_keeps (fun progress : Progress => progress.Inside count) each
      (fun slot member => slots slot (List.mem_append_left _ member)) inside
  refine ⟨⟨slots, ?_, ?_⟩, ?_⟩
  · exact calls.imp fun _ _ call => ⟨call.1, call.2.1.inRange, call.2.2.inRange⟩
  · exact flaggedRun_eq each (fun _ kept => kept.size) phase inside
  · rw [Progress.Inside, run_registry, run_state]
    exact last

-----------------------------------------------------------------------------------------
-- Stages
-----------------------------------------------------------------------------------------

namespace Plan

variable {plan : Plan} {count : Nat} {progress : Progress}

/-- What the discovery has registered is inside, and no type has a state yet. -/
theorem inside_discoveredProgress (plan : Plan)
    : plan.discoveredProgress.Inside plan.discoveredProgress.registry.size where
  firm := firm_discover plan.catalog plan.seeds
  size := rfl
  states _ member := absurd member List.not_mem_nil

/-- Linking and announcing stay inside. -/
theorem inside_prepared (inside : progress.Inside count) : (plan.prepared progress).Inside count :=
  inside.revise (progress.registry.linkInterfaces_revisions plan.inspector) fun _ => Or.inl

/-- So does naming all types, in every batch. -/
theorem naming_inRange (inside : progress.Inside count)
    : RunsInRange count .named plan.nameType (plan.prepared progress)
      ∧ (plan.nameTypes progress).Inside count :=
  (inside_prepared inside).run inside_nameType .named

/-- So does completing all types, in every batch. -/
theorem completing_inRange (inside : progress.Inside count)
    : RunsInRange count .completed plan.completeType progress
      ∧ (plan.completeTypes progress).Inside count :=
  inside.run inside_completeType .completed

/-- So does merging.
Witness: the extensions and the bases that are merged are in slots of the registry, and so are the
states that take on names.
-/
theorem inside_mergeExtensions (inside : progress.Inside count)
    : (plan.mergeExtensions progress).Inside count := by
  have merged :=
    (Merging.traced_merges progress.registry).inside progress.merging inside
  have states := Merging.states_run plan.options.unmatchedExtensions progress.merging
  refine inside.revise (Merging.run_revisions plan.options.unmatchedExtensions progress.merging) ?_
  intro entry member
  exact Or.inr (merged.states entry (states ▸ member))

/-- Behind the discovery, no stage changes the number of types. -/
theorem later_inside (plan : Plan)
    : ∀ stage ∈ plan.stages.tail,
        ∀ progress : Progress, progress.Inside count → (stage progress).Inside count := by
  simp only [stages, List.tail_cons, List.forall_mem_cons, List.not_mem_nil]
  refine ⟨?_, ?_, ?_, ?_, ?_, by simp⟩ <;> intro progress inside
  · exact (naming_inRange inside).2
  · exact inside_mergeExtensions inside
  · exact inside
  · exact (completing_inRange inside).2
  · unfold validateTypes
    dsimp only
    split <;> exact inside

end Plan

/-- What every stage keeps, each stage that is run leaves. -/
theorem Progress.left_executed (holds : Progress → Prop) {stages : List Stage}
    (kept : ∀ stage ∈ stages, ∀ progress, holds progress → holds (stage progress))
    {progress : Progress} (start : holds progress)
    : (∀ executed ∈ progress.executed stages, holds executed.left)
      ∧ holds (progress.runStages stages) := by
  induction stages generalizing progress with
  | nil => exact ⟨fun _ member => absurd member List.not_mem_nil, start⟩
  | cons stage rest ih =>
      obtain ⟨here, later⟩ := List.forall_mem_cons.mp kept
      have left := here progress start
      rw [executed, runStages_cons, List.forall_mem_cons]
      split
      · obtain ⟨further, last⟩ := ih later left
        exact ⟨⟨left, further⟩, last⟩
      · exact ⟨⟨left, fun _ member => absurd member List.not_mem_nil⟩, left⟩

-----------------------------------------------------------------------------------------
-- A whole run
-----------------------------------------------------------------------------------------

/-- Alternate names of a published graph lead to its types.
Witness: each of them stems from a state of a slot that holds a type.
-/
theorem TypeGraph.alternateName_lt {registry : Registry} {bindings : Bindings}
    {states : TypeStates} {name : String} {slot : Slot}
    (found : Entries.get? (build registry bindings states).alternateNames name = some slot)
    : slot < registry.size := by
  have stored
      : (build registry bindings states).alternateNames
        = Entries.insertAllNew [] (alternateEntries registry states) :=
    rfl
  rw [stored, Entries.get?_insertAllNew, Entries.get?, List.lookup_nil, Option.none_or] at found
  obtain ⟨entry, among, listed⟩ := List.mem_flatMap.mp (Entries.mem_of_get? found)
  have inside := List.snd_lt_of_mem_zipIdx (List.mem_filter.mp among).1
  rw [Nat.add_zero] at inside
  split at listed
  · obtain ⟨other, -, same⟩ := List.mem_map.mp listed
    exact (congrArg Prod.snd same).symm.trans_lt inside
  · cases listed

namespace Plan

/-- No stage that was run has left the slots that there were behind the discovery. -/
theorem inside_executed (plan : Plan)
    : (∀ executed ∈ plan.executed,
        executed.left.Inside plan.discoveredProgress.registry.size)
      ∧ plan.progress.Inside plan.discoveredProgress.registry.size := by
  have discovered := plan.inside_discoveredProgress
  obtain ⟨later, last⟩ :=
    Progress.left_executed
      (fun progress => progress.Inside plan.discoveredProgress.registry.size)
      plan.later_inside discovered
  have stages : plan.stages = plan.discoverTypes :: plan.stages.tail := rfl
  rw [executed, progress, stages, Progress.executed, Progress.runStages_cons,
    List.forall_mem_cons]
  split
  · exact ⟨⟨discovered, later⟩, last⟩
  · exact ⟨⟨discovered, fun _ member => absurd member List.not_mem_nil⟩, discovered⟩

/-- A run of the plan comes to no slots but those of the types that it discovers, and stores no type
under another identity.
-/
structure StaysInRange (plan : Plan) (count : Nat) : Prop where
  /-- Discovery, too, only has registries that operations have built. -/
  operations : ∀ changes, (empty.applyAll changes).LeadsInside
  stages : ∀ executed ∈ plan.executed, executed.left.InRange count
  linking
    : ∀ objects,
        objects <+: plan.discoveredProgress.registry.objectRuntimes
        → let registry := plan.discoveredProgress.registry
          let linked :=
            (objects.foldl (linkObject plan.inspector registry.interfaceRuntimes)
              (registry, 0)).1
          linked.InRange plan.discoveredProgress.state.states count
  naming
    : RunsInRange count .named plan.nameType (plan.prepared plan.discoveredProgress)
  merging
    : ∀ merges,
        merges <+: Merging.merges plan.namedProgress.registry
        → let merged := merges.foldl Merging.apply plan.namedProgress.merging
          merged.registry.InRange merged.states count
  completing : RunsInRange count .completed plan.completeType plan.compiledProgress
  alternates
    : ∀ name slot,
        Entries.get? plan.progress.graph.alternateNames name = some slot → slot < count
  naming_id
    : ∀ definition named : Definition,
        definition.completeName plan.options.naming = .ok named → named.id = definition.id
  merging_id
    : ∀ registry base extension,
        (Merging.mergedRecord registry base extension).definition.id = base.definition.id
  completing_id
    : ∀ (progress : Progress) (definition : Definition),
        ((plan.completion progress definition).complete definition).1.id = definition.id

/-- Whatever the plan is, with repeated identities, aliases and cycles in its catalogue, its runs
stay in the range of the types that they discover.
Witness: every stage revises the registry, and revisions add no slot.
-/
theorem run_staysInRange (plan : Plan)
    : plan.StaysInRange plan.discoveredProgress.registry.size := by
  have discovered := plan.inside_discoveredProgress
  obtain ⟨naming, named⟩ := naming_inRange discovered
  have compiled : plan.compiledProgress.Inside plan.discoveredProgress.registry.size :=
    inside_mergeExtensions named
  obtain ⟨executed, last⟩ := plan.inside_executed
  constructor
  · exact fun changes => (bounded_empty.applyAll changes).leadsInside
  · exact fun step member => (executed step member).inRange
  · intro objects _
    exact (discovered.revise (linkObjects_edits _ plan.inspector objects).revisions
      fun _ => Or.inl).inRange
  · exact naming
  · rintro merges ⟨rest, all⟩
    have traced := Merging.traced_merges plan.namedProgress.registry
    rw [← all] at traced
    exact (traced.of_append.inside plan.namedProgress.merging named).inRange
  · exact (completing_inRange compiled).1
  · exact fun name slot found => last.size ▸ TypeGraph.alternateName_lt found
  · intro definition named done
    obtain ⟨name, -, rfl⟩ := Definition.completeName_ok done
    exact definition.id_withName name
  · exact fun registry base extension =>
      congrArg Outline.id (Merging.outline_mergedRecord registry base extension)
  · exact fun progress definition =>
      congrArg Outline.id ((plan.completion progress definition).outline_complete definition)

end Plan
end SchemaGraph
