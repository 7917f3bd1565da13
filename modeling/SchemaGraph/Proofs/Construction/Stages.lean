import SchemaGraph.Construction.Run
import SchemaGraph.Proofs.Completion.Merges
import SchemaGraph.Proofs.Construction.Actions
import SchemaGraph.Proofs.Data.Chains
import SchemaGraph.Proofs.Discovery.Ownership

/-! What the stages of a construction leave behind.
Linking and merging only update the registry. Naming and completing end with all types named and
complete, or else with an error. So wherever a construction ends without one, all types are both.
-/

namespace SchemaGraph

-----------------------------------------------------------------------------------------
-- Linking and merging
-----------------------------------------------------------------------------------------

namespace Registry

/-- Linking an object leaves the registry alone, or stores the type with more dependencies. -/
theorem linkObject_cases (inspector : Inspector) (interfaces : List RuntimeType)
    (sofar : Registry × Nat) (object : Slot × RuntimeType)
    : (linkObject inspector interfaces sofar object).1 = sofar.1
      ∨ ∃ record links,
          sofar.1.get? object.1 = some record
          ∧ (linkObject inspector interfaces sofar object).1
            = (sofar.1.register (record.addDependencies links)).1 := by
  unfold linkObject
  split
  · exact Or.inl rfl
  · next record found =>
      split
      · exact Or.inl rfl
      · exact Or.inr ⟨record, _, found, rfl⟩

/-- A link changes neither references nor outline of the object that is stored. -/
theorem linkObject_updates (inspector : Inspector) (interfaces : List RuntimeType)
    (sofar : Registry × Nat) (object : Slot × RuntimeType)
    : Updates sofar.1 (linkObject inspector interfaces sofar object).1 := by
  rcases linkObject_cases inspector interfaces sofar object with
    same | ⟨record, links, found, stored⟩
  · rw [same]
  · rw [stored]
    exact .single (.store found rfl rfl)

/-- So linking is one update after the other, and a rebuilding. -/
theorem linkInterfaces_updates (registry : Registry) (inspector : Inspector)
    : Updates registry (registry.linkInterfaces inspector).1 := by
  have linked :=
    Chains.reflTransGen_foldl Prod.fst (linkObject_updates inspector registry.interfaceRuntimes)
      registry.objectRuntimes (registry, 0)
  exact linked.tail (.rebuild _)

end Registry

namespace Merging

open Registry

/-- A merge changes neither references nor outline of its base. -/
theorem Traced.updates {registry : Registry} {merges : List Merge}
    (traced : Traced registry merges)
    : Updates registry (merges.foldl store registry) :=
  traced.steps fun found => .store found rfl (outline_mergedRecord _ _ _)

/-- So merging is one update after the other, and a rebuilding. -/
theorem run_updates (policy : UnmatchedPolicy) (merging : Merging)
    : Updates merging.registry (run policy merging).registry := by
  rw [registry_run]
  exact (traced_merges merging.registry).updates.tail (.rebuild _)

end Merging

-----------------------------------------------------------------------------------------
-- Stages
-----------------------------------------------------------------------------------------

/-- What the merging of the extensions starts from. -/
def Progress.merging (progress : Progress) : Merging where
  registry := progress.registry
  bindings := progress.state.bindings
  states := progress.state.states
  errors := progress.errors
  merged := 0
  dropped := 0

/-- Where nothing is wrong at the end, nothing was wrong behind the first stage. -/
theorem Progress.runStages_cons_of_problems {progress : Progress} {stage : Stage}
    {rest : List Stage} (clean : (progress.runStages (stage :: rest)).problems = [])
    : progress.runStages (stage :: rest) = (stage progress).runStages rest
      ∧ (stage progress).problems = [] := by
  have unfolded
      : progress.runStages (stage :: rest)
        = if (stage progress).problems.isEmpty then (stage progress).runStages rest
          else stage progress :=
    rfl
  rw [unfolded] at clean ⊢
  split at clean
  · next fine => exact ⟨if_pos fine, List.isEmpty_iff.mp fine⟩
  · next wrong => exact absurd (List.isEmpty_iff.mpr clean) wrong

/-- Where nothing is wrong at the end, each stage was run on what the one before it had left, and
nothing was wrong behind any of them.
Witness: induction on the stages; something wrong behind one of them would be there at the end.
-/
theorem Progress.runStages_of_problems {progress : Progress} {stages : List Stage}
    (clean : (progress.runStages stages).problems = [])
    : let after (front : List Stage) := front.foldl (fun found stage => stage found) progress
      progress.runStages stages = after stages
      ∧ ∀ front rest, stages = front ++ rest → front ≠ [] → (after front).problems = [] := by
  induction stages generalizing progress with
  | nil =>
      refine ⟨rfl, fun front rest split some => ?_⟩
      exact absurd (List.append_eq_nil_iff.mp split.symm).1 some
  | cons stage later ih =>
      obtain ⟨next, fine⟩ := runStages_cons_of_problems clean
      rw [next] at clean
      obtain ⟨all, passed⟩ := ih clean
      refine ⟨next.trans all, ?_⟩
      intro front rest split some
      match front with
      | [] => exact absurd rfl some
      | [_] =>
          obtain ⟨rfl, -⟩ := List.cons.inj split
          exact fine
      | _ :: second :: further =>
          obtain ⟨rfl, behind⟩ := List.cons.inj split
          exact passed (second :: further) rest behind (List.cons_ne_nil _ _)

/-- Where there are no problems, no errors were reported. -/
theorem Workspace.errors_of_problems {σ : Type} {workspace : Workspace σ}
    (clean : workspace.problems = [])
    : workspace.errors = [] :=
  (List.append_eq_nil_iff.mp clean).1

namespace Plan

open Registry

variable {plan : Plan} {progress : Progress}

/-- The progress behind the discovery. -/
def discoveredProgress (plan : Plan) : Progress :=
  plan.discoverTypes Progress.start

/-- The progress behind the naming. -/
def namedProgress (plan : Plan) : Progress :=
  plan.nameTypes plan.discoveredProgress

/-- The progress behind the compiling of the bindings. -/
def compiledProgress (plan : Plan) : Progress :=
  plan.compileBindings (plan.mergeExtensions plan.namedProgress)

/-- Where no two descriptors claim one reference, no type claims that of another one. -/
theorem discoverTypes_settled (distinct : plan.catalog.Distinct)
    : (plan.discoverTypes Progress.start).registry.Settled :=
  (discover_discoveredFrom distinct plan.seeds).settled

/-- When naming went well, every type is named and found by its name, and extensions add what they
added.
-/
theorem nameTypes_named (settled : progress.registry.Settled)
    (clean : (plan.nameTypes progress).errors = [])
    : let after := (plan.nameTypes progress).registry
      after.Named ∧ after.additions = progress.registry.additions := by
  let linked := (progress.registry.linkInterfaces plan.inspector).1
  have updates := progress.registry.linkInterfaces_updates plan.inspector
  let keeps (registry : Registry) : Prop :=
    registry.Settled ∧ registry.additions = linked.additions
  have advances (slot : Slot) (current : Progress) (kept : keeps current.registry)
      (inside : slot < current.registry.size)
      : Schedule.Advances plan.nameType keeps NamedAt slot current :=
    (plan.nameType_advances slot current kept.1 inside).and _
      ((plan.additions_nameType kept.1 inside).trans kept.2)
  obtain ⟨⟨named, same⟩, -, all⟩ :=
    Schedule.run_done_of_errors advances ⟨settled.updates updates, rfl⟩ clean
  exact ⟨⟨named, all⟩, same.trans (additions_congr (updates.outlines settled))⟩

/-- Merging leaves the types named.
Witness: it consists of updates, which change no outline.
-/
theorem mergeExtensions_named (plan : Plan) (named : progress.registry.Named)
    : let after := (plan.mergeExtensions progress).registry
      after.Named ∧ after.additions = progress.registry.additions := by
  have updates := Merging.run_updates plan.options.unmatchedExtensions progress.merging
  exact ⟨named.updates updates, additions_congr (updates.outlines named.settled)⟩

/-- When completing went well, what it brings holds of the type in every slot. -/
theorem completeTypes_holds {holds : Registry → Definition → Prop} (brings : Brings holds)
    (named : progress.registry.Named) (clean : (plan.completeTypes progress).errors = [])
    : let after := (plan.completeTypes progress).registry
      after.Named
      ∧ after.additions = progress.registry.additions
      ∧ ∀ slot, slot < after.size → after.HoldsAt holds slot := by
  let keeps (registry : Registry) : Prop :=
    registry.Named ∧ registry.additions = progress.registry.additions
  have advances (slot : Slot) (current : Progress) (kept : keeps current.registry)
      (inside : slot < current.registry.size)
      : Schedule.Advances plan.completeType keeps (HoldsAt holds) slot current :=
    (plan.completeType_advances brings slot current kept.1 inside).and _
      ((plan.additions_completeType kept.1.settled inside).trans kept.2)
  obtain ⟨⟨namedAfter, same⟩, -, all⟩ := Schedule.run_done_of_errors advances ⟨named, rfl⟩ clean
  exact ⟨namedAfter, same, all⟩

theorem registry_compileBindings (plan : Plan) (progress : Progress)
    : (plan.compileBindings progress).registry = progress.registry :=
  rfl

theorem registry_validateTypes (plan : Plan) (progress : Progress)
    : (plan.validateTypes progress).registry = progress.registry := by
  unfold validateTypes
  dsimp only
  split <;> rfl

/-- Where nothing is wrong at the end, all stages were run, and no errors were reported before. -/
theorem progress_eq_of_problems (clean : plan.progress.problems = [])
    : plan.progress = plan.validateTypes (plan.completeTypes plan.compiledProgress)
      ∧ plan.namedProgress.errors = []
      ∧ plan.compiledProgress.errors = []
      ∧ (plan.completeTypes plan.compiledProgress).errors = [] := by
  obtain ⟨all, fine⟩ := Progress.runStages_of_problems clean
  have behind (front rest : List Stage) (split : plan.stages = front ++ rest)
      (some : front ≠ [])
      : (front.foldl (fun found stage => stage found) Progress.start).errors = [] :=
    Workspace.errors_of_problems (fine front rest split some)
  refine ⟨all, ?_, ?_, ?_⟩
  · exact behind [plan.discoverTypes, plan.nameTypes] _ rfl (List.cons_ne_nil _ _)
  · exact behind
      [plan.discoverTypes, plan.nameTypes, plan.mergeExtensions, plan.compileBindings] _ rfl
      (List.cons_ne_nil _ _)
  · exact behind
      [plan.discoverTypes, plan.nameTypes, plan.mergeExtensions, plan.compileBindings,
        plan.completeTypes]
      _ rfl (List.cons_ne_nil _ _)

/-- Where nothing is wrong, all types are named, extensions add what they did when they were
discovered, and completion has done its work.
-/
theorem named_and_holds_of_problems {holds : Registry → Definition → Prop}
    (brings : Brings holds) (distinct : plan.catalog.Distinct)
    (clean : plan.progress.problems = [])
    : let after := plan.progress.registry
      after.Named
      ∧ after.additions = (empty.discover plan.catalog plan.seeds).registry.additions
      ∧ ∀ slot, slot < after.size → after.HoldsAt holds slot := by
  obtain ⟨whole, named, -, completed⟩ := progress_eq_of_problems clean
  obtain ⟨afterNaming, added⟩ := nameTypes_named (discoverTypes_settled distinct) named
  obtain ⟨afterMerging, mergedAdded⟩ := plan.mergeExtensions_named afterNaming
  rw [← registry_compileBindings plan] at afterMerging mergedAdded
  obtain ⟨afterCompletion, completedAdded, all⟩ :=
    completeTypes_holds brings afterMerging completed
  rw [whole]
  rw [← registry_validateTypes plan] at afterCompletion completedAdded all
  exact ⟨afterCompletion, completedAdded.trans (mergedAdded.trans added), all⟩

/-- Where nothing is wrong, all types are named and complete. -/
theorem named_and_complete_of_problems (distinct : plan.catalog.Distinct)
    (clean : plan.progress.problems = [])
    : plan.progress.registry.Named
      ∧ ∀ slot, slot < plan.progress.registry.size → plan.progress.registry.CompleteAt slot := by
  obtain ⟨named, -, complete⟩ := named_and_holds_of_problems brings_isComplete distinct clean
  exact ⟨named, complete⟩

/-- A run that publishes a graph has found nothing wrong, and the graph is what it has built. -/
theorem graph_of_run {handle : Handle} {graph : TypeGraph}
    (published : (plan.run handle).result = .ok graph)
    : plan.progress.problems = [] ∧ graph = plan.progress.graph := by
  unfold Plan.run at published
  dsimp only at published
  split at published
  · next fine =>
      refine ⟨List.isEmpty_iff.mp fine, ?_⟩
      split at published
      · exact (Except.ok.inj published).symm
      · cases published
  · cases published

/-- A run that publishes a graph has found nothing wrong, and the graph has its registry. -/
theorem run_ok {handle : Handle} {graph : TypeGraph}
    (published : (plan.run handle).result = .ok graph)
    : plan.progress.problems = [] ∧ graph.registry = plan.progress.registry :=
  (graph_of_run published).imp_right (congrArg TypeGraph.registry)

/-- A plan in which nothing is wrong publishes its graph. -/
theorem run_of_problems (plan : Plan) (clean : plan.progress.problems = [])
    : (plan.run .unbound).result = .ok plan.progress.graph := by
  simp [Plan.run, clean, Handle.bind, Handle.isBound, Handle.unbound]

/-- A graph that a run of the plan publishes. -/
structure Publication (plan : Plan) where
  graph : TypeGraph
  published : (plan.run .unbound).result = .ok graph

/-- A plan that was published had no problem. -/
theorem Publication.problems (publication : plan.Publication)
    : plan.progress.problems = [] :=
  (graph_of_run publication.published).1

def publish (plan : Plan) (clean : plan.progress.problems = []) : plan.Publication :=
  ⟨plan.progress.graph, plan.run_of_problems clean⟩

end Plan
end SchemaGraph
