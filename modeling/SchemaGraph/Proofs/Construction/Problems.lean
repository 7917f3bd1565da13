import SchemaGraph.Proofs.Completion.CleanMerges
import SchemaGraph.Proofs.Construction.Stages
import SchemaGraph.Proofs.Registry.Extent
import SchemaGraph.Proofs.Schedule.Reports

/-! The errors that a construction gives.
Every stage puts its errors behind those that it finds. A construction that goes wrong therefore
gives the errors of all stages that were run, and behind them those that were found out about the
registered types; and it goes wrong just where one of these lists is not empty.
-/

namespace SchemaGraph

open Registry Schedule

-----------------------------------------------------------------------------------------
-- Calls on single types
-----------------------------------------------------------------------------------------

namespace Plan

/-- Naming a type fails just where it reports an error. -/
theorem nameType_reports (plan : Plan) (slot : Slot) (progress : Progress)
    (inside : slot < progress.registry.size)
    : Reports plan.nameType slot progress := by
  obtain ⟨record, found⟩ := exists_get?_of_lt inside
  rcases plan.nameType_cases found with ⟨failed, same, error, errors⟩ | ⟨name, -, outcome⟩
  · exact ⟨Nat.le_of_eq (by rw [same]), [error], errors, by simp [Succeeds, failed]⟩
  · have larger :=
      progress.registry.size_le_register (record.withDefinition (record.definition.withName name))
    rcases outcome with ⟨failed, stored, error, errors⟩ | ⟨succeeded, registered, errors⟩
    · exact ⟨stored ▸ larger, [error], errors, by simp [Succeeds, failed]⟩
    · refine ⟨?_, [], by rw [errors, List.append_nil], by simp [Succeeds, succeeded]⟩
      rw [size_registerName registered]
      exact larger

/-- Completing a type fails just where it reports an error. -/
theorem completeType_reports (plan : Plan) (slot : Slot) (progress : Progress)
    (inside : slot < progress.registry.size)
    : Reports plan.completeType slot progress := by
  obtain ⟨record, found⟩ := exists_get?_of_lt inside
  rcases plan.completeType_cases found with ⟨-, same⟩ | ⟨stored, errors, success⟩
  · exact ⟨Nat.le_of_eq (by rw [same]), [], by rw [same, List.append_nil],
      by simp [Succeeds, same]⟩
  · refine ⟨?_, _, errors, ?_⟩
    · rw [stored]
      exact size_le_register _ _
    · rw [Succeeds, success, List.isEmpty_iff, List.map_eq_nil_iff]

end Plan

-----------------------------------------------------------------------------------------
-- Stages
-----------------------------------------------------------------------------------------

/-- The stage takes back no error. -/
def Stage.Appends (stage : Stage) : Prop :=
  ∀ progress : Progress, progress.errors <+: (stage progress).errors

namespace Plan

variable (plan : Plan)

/-- The progress that the naming of the types starts from. -/
def prepared (progress : Progress) : Progress :=
  plan.prepareTypes (progress.announce (.allDiscovered progress.registry))

def naming (progress : Progress) : BatchRun × Progress :=
  Schedule.run .named plan.nameType (plan.prepared progress)

def completing (progress : Progress) : BatchRun × Progress :=
  Schedule.run .completed plan.completeType progress

theorem naming_addsErrors (progress : Progress)
    : AddsErrors progress (plan.nameTypes progress)
        ((plan.naming progress).1.success = true) :=
  run_addsErrors plan.nameType_reports .named _

theorem completing_addsErrors (progress : Progress)
    : AddsErrors progress (plan.completeTypes progress)
        ((plan.completing progress).1.success = true) :=
  run_addsErrors plan.completeType_reports .completed _

theorem stages_append : ∀ stage ∈ plan.stages, stage.Appends := by
  simp only [stages, List.forall_mem_cons, List.not_mem_nil]
  refine ⟨?_, ?_, ?_, ?_, ?_, ?_, by simp⟩ <;> intro progress
  · exact List.prefix_append _ _
  · obtain ⟨more, added, -⟩ := plan.naming_addsErrors progress
    exact ⟨more, added.symm⟩
  · exact Merging.errors_run plan.options.unmatchedExtensions progress.merging
  · exact List.prefix_append _ _
  · obtain ⟨more, added, -⟩ := plan.completing_addsErrors progress
    exact ⟨more, added.symm⟩
  · unfold validateTypes
    dsimp only
    split
    · exact List.prefix_append _ _
    · exact List.prefix_refl _

end Plan

-----------------------------------------------------------------------------------------
-- The stages that are run
-----------------------------------------------------------------------------------------

/-- A stage that was run, and the progress that it found. -/
structure Executed where
  stage : Stage
  found : Progress

namespace Executed

/-- The progress that the stage has left. -/
def left (executed : Executed) : Progress :=
  executed.stage executed.found

/-- The errors that the stage has put behind those that it found. -/
def reported (executed : Executed) : List SchemaError :=
  executed.left.errors.drop executed.found.errors.length

theorem errors_left (executed : Executed) (appends : executed.stage.Appends)
    : executed.left.errors = executed.found.errors ++ executed.reported := by
  obtain ⟨more, added⟩ := appends executed.found
  rw [reported, left, ← added, List.drop_left]

theorem reported_eq {executed : Executed} {more : List SchemaError}
    (added : executed.left.errors = executed.found.errors ++ more)
    : executed.reported = more := by
  rw [reported, added, List.drop_left]

/-- What a stage has reported is empty just where the stage was fine. -/
theorem fine_iff (executed : Executed) {fine : Prop}
    (adds : AddsErrors executed.found executed.left fine)
    : fine ↔ executed.reported = [] := by
  obtain ⟨more, added, none⟩ := adds
  rw [none, reported_eq added]

end Executed

namespace Progress

variable {progress : Progress} {stages : List Stage}

/-- The stages that are run, up to and including the first after which something is wrong. Each
finds what the one before it has left.
-/
def executed (progress : Progress) : List Stage → List Executed
  | [] => []
  | stage :: rest =>
      ⟨stage, progress⟩
        :: if (stage progress).problems.isEmpty then (stage progress).executed rest else []

theorem runStages_cons (progress : Progress) (stage : Stage) (rest : List Stage)
    : progress.runStages (stage :: rest)
      = if (stage progress).problems.isEmpty then (stage progress).runStages rest
        else stage progress :=
  rfl

/-- The stages that are run are the first ones in their order, and all of them where nothing is
wrong in the end.
-/
theorem stages_executed (progress : Progress) (stages : List Stage)
    : (progress.executed stages).map Executed.stage <+: stages
      ∧ ((progress.runStages stages).problems = []
        → (progress.executed stages).map Executed.stage = stages) := by
  induction stages generalizing progress with
  | nil => exact ⟨List.prefix_refl _, fun _ => rfl⟩
  | cons stage rest ih =>
      rw [executed, runStages_cons, List.map_cons]
      split
      · obtain ⟨front, all⟩ := ih (stage progress)
        refine ⟨(List.cons_prefix_cons).mpr ⟨rfl, front⟩, fun clean => ?_⟩
        rw [all clean]
      · next wrong =>
          refine ⟨(List.cons_prefix_cons).mpr ⟨rfl, List.nil_prefix⟩, fun clean => ?_⟩
          exact absurd (List.isEmpty_iff.mpr clean) wrong

/-- Nothing is wrong behind any stage but the last one, which leaves the progress at the end. -/
theorem executed_eq_append (progress : Progress) {stages : List Stage} (some : stages ≠ [])
    : ∃ front last,
        progress.executed stages = front ++ [last]
        ∧ (∀ executed ∈ front, executed.left.problems = [])
        ∧ last.left = progress.runStages stages := by
  induction stages generalizing progress with
  | nil => exact absurd rfl some
  | cons stage rest ih =>
      rw [executed, runStages_cons]
      split
      · next fine =>
          cases rest with
          | nil => exact ⟨[], ⟨stage, progress⟩, rfl, by simp, rfl⟩
          | cons second further =>
              obtain ⟨front, last, split, passed, left⟩ :=
                ih (stage progress) (List.cons_ne_nil _ _)
              refine ⟨⟨stage, progress⟩ :: front, last, by rw [split]; rfl, ?_, left⟩
              exact List.forall_mem_cons.mpr ⟨List.isEmpty_iff.mp fine, passed⟩
      · exact ⟨[], ⟨stage, progress⟩, rfl, by simp, rfl⟩

/-- The errors at the end are those of the start and those of the stages, in order. -/
theorem errors_runStages (progress : Progress) (appends : ∀ stage ∈ stages, stage.Appends)
    : (progress.runStages stages).errors
      = progress.errors ++ (progress.executed stages).flatMap Executed.reported := by
  induction stages generalizing progress with
  | nil => exact (List.append_nil _).symm
  | cons stage rest ih =>
      obtain ⟨here, later⟩ := List.forall_mem_cons.mp appends
      have first := Executed.errors_left ⟨stage, progress⟩ here
      rw [executed, runStages_cons, List.flatMap_cons, ← List.append_assoc]
      split
      · rw [ih (stage progress) later, ← first]
        rfl
      · rw [← first]
        exact (List.append_nil _).symm

end Progress

-----------------------------------------------------------------------------------------
-- A whole run
-----------------------------------------------------------------------------------------

namespace Plan

variable (plan : Plan)

/-- The stages of the plan that are run. -/
def executed : List Executed :=
  Progress.start.executed plan.stages

/-- All that is wrong at the end: what the stages have reported, and what was found out about the
registered types.
-/
theorem problems_progress
    : plan.progress.problems
      = plan.executed.flatMap Executed.reported ++ plan.progress.registry.discoveryErrors := by
  have errors := Progress.errors_runStages Progress.start plan.stages_append
  rw [Workspace.problems, progress, errors]
  rfl

theorem run_unbound_cases
    : (plan.progress.problems = []
        ∧ (plan.run .unbound).result = .ok plan.progress.graph
        ∧ (plan.run .unbound).handle.graph = some plan.progress.graph)
      ∨ (plan.progress.problems ≠ []
        ∧ (plan.run .unbound).result = .error plan.progress.problems
        ∧ (plan.run .unbound).handle.graph = none) := by
  by_cases clean : plan.progress.problems = []
  · refine Or.inl ⟨clean, ?_⟩
    simp [run, clean, Handle.bind, Handle.isBound, Handle.unbound]
  · refine Or.inr ⟨clean, ?_⟩
    simp [run, clean, Handle.unbound]

theorem problems_ne_nil_iff
    : plan.progress.problems ≠ []
      ↔ (∃ executed ∈ plan.executed, executed.reported ≠ [])
        ∨ ∃ record ∈ plan.progress.registry.records, record.discovered.errors ≠ [] := by
  rw [problems_progress, Ne, List.append_eq_nil_iff, List.flatMap_eq_nil_iff, discoveryErrors,
    List.flatMap_eq_nil_iff, not_and_or]
  simp

/-- Each stage that is run puts its errors behind those that it finds, and the naming and the
completing report some just where they fail. The run fails exactly where a stage has reported an
error or a registered type has one from its discovery. It then gives the errors of the stages, up to
and including the first behind which something is wrong, and those from the discovery in slot order.
The handle holds just the graph that the run gives.
Witness: the stages that are run are the first ones, and each adds its errors behind those that it
finds.
-/
theorem run_reports
    : (∃ front last,
        plan.executed = front ++ [last]
        ∧ plan.executed.map Executed.stage <+: plan.stages
        ∧ (∀ executed ∈ front, executed.left.problems = [])
        ∧ last.left = plan.progress
        ∧ (last.left.problems = [] → plan.executed.map Executed.stage = plan.stages))
      ∧ (∀ executed ∈ plan.executed,
          executed.left.errors = executed.found.errors ++ executed.reported)
      ∧ (∀ progress,
          ((plan.naming progress).1.success = true
            ↔ Executed.reported ⟨plan.nameTypes, progress⟩ = [])
          ∧ ((plan.completing progress).1.success = true
            ↔ Executed.reported ⟨plan.completeTypes, progress⟩ = []))
      ∧ let outcome := plan.run .unbound
        let registry := plan.progress.registry
        ((∃ errors, outcome.result = .error errors)
          ↔ (∃ executed ∈ plan.executed, executed.reported ≠ [])
            ∨ ∃ record ∈ registry.records, record.discovered.errors ≠ [])
        ∧ (∀ errors,
            outcome.result = .error errors
            → errors ≠ []
              ∧ errors
                = plan.executed.flatMap Executed.reported
                  ++ registry.records.flatMap fun record => record.discovered.errors)
        ∧ ∀ graph, outcome.handle.graph = some graph ↔ outcome.result = .ok graph := by
  obtain ⟨front, all⟩ := Progress.stages_executed Progress.start plan.stages
  refine ⟨?_, ?_, ?_, ?_⟩
  · have some : plan.stages ≠ [] := List.cons_ne_nil _ _
    obtain ⟨passed, last, split, fine, left⟩ :=
      Progress.start.executed_eq_append some
    exact ⟨passed, last, split, front, fine, left, fun clean => all (left ▸ clean)⟩
  · intro executed member
    exact executed.errors_left
      (plan.stages_append executed.stage (front.mem (List.mem_map_of_mem member)))
  · intro progress
    exact ⟨Executed.fine_iff ⟨plan.nameTypes, progress⟩ (plan.naming_addsErrors progress),
      Executed.fine_iff ⟨plan.completeTypes, progress⟩ (plan.completing_addsErrors progress)⟩
  · dsimp only
    rw [← plan.problems_ne_nil_iff]
    rcases plan.run_unbound_cases with ⟨clean, given, bound⟩ | ⟨wrong, given, bound⟩
    · rw [given, bound]
      simp [clean]
    · rw [given, bound]
      refine ⟨by simp [wrong], ?_, by simp⟩
      rintro errors same
      cases same
      exact ⟨wrong, plan.problems_progress⟩

end Plan
end SchemaGraph
