import SchemaGraph.Proofs.Schedule.Levels

/-! A dependency that denotes nothing blocks its type.
A reference that leads nowhere is compared with the references of the processed types as it is. It
agrees with none of them, unless it has a position and a type carries a reference without one to the
same: such a reference may stand for one position only, but agrees with both.
-/

namespace SchemaGraph

namespace Registry

/-- A reference with a position agrees with one that a type carries without a position. -/
def Mistakable (registry : Registry) (reference : Reference) : Prop :=
  reference.position ≠ .any
  ∧ ∃ record ∈ registry.records,
      ∃ synonym ∈ record.references,
        synonym.position = .any ∧ synonym.agrees reference = true

theorem find_eq_none_of_locate {registry : Registry} {reference : Reference}
    (nowhere : registry.locate reference = none)
    : registry.find reference = none := by
  cases leads : registry.find reference with
  | none => rfl
  | some slot =>
      rw [locate_of_find leads] at nowhere
      cases nowhere

/-- A reference that leads nowhere and is not mistakable agrees with no reference of a type. -/
theorem IndexesAll.not_agrees {registry : Registry} (all : registry.IndexesAll)
    {reference : Reference} (nowhere : registry.locate reference = none)
    (unmistakable : ¬registry.Mistakable reference) {record : TypeRecord}
    (stored : record ∈ registry.records) {carried : Reference}
    (member : carried ∈ record.references)
    : ¬carried.agrees reference = true := by
  intro agrees
  obtain ⟨slot, here⟩ := exists_get?_of_mem stored
  obtain ⟨bare, positioned, -⟩ :=
    (all here).opposed_of_find member agrees (find_eq_none_of_locate nowhere)
  exact unmistakable ⟨positioned, record, stored, carried, member, bare, agrees⟩

end Registry

namespace Schedule

open Registry

variable {σ : Type} {registry : Registry} {phase : Phase} {action : Action σ}
  {workspace : Workspace σ} {slot : Slot}

-----------------------------------------------------------------------------------------
-- What is processed
-----------------------------------------------------------------------------------------

/-- The references are all carried by stored types. -/
def Carried (registry : Registry) (references : List Reference) : Prop :=
  ∀ reference ∈ references, ∃ record ∈ registry.records, reference ∈ record.references

theorem Carried.markAll {processed : List Reference} (carried : Carried registry processed)
    (slots : List Slot)
    : Carried registry (markAll registry slots processed) := by
  induction slots generalizing processed with
  | nil => exact carried
  | cons slot rest ih =>
      apply ih
      intro reference member
      rcases mem_markProcessed member with old | ⟨record, found, new⟩
      · exact carried reference old
      · exact ⟨record, mem_records_of_get? found, new⟩

/-- The slot is not ready, whichever types were processed. -/
def Blocked (registry : Registry) (phase : Phase) (slot : Slot) : Prop :=
  ∀ processed, Carried registry processed → isReady registry phase processed slot = false

theorem blocked_of_locate (all : registry.IndexesAll) {record : TypeRecord}
    (found : registry.get? slot = some record) {reference : Reference}
    (declared : reference ∈ record.dependenciesOf phase)
    (nowhere : registry.locate reference = none)
    (unmistakable : ¬registry.Mistakable reference)
    : Blocked registry phase slot := by
  intro processed carried
  have kept : registry.canonicalOrSelf reference = reference :=
    canonicalOrSelf_of_none (resolve_of_nowhere nowhere)
  rw [Bool.eq_false_iff]
  intro ready
  simp only [isReady, found, List.all_eq_true] at ready
  have passed := ready reference declared
  rw [kept] at passed
  obtain ⟨other, member, agrees⟩ := Reference.isIn_iff.mp passed
  obtain ⟨owner, stored, inOwner⟩ := carried other member
  exact all.not_agrees nowhere unmistakable stored inOwner agrees

/-- A slot that is blocked, whatever was processed, is in no batch of calm calls.
Witness: induction on the run; what is processed are references of the types of the registry.
-/
theorem Calm.runPending_blocked (calm : Calm action) (blocked : Blocked registry phase slot)
    (pending : List Slot) (processed : List Reference) (workspace : Workspace σ)
    : workspace.registry = registry
      → Carried registry processed
      → slot ∉ (runPending phase action pending processed workspace).1.batches.flatten := by
  have unready {processed : List Reference} (carried : Carried registry processed)
      (pending : List Slot)
      : slot ∉ readySlots registry phase processed pending := by
    intro member
    have ready := (List.mem_filter.mp member).2
    rw [blocked processed carried] at ready
    cases ready
  apply runPending_induction
    (motive := fun _ processed workspace result =>
      workspace.registry = registry
      → Carried registry processed
      → slot ∉ result.1.batches.flatten)
  · intro pending processed workspace _ _ _
    exact List.not_mem_nil
  · intro pending processed workspace ready _ _ failed
    rw [calm.runBatch_succeeded] at failed
    cases failed
  · rintro pending processed workspace ready rest rfl _ _ ih rfl carried
    rw [calm.runBatch_processed, calm.runBatch_registry] at ih
    rw [List.flatten_cons, List.mem_append, not_or]
    exact ⟨unready carried pending, ih rfl (carried.markAll _)⟩

theorem Calm.afterCalls_registry (calm : Calm action) (slots : List Slot)
    (workspace : Workspace σ)
    : (afterCalls action slots workspace).registry = workspace.registry := by
  induction slots generalizing workspace with
  | nil => rfl
  | cons slot rest ih => exact (ih (action slot workspace).2).trans (calm slot workspace).2

-----------------------------------------------------------------------------------------
-- Reports
-----------------------------------------------------------------------------------------

/-- The error says that the type in the slot is stuck. -/
def ReportsStuck (registry : Registry) (phase : Phase) (slot : Slot) (error : SchemaError)
    : Prop :=
  error.code = .unresolvedDependency
  ∧ ∃ record missing cycle,
      registry.get? slot = some record
      ∧ error = (Problem.stuck record.displayName phase missing cycle).toError

/-- Whatever is added to an error, its code stays. -/
theorem code_toError (problem : Problem) : problem.toError.code = problem.code := by
  cases problem with
  | unresolvedType reference site | wrongPosition kind name position reference site =>
      cases site <;> rfl
  | stuck name phase missing cycle => cases cycle <;> rfl
  | _ => rfl

/-- There is one report for each slot that is stuck, in the same order. -/
theorem forall₂_deadlockErrors {processed : List Reference} {stuck : List Slot}
    {holds : Slot → SchemaError → Prop}
    (each
      : ∀ slot ∈ stuck,
          ∃ record,
            registry.get? slot = some record
            ∧ holds slot
                (stuckProblem registry phase processed
                  (DependencyGraph.build registry phase registry.locate) record slot).toError)
    : List.Forall₂ holds stuck (deadlockErrors registry phase processed stuck) := by
  induction stuck with
  | nil => exact .nil
  | cons slot rest ih =>
      obtain ⟨⟨record, found, here⟩, later⟩ := List.forall_mem_cons.mp each
      have behind := ih later
      simp only [deadlockErrors, List.filterMap_cons, found, Option.map_some]
      exact .cons here behind

theorem reportsStuck_deadlockErrors (processed : List Reference) {stuck : List Slot}
    (inside : ∀ slot ∈ stuck, slot < registry.size)
    : List.Forall₂ (ReportsStuck registry phase) stuck
        (deadlockErrors registry phase processed stuck) := by
  refine forall₂_deadlockErrors fun slot member => ?_
  obtain ⟨record, found⟩ := exists_get?_of_lt (inside slot member)
  exact ⟨record, found, code_toError _, record, _, _, found, rfl⟩

/-- Whatever the registry is: when an action always succeeds and leaves the registry alone, a type
with a dependency that leads nowhere and is not mistakable is in no batch. The run fails, and it
reports one error for each type that is left, of which this type is one.
Witness: the dependency is never among the processed references, so the type is in no batch.
-/
theorem run_blocked (calm : Calm action) (built : workspace.registry.IsBuilt)
    {record : TypeRecord} (found : workspace.registry.get? slot = some record)
    {reference : Reference} (declared : reference ∈ record.dependenciesOf phase)
    (nowhere : workspace.registry.locate reference = none)
    (unmistakable : ¬workspace.registry.Mistakable reference)
    : let outcome := run phase action workspace
      (∀ batch ∈ outcome.1.batches, slot ∉ batch)
      ∧ outcome.1.success = false
      ∧ outcome.1.unprocessed.count slot = 1
      ∧ ∃ reports,
          outcome.2.errors
            = (afterCalls action outcome.1.batches.flatten workspace).errors ++ reports
          ∧ List.Forall₂ (ReportsStuck workspace.registry phase) outcome.1.unprocessed
              reports := by
  intro outcome
  have blocked := blocked_of_locate built.indexesAll found declared nowhere unmistakable
  have absent : slot ∉ outcome.1.batches.flatten := by
    rw [run_batches]
    exact calm.runPending_blocked blocked _ [] workspace rfl
      fun _ member => absurd member List.not_mem_nil
  have perm := run_perm phase action workspace
  have left : outcome.1.unprocessed.count slot = 1 := by
    have once : workspace.registry.slots.count slot = 1 :=
      List.count_eq_one_of_mem List.nodup_range (mem_slots.mpr (lt_size_of_get? found))
    have counted := perm.count_eq slot
    rwa [List.count_append, List.count_eq_zero_of_not_mem absent, Nat.zero_add, once] at counted
  have member : slot ∈ outcome.1.unprocessed := List.count_pos_iff.mp (by omega)
  have some : outcome.1.unprocessed ≠ [] := List.ne_nil_of_mem member
  have succeeded : EachCall action (Succeeds action) outcome.1.batches.flatten workspace :=
    .of_forall (fun slot workspace => (calm slot workspace).1) _ _
  have registry : outcome.2.registry = workspace.registry :=
    (run_registry phase action workspace).trans (calm.afterCalls_registry _ workspace)
  refine ⟨?_, ?_, left, _, run_errors_of_succeeded succeeded, ?_⟩
  · exact fun batch formed inBatch => absent (List.mem_flatten.mpr ⟨batch, formed, inBatch⟩)
  · rw [Bool.eq_false_iff, Ne, run_success_iff]
    exact fun done => some done.2
  · rw [registry]
    refine reportsStuck_deadlockErrors _ fun other stuck => ?_
    exact mem_slots.mp (perm.mem_iff.mp (List.mem_append_right _ stuck))

/-- An object type that can also be found by these references. -/
def objectType (name : String) (synonyms : List Reference) (dependencies : List Dependency)
    : TypeRecord :=
  TypeRecord.new
    (.object
      {
        header := ⟨⟨name⟩, some name, none, RuntimeType.object⟩
        fields := []
        interfaces := []
        implemented := []
        isOfType := none
        isQueryType := false
      })
    synonyms dependencies Discovered.nothing

def client (position : Position) : Reference :=
  .runtime (.named "Client") position

/-- A type for the results of clients, and one that waits for their inputs. -/
def unmet : Registry :=
  Registry.empty.applyAll
    [.register (objectType "Client" [client .output] []),
      .register (objectType "Query" [] [⟨client .input, .completed⟩])]

theorem unmet_blocked
    : let outcome := run .completed doNothing ⟨unmet, [], ()⟩
      Calm doNothing
      ∧ unmet.IsBuilt
      ∧ unmet.locate (client .input) = none
      ∧ ¬unmet.Mistakable (client .input)
      ∧ (∀ batch ∈ outcome.1.batches, 1 ∉ batch)
      ∧ outcome.1.success = false := by
  have calm : Calm doNothing := fun _ _ => ⟨rfl, rfl⟩
  have built : unmet.IsBuilt := ⟨_, rfl⟩
  have nowhere : unmet.locate (client .input) = none := by decide
  have unmistakable : ¬unmet.Mistakable (client .input) := by
    unfold Mistakable
    decide
  let workspace : Workspace Unit := ⟨unmet, [], ()⟩
  obtain ⟨absent, failed, -⟩ :=
    @run_blocked _ .completed _ workspace 1 calm built
      (objectType "Query" [] [⟨client .input, .completed⟩]) rfl (client .input) (by decide) nowhere
      unmistakable
  exact ⟨calm, built, nowhere, unmistakable, absent, failed⟩

/-- The same types, but the reference to clients has no position. -/
def mistaken : Registry :=
  Registry.empty.applyAll
    [.register (objectType "Client" [client .any] []),
      .register (objectType "Query" [] [⟨client .input, .completed⟩])]

/-- The dependency leads nowhere, and yet the run processes both types. -/
theorem mistaken_not_blocked
    : let outcome := run .completed doNothing ⟨mistaken, [], ()⟩
      Calm doNothing
      ∧ mistaken.IsBuilt
      ∧ (mistaken.get? 1).map (TypeRecord.dependenciesOf · .completed) = some [client .input]
      ∧ mistaken.locate (client .input) = none
      ∧ ¬(∀ batch ∈ outcome.1.batches, 1 ∉ batch)
      ∧ outcome.1.success = true := by
  have ran : (run .completed doNothing ⟨mistaken, [], ()⟩).1 = ⟨[[0], [1]], [], true⟩ := by
    cbv
  have calm : Calm doNothing := fun _ _ => ⟨rfl, rfl⟩
  refine ⟨calm, ⟨_, rfl⟩, by decide, by decide, ?_, by rw [ran]⟩
  rw [ran]
  decide

end Schedule
end SchemaGraph
