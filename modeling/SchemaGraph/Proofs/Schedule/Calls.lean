import SchemaGraph.Proofs.Registry.Indexes
import SchemaGraph.Schedule.Deadlock

/-! A run as a sequence of calls.
The workspace at the end of a run is what the calls for the slots of its batches leave, one after
the other; the batches together with the unprocessed slots are the slots that were pending.
-/

namespace SchemaGraph.Schedule

variable {σ : Type} {phase : Phase} {action : Action σ}

/-- The workspace after the action was called for the slots in order. -/
def afterCalls (action : Action σ) (slots : List Slot) (workspace : Workspace σ)
    : Workspace σ :=
  slots.foldl (fun sofar slot => (action slot sofar).2) workspace

/-- What holds of every call for the slots in order. A call finds the workspace that the calls
before it have left.
-/
def EachCall (action : Action σ) (holds : Slot → Workspace σ → Prop)
    : List Slot → Workspace σ → Prop
  | [], _ => True
  | slot :: rest, workspace =>
      holds slot workspace ∧ EachCall action holds rest (action slot workspace).2

/-- The call for the slot succeeds in this workspace. -/
def Succeeds (action : Action σ) (slot : Slot) (workspace : Workspace σ) : Prop :=
  (action slot workspace).1 = true

@[simp] theorem afterCalls_nil (action : Action σ) (workspace : Workspace σ)
    : afterCalls action [] workspace = workspace :=
  rfl

@[simp] theorem afterCalls_cons (action : Action σ) (slot : Slot) (rest : List Slot)
    (workspace : Workspace σ)
    : afterCalls action (slot :: rest) workspace
      = afterCalls action rest (action slot workspace).2 :=
  rfl

/-- Calls may be split anywhere. -/
theorem afterCalls_append (action : Action σ) (first rest : List Slot)
    (workspace : Workspace σ)
    : afterCalls action (first ++ rest) workspace
      = afterCalls action rest (afterCalls action first workspace) :=
  List.foldl_append

/-- What holds at each call of two parts holds at each call of both. -/
theorem eachCall_append {holds : Slot → Workspace σ → Prop} {first rest : List Slot}
    {workspace : Workspace σ}
    : EachCall action holds (first ++ rest) workspace
      ↔ EachCall action holds first workspace
        ∧ EachCall action holds rest (afterCalls action first workspace) := by
  induction first generalizing workspace with
  | nil => simp [EachCall]
  | cons slot tail ih => simp [EachCall, ih, and_assoc]

/-- What holds of every call in every workspace holds of each call. -/
theorem EachCall.of_forall {holds : Slot → Workspace σ → Prop}
    (always : ∀ slot workspace, holds slot workspace) (slots : List Slot)
    (workspace : Workspace σ)
    : EachCall action holds slots workspace := by
  induction slots generalizing workspace with
  | nil => trivial
  | cons slot rest ih => exact ⟨always slot workspace, ih (action slot workspace).2⟩

/-- What follows at each call holds at each. -/
theorem EachCall.imp {holds further : Slot → Workspace σ → Prop}
    (weaker : ∀ slot workspace, holds slot workspace → further slot workspace)
    {slots : List Slot} {workspace : Workspace σ}
    (each : EachCall action holds slots workspace)
    : EachCall action further slots workspace := by
  induction slots generalizing workspace with
  | nil => trivial
  | cons slot rest ih => exact ⟨weaker slot workspace each.1, ih each.2⟩

-----------------------------------------------------------------------------------------
-- One batch
-----------------------------------------------------------------------------------------

/-- A batch leaves what the calls for its slots leave. -/
theorem runBatch_workspace (action : Action σ) (batch : List Slot)
    (processed : List Reference) (workspace : Workspace σ)
    : (runBatch action batch processed workspace).2.2 = afterCalls action batch workspace := by
  induction batch generalizing processed workspace with
  | nil => rfl
  | cons slot rest ih => exact ih _ _

/-- A batch succeeds when all its calls do. -/
theorem runBatch_succeeded_iff {batch : List Slot} {processed : List Reference}
    {workspace : Workspace σ}
    : (runBatch action batch processed workspace).1 = true
      ↔ EachCall action (Succeeds action) batch workspace := by
  induction batch generalizing processed workspace with
  | nil => simp [runBatch, EachCall]
  | cons slot rest ih =>
      simp only [runBatch, Bool.and_eq_true, EachCall, ih]
      exact Iff.rfl

-----------------------------------------------------------------------------------------
-- All batches
-----------------------------------------------------------------------------------------

/-- A run over pending slots stops where none is ready, ends with a batch in which a call fails, or
goes on behind a batch in which all calls succeed.
Witness: the recursion of the run.
-/
theorem runPending_induction
    {motive
      : List Slot → List Reference → Workspace σ → BatchRun × List Reference × Workspace σ
        → Prop}
    (stop
      : ∀ pending processed workspace,
          readySlots workspace.registry phase processed pending = []
          → motive pending processed workspace (⟨[], pending, true⟩, processed, workspace))
    (fail
      : ∀ pending processed workspace ready,
          ready = readySlots workspace.registry phase processed pending
          → ready ≠ []
          → (runBatch action ready processed workspace).1 = false
          → motive pending processed workspace
              (⟨[ready], waitingSlots workspace.registry phase processed pending, false⟩,
                (runBatch action ready processed workspace).2))
    (next
      : ∀ pending processed workspace ready rest,
          ready = readySlots workspace.registry phase processed pending
          → ready ≠ []
          → (runBatch action ready processed workspace).1 = true
          → motive (waitingSlots workspace.registry phase processed pending)
              (runBatch action ready processed workspace).2.1
              (runBatch action ready processed workspace).2.2 rest
          → motive pending processed workspace
              ({ rest.1 with batches := ready :: rest.1.batches }, rest.2))
    (pending : List Slot) (processed : List Reference) (workspace : Workspace σ)
    : motive pending processed workspace
        (runPending phase action pending processed workspace) := by
  fun_induction runPending phase action pending processed workspace with
  | case1 pending processed workspace ready idle => exact stop _ _ _ idle
  | case2 pending processed workspace ready waiting some processedAfter after done run final
      rest ih =>
      have succeeded : (runBatch action ready processed workspace).1 = true := by rw [done]
      have here := next pending processed workspace ready (run, final) rfl some succeeded
      rw [done] at here
      exact here (rest ▸ ih)
  | case3 pending processed workspace ready waiting some final done =>
      have failed : (runBatch action ready processed workspace).1 = false := by rw [done]
      have here := fail pending processed workspace ready rfl some failed
      rw [done] at here
      exact here

/-- The batches of a run leave what the calls for all their slots leave, by induction on the run. -/
theorem runPending_workspace (pending : List Slot) (processed : List Reference)
    (workspace : Workspace σ)
    : (runPending phase action pending processed workspace).2.2
      = afterCalls action
          (runPending phase action pending processed workspace).1.batches.flatten workspace := by
  apply runPending_induction
    (motive := fun _ _ workspace result =>
      result.2.2 = afterCalls action result.1.batches.flatten workspace)
  · intro pending processed workspace _
    rfl
  · intro pending processed workspace ready _ _ _
    simpa using runBatch_workspace action ready processed workspace
  · intro pending processed workspace ready rest _ _ _ ih
    rw [List.flatten_cons, afterCalls_append, ih, runBatch_workspace]

/-- The batches and the unprocessed slots are the pending ones, each as often.
Witness: a batch takes the ready ones out of the pending slots, and leaves the waiting ones.
-/
theorem runPending_perm (pending : List Slot) (processed : List Reference)
    (workspace : Workspace σ)
    : ((runPending phase action pending processed workspace).1.batches.flatten
        ++ (runPending phase action pending processed workspace).1.unprocessed).Perm
        pending := by
  have taken (registry : Registry) (processed : List Reference) (pending : List Slot)
      : (readySlots registry phase processed pending
          ++ waitingSlots registry phase processed pending).Perm pending :=
    List.filter_append_perm _ _
  apply runPending_induction
    (motive := fun pending _ _ result =>
      (result.1.batches.flatten ++ result.1.unprocessed).Perm pending)
  · intro pending processed workspace _
    exact .rfl
  · rintro pending processed workspace ready rfl _ _
    simpa using taken workspace.registry processed pending
  · rintro pending processed workspace ready rest rfl _ _ ih
    rw [List.flatten_cons, List.append_assoc]
    exact (ih.append_left _).trans (taken workspace.registry processed pending)

/-- Running over pending slots succeeds when every call does, whether or not slots are left. -/
theorem runPending_success_iff (pending : List Slot) (processed : List Reference)
    (workspace : Workspace σ)
    : (runPending phase action pending processed workspace).1.success = true
      ↔ EachCall action (Succeeds action)
          (runPending phase action pending processed workspace).1.batches.flatten
          workspace := by
  apply runPending_induction
    (motive := fun _ _ workspace result =>
      result.1.success = true
      ↔ EachCall action (Succeeds action) result.1.batches.flatten workspace)
  · intro pending processed workspace _
    simp [EachCall]
  · intro pending processed workspace ready _ _ failed
    rw [List.flatten_cons, List.flatten_nil, List.append_nil, ← runBatch_succeeded_iff, failed]
  · intro pending processed workspace ready rest _ _ done ih
    rw [List.flatten_cons, eachCall_append, ← runBatch_workspace action ready processed, ← ih]
    simp [runBatch_succeeded_iff.mp done]

-----------------------------------------------------------------------------------------
-- The whole run
-----------------------------------------------------------------------------------------

/-- The references by which the slots of the batches of a run can be found, as the run has collected
them at its end.
-/
def processedBy (phase : Phase) (action : Action σ) (workspace : Workspace σ)
    : List Reference :=
  (runPending phase action workspace.registry.slots [] workspace).2.1

/-- The end of a run: slots that are left although no call has failed are reported. -/
def concluded (phase : Phase) (result : BatchRun × List Reference × Workspace σ)
    : BatchRun × Workspace σ :=
  ({ result.1 with success := result.1.success && result.1.unprocessed.isEmpty },
    result.2.2.reportAll <|
      if result.1.success then
        deadlockErrors result.2.2.registry phase result.2.1 result.1.unprocessed
      else
        [])

/-- Where no slot is left, there is nothing to report. -/
theorem concluded_eq (phase : Phase) (result : BatchRun × List Reference × Workspace σ)
    : concluded phase result
      = if result.1.success && result.1.unprocessed ≠ [] then
          ({ result.1 with success := false },
            result.2.2.reportAll
              (deadlockErrors result.2.2.registry phase result.2.1 result.1.unprocessed))
        else
          (result.1, result.2.2) := by
  obtain ⟨⟨batches, unprocessed, success⟩, processed, final⟩ := result
  cases success <;> cases unprocessed <;> simp [concluded, deadlockErrors, Workspace.reportAll]

theorem run_eq_concluded (phase : Phase) (action : Action σ) (workspace : Workspace σ)
    : run phase action workspace
      = concluded phase (runPending phase action workspace.registry.slots [] workspace) := by
  rw [concluded_eq]
  rfl

/-- Reporting the blocked slots at the end changes no batch. -/
theorem run_batches (phase : Phase) (action : Action σ) (workspace : Workspace σ)
    : (run phase action workspace).1.batches
      = (runPending phase action workspace.registry.slots [] workspace).1.batches := by
  rw [run_eq_concluded]
  rfl

/-- It changes none of the blocked slots either. -/
theorem run_unprocessed (phase : Phase) (action : Action σ) (workspace : Workspace σ)
    : (run phase action workspace).1.unprocessed
      = (runPending phase action workspace.registry.slots [] workspace).1.unprocessed := by
  rw [run_eq_concluded]
  rfl

/-- Types that are all ready at the start are all in one batch, whatever the calls do. -/
theorem run_batches_of_ready {workspace : Workspace σ} (some : workspace.registry.slots ≠ [])
    (all
      : ∀ slot ∈ workspace.registry.slots,
          isReady workspace.registry phase [] slot = true)
    : (run phase action workspace).1.batches = [workspace.registry.slots] := by
  have ready
      : readySlots workspace.registry phase [] workspace.registry.slots
        = workspace.registry.slots :=
    List.filter_eq_self.mpr all
  have waiting : waitingSlots workspace.registry phase [] workspace.registry.slots = [] := by
    simpa [waitingSlots, List.filter_eq_nil_iff] using all
  rw [run_batches, runPending]
  simp only [ready, waiting, if_neg some]
  split
  · rw [runPending]
    simp [readySlots]
  · rfl

/-- Every slot is in one batch or unprocessed. -/
theorem run_perm (phase : Phase) (action : Action σ) (workspace : Workspace σ)
    : ((run phase action workspace).1.batches.flatten
        ++ (run phase action workspace).1.unprocessed).Perm workspace.registry.slots := by
  rw [run_batches, run_unprocessed]
  exact runPending_perm _ _ _

/-- The slots of the batches and those that are left are in the registry. -/
theorem lt_size_of_mem_run (phase : Phase) (action : Action σ) (workspace : Workspace σ)
    {slot : Slot}
    (member
      : slot ∈ (run phase action workspace).1.batches.flatten
          ++ (run phase action workspace).1.unprocessed)
    : slot < workspace.registry.size :=
  Registry.mem_slots.mp ((run_perm phase action workspace).mem_iff.mp member)

/-- A run succeeds when every call does and no slot is left. -/
theorem run_success_iff (phase : Phase) (action : Action σ) (workspace : Workspace σ)
    : (run phase action workspace).1.success = true
      ↔ EachCall action (Succeeds action) (run phase action workspace).1.batches.flatten
          workspace
        ∧ (run phase action workspace).1.unprocessed = [] := by
  rw [run_batches, run_unprocessed, ← runPending_success_iff, run_eq_concluded, ← List.isEmpty_iff,
    ← Bool.and_eq_true]
  rfl

/-- Reporting the types that are stuck is all that a run does beside its calls. -/
theorem run_workspace (phase : Phase) (action : Action σ) (workspace : Workspace σ)
    : let pending := runPending phase action workspace.registry.slots [] workspace
      (run phase action workspace).2
      = (afterCalls action (run phase action workspace).1.batches.flatten workspace).reportAll
          (if pending.1.success then
            deadlockErrors (run phase action workspace).2.registry phase
              (processedBy phase action workspace) (run phase action workspace).1.unprocessed
          else
            []) := by
  rw [run_batches, ← runPending_workspace, run_eq_concluded]
  rfl

/-- The run itself changes nothing but the errors. -/
theorem run_registry (phase : Phase) (action : Action σ) (workspace : Workspace σ)
    : (run phase action workspace).2.registry
      = (afterCalls action (run phase action workspace).1.batches.flatten
          workspace).registry := by
  rw [run_workspace]
  rfl

/-- The state in the end is the one that the calls have left. -/
theorem run_state (phase : Phase) (action : Action σ) (workspace : Workspace σ)
    : (run phase action workspace).2.state
      = (afterCalls action (run phase action workspace).1.batches.flatten workspace).state := by
  rw [run_workspace]
  rfl

/-- Where every call succeeds, the slots that are left are reported behind the errors of the calls.
-/
theorem run_errors_of_succeeded {workspace : Workspace σ}
    (all
      : EachCall action (Succeeds action) (run phase action workspace).1.batches.flatten
          workspace)
    : (run phase action workspace).2.errors
      = (afterCalls action (run phase action workspace).1.batches.flatten workspace).errors
        ++ deadlockErrors (run phase action workspace).2.registry phase
            (processedBy phase action workspace)
            (run phase action workspace).1.unprocessed := by
  rw [run_batches, ← runPending_success_iff] at all
  have errors := congrArg Workspace.errors (run_workspace phase action workspace)
  rwa [if_pos all] at errors

/-- Otherwise the errors are those of the calls. -/
theorem run_errors_of_failed {workspace : Workspace σ}
    (failed
      : ¬EachCall action (Succeeds action) (run phase action workspace).1.batches.flatten
          workspace)
    : (run phase action workspace).2.errors
      = (afterCalls action (run phase action workspace).1.batches.flatten
          workspace).errors := by
  rw [run_batches, ← runPending_success_iff] at failed
  have errors := congrArg Workspace.errors (run_workspace phase action workspace)
  rw [if_neg failed] at errors
  exact errors.trans (List.append_nil _)

end SchemaGraph.Schedule
