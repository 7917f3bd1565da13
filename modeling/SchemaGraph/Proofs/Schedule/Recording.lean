import SchemaGraph.Proofs.Schedule.Flags

/-! Runs that write down their calls.
An action can keep a log beside its state, with the slot and the result of each call. The run of
such an action is the run of the action itself, and its log holds the calls for the slots of the
batches, one after the other.
-/

namespace SchemaGraph

/-- The workspace with a log beside its state. -/
def Workspace.logged {σ : Type} (workspace : Workspace σ) (log : List (Slot × Bool))
    : Workspace (σ × List (Slot × Bool)) :=
  ⟨workspace.registry, workspace.errors, workspace.state, log⟩

@[simp] theorem Workspace.logged_registry {σ : Type} (workspace : Workspace σ)
    (log : List (Slot × Bool))
    : (workspace.logged log).registry = workspace.registry :=
  rfl

namespace Schedule

variable {σ : Type} {phase : Phase} {action : Action σ} {workspace : Workspace σ}
  {slots : List Slot}

/-- Acts as the action does, and writes down the call with its result. -/
def recording (action : Action σ) : Action (σ × List (Slot × Bool)) := fun slot workspace =>
  let (succeeded, after) := action slot ⟨workspace.registry, workspace.errors, workspace.state.1⟩
  (succeeded, after.logged (workspace.state.2 ++ [(slot, succeeded)]))

/-- The calls for the slots in order, each with its result. -/
def calls (action : Action σ) : List Slot → Workspace σ → List (Slot × Bool)
  | [], _ => []
  | slot :: rest, workspace =>
      (slot, (action slot workspace).1) :: calls action rest (action slot workspace).2

theorem map_fst_calls (action : Action σ) (slots : List Slot) (workspace : Workspace σ)
    : (calls action slots workspace).map Prod.fst = slots := by
  induction slots generalizing workspace with
  | nil => rfl
  | cons slot rest ih => simp [calls, ih]

theorem mem_of_mem_calls {call : Slot × Bool}
    (member : call ∈ calls action slots workspace)
    : call.1 ∈ slots := by
  rw [← map_fst_calls action slots workspace]
  exact List.mem_map_of_mem member

theorem calls_append (action : Action σ) (first rest : List Slot) (workspace : Workspace σ)
    : calls action (first ++ rest) workspace
      = calls action first workspace
        ++ calls action rest (afterCalls action first workspace) := by
  induction first generalizing workspace with
  | nil => rfl
  | cons slot tail ih => simp [calls, ih]

theorem eachCall_succeeds_iff
    : EachCall action (Succeeds action) slots workspace
      ↔ ∀ call ∈ calls action slots workspace, call.2 = true := by
  induction slots generalizing workspace with
  | nil => simp [EachCall, calls]
  | cons slot rest ih => simp [EachCall, calls, ih, Succeeds]

-----------------------------------------------------------------------------------------
-- The run of a recording action
-----------------------------------------------------------------------------------------

/-- The result of a run, with a log of its calls behind the given one. -/
def withCalls (action : Action σ) (workspace : Workspace σ) (log : List (Slot × Bool))
    (result : BatchRun × List Reference × Workspace σ)
    : BatchRun × List Reference × Workspace (σ × List (Slot × Bool)) :=
  (result.1, result.2.1,
    result.2.2.logged (log ++ calls action result.1.batches.flatten workspace))

theorem flaggedBatch_recording (action : Action σ) (batch : List Slot) (flags : Flags)
    (processed : List Reference) (workspace : Workspace σ) (log : List (Slot × Bool))
    : flaggedBatch (recording action) batch flags processed (workspace.logged log)
      = (flaggedBatch action batch flags processed workspace).map fun result =>
          (result.1, result.2.1, result.2.2.1,
            result.2.2.2.logged (log ++ calls action batch workspace)) := by
  induction batch generalizing flags processed workspace log with
  | nil => simp [flaggedBatch, calls]
  | cons slot rest ih =>
      have called
          : recording action slot (workspace.logged log)
            = ((action slot workspace).1,
                (action slot workspace).2.logged (log ++ [(slot, (action slot workspace).1)])) :=
        rfl
      simp only [flaggedBatch, called]
      cases flags.mark? slot with
      | none => rfl
      | some marked =>
          simp only [Workspace.logged_registry, ih, Option.map_map, calls, List.append_assoc,
            List.singleton_append]
          rfl

/-- The calls of a batch with flags leave the workspace that it ends with. -/
theorem flaggedBatch_workspace {batch : List Slot} {flags marked : Flags}
    {processed : List Reference} {result : Bool × List Reference × Workspace σ}
    (done : flaggedBatch action batch flags processed workspace = some (marked, result))
    : result.2.2 = afterCalls action batch workspace := by
  induction batch generalizing flags processed workspace result with
  | nil =>
      cases done
      rfl
  | cons slot rest ih =>
      simp only [flaggedBatch] at done
      split at done
      · cases done
      · obtain ⟨⟨last, further⟩, later, same⟩ := Option.map_eq_some_iff.mp done
        cases same
        have behind := ih later
        exact behind

/-- A recording run goes on as the next batch of the action itself has gone. -/
theorem flaggedPending_recording_step {flags : Flags} {pending : List Slot}
    (processed : List Reference) (log : List (Slot × Bool))
    (waits : flags.waiting? workspace.registry.slots = some pending)
    : let ready := readySlots workspace.registry phase processed pending
      flaggedPending phase (recording action) flags processed (workspace.logged log)
      = if ready = [] ∨ flags.left = 0 then
          some (⟨[], pending, true⟩, processed, workspace.logged log)
        else
          (flaggedBatch action ready flags processed workspace).bind fun (marked, result) =>
            let after := result.2.2.logged (log ++ calls action ready workspace)
            if result.1 then
              (flaggedPending phase (recording action) marked result.2.1 after).map fun rest =>
                ({ rest.1 with batches := ready :: rest.1.batches }, rest.2)
            else
              (marked.waiting? result.2.2.registry.slots).map fun unprocessed =>
                (⟨[ready], unprocessed, false⟩, result.2.1, after) := by
  intro ready
  have found : flags.waiting? (workspace.logged log).registry.slots = some pending := waits
  rw [flaggedPending_step processed found, flaggedBatch_recording, Option.bind_map]
  rfl

/-- A run that records its calls comes to what it comes to without recording, and records the calls
of its batches.
Witness: induction on the run with flags, batch by batch.
-/
theorem flaggedPending_recording (action : Action σ) (flags : Flags)
    (processed : List Reference) (workspace : Workspace σ) (log : List (Slot × Bool))
    : flaggedPending phase (recording action) flags processed (workspace.logged log)
      = (flaggedPending phase action flags processed workspace).map
          (withCalls action workspace log) := by
  fun_induction flaggedPending phase action flags processed workspace generalizing log with
  | case1 flags processed workspace missing =>
      rw [flaggedPending]
      simp [missing]
  | case2 flags processed workspace pending waits ready stop =>
      rw [flaggedPending_recording_step processed log waits, if_pos stop]
      simp [withCalls, calls]
  | case3 flags processed workspace pending waits ready go stuck =>
      rw [flaggedPending_recording_step processed log waits, if_neg go, stuck]
      rfl
  | case4 flags processed workspace pending waits ready go marked seen after done ih =>
      have kept : after = afterCalls action ready workspace := flaggedBatch_workspace done
      rw [flaggedPending_recording_step processed log waits, if_neg go, done]
      simp only [Option.bind_some, if_true, ih, Option.map_map]
      congr 1
      funext result
      simp only [Function.comp, withCalls, List.flatten_cons, calls_append, ← kept,
        List.append_assoc]
      rfl
  | case5 flags processed workspace pending waits ready go marked seen after done =>
      rw [flaggedPending_recording_step processed log waits, if_neg go, done]
      simp [withCalls, Function.comp_def, ready]

/-- The run of a recording action is that of the action, and its log grows by the calls for the
slots of the batches.
-/
theorem flaggedRun_recording (phase : Phase) (action : Action σ) (workspace : Workspace σ)
    (log : List (Slot × Bool))
    : flaggedRun phase (recording action) (workspace.logged log)
      = (flaggedRun phase action workspace).map fun (batchRun, final) =>
          (batchRun, final.logged (log ++ calls action batchRun.batches.flatten workspace)) := by
  rw [flaggedRun_eq_map, flaggedRun_eq_map, Workspace.logged_registry, flaggedPending_recording,
    Option.map_map, Option.map_map]
  rfl

end Schedule
end SchemaGraph
