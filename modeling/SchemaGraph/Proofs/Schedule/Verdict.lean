import SchemaGraph.Proofs.Schedule.Blocking
import SchemaGraph.Proofs.Schedule.Recording

/-! What a run comes to, whatever the action does.
The calls may fail, store types again and change what other types wait for, as long as they add no
slot. The run still comes to an end, no slot is in two batches, and the slots that are left are
those that were never called for. It succeeds when all were called for and no call failed, stops
behind the first batch with a failing call, and otherwise reports the slots that are left.
-/

namespace SchemaGraph.Schedule

variable {σ : Type} {phase : Phase} {action : Action σ} {workspace : Workspace σ}

-----------------------------------------------------------------------------------------
-- Runs over pending slots
-----------------------------------------------------------------------------------------

/-- The slots that are left are the pending ones that are in no batch. -/
theorem runPending_unprocessed (pending : List Slot) (processed : List Reference)
    (workspace : Workspace σ)
    : let result := runPending phase action pending processed workspace
      result.1.unprocessed = pending.filter fun slot => slot ∉ result.1.batches.flatten := by
  have waiting_eq (registry : Registry) (processed : List Reference) (pending later : List Slot)
      : (waitingSlots registry phase processed pending).filter (fun slot => slot ∉ later)
        = pending.filter fun slot =>
            slot ∉ readySlots registry phase processed pending ++ later := by
    rw [waitingSlots, List.filter_filter]
    refine List.filter_congr fun slot member => ?_
    simp [readySlots, member, Bool.and_comm]
  apply runPending_induction
    (motive := fun pending _ _ result =>
      result.1.unprocessed = pending.filter fun slot => slot ∉ result.1.batches.flatten)
  · intro pending processed workspace _
    simp
  · rintro pending processed workspace ready rfl _ _
    rw [List.flatten_cons, ← waiting_eq]
    simp
  · rintro pending processed workspace ready rest rfl _ _ ih
    rw [List.flatten_cons, ← waiting_eq]
    exact ih

/-- Each batch holds some of the pending slots, in their order. -/
theorem runPending_batch (pending : List Slot) (processed : List Reference)
    (workspace : Workspace σ)
    : ∀ batch ∈ (runPending phase action pending processed workspace).1.batches,
        batch ≠ [] ∧ batch.Sublist pending := by
  apply runPending_induction
    (motive := fun pending _ _ result =>
      ∀ batch ∈ result.1.batches, batch ≠ [] ∧ batch.Sublist pending)
  · intro pending processed workspace _ batch formed
    exact absurd formed List.not_mem_nil
  · rintro pending processed workspace ready rfl some _ batch formed
    rw [List.mem_singleton.mp formed]
    exact ⟨some, List.filter_sublist⟩
  · rintro pending processed workspace ready rest rfl some _ ih batch formed
    rcases List.mem_cons.mp formed with rfl | later
    · exact ⟨some, List.filter_sublist⟩
    · exact (ih batch later).imp_right fun sublist => sublist.trans List.filter_sublist

/-- Where a call fails, those of all batches but the last one succeed. -/
theorem runPending_failure (pending : List Slot) (processed : List Reference)
    (workspace : Workspace σ)
    : (runPending phase action pending processed workspace).1.success = false
      → ∃ (earlier : List (List Slot)) (batch : List Slot),
          (runPending phase action pending processed workspace).1.batches = earlier ++ [batch]
          ∧ EachCall action (Succeeds action) earlier.flatten workspace := by
  apply runPending_induction
    (motive := fun _ _ workspace result =>
      result.1.success = false
      → ∃ (earlier : List (List Slot)) (batch : List Slot),
          result.1.batches = earlier ++ [batch]
          ∧ EachCall action (Succeeds action) earlier.flatten workspace)
  · intro pending processed workspace _ failed
    cases failed
  · intro pending processed workspace ready _ _ _ _
    exact ⟨[], ready, rfl, trivial⟩
  · intro pending processed workspace ready rest _ _ done ih failed
    obtain ⟨earlier, batch, last, succeeded⟩ := ih failed
    refine ⟨ready :: earlier, batch, by rw [List.cons_append, ← last], ?_⟩
    rw [List.flatten_cons, eachCall_append, ← runBatch_workspace action ready processed]
    exact ⟨runBatch_succeeded_iff.mp done, succeeded⟩

/-- Where a call fails, the calls that fail are all for slots of the last batch. -/
theorem runPending_failing_calls (pending : List Slot) (processed : List Reference)
    (workspace : Workspace σ)
    (failed : (runPending phase action pending processed workspace).1.success = false)
    : let batches := (runPending phase action pending processed workspace).1.batches
      ∃ (earlier : List (List Slot)) (batch : List Slot),
        batches = earlier ++ [batch]
        ∧ ∀ call ∈ calls action batches.flatten workspace, call.2 = false → call.1 ∈ batch := by
  intro batches
  obtain ⟨earlier, batch, last, succeeded⟩ :=
    runPending_failure pending processed workspace failed
  refine ⟨earlier, batch, last, ?_⟩
  have inOrder : batches.flatten = earlier.flatten ++ batch := by simp [batches, last]
  rw [inOrder, calls_append]
  intro call member result
  rcases List.mem_append.mp member with early | late
  · rw [eachCall_succeeds_iff.mp succeeded call early] at result
    cases result
  · exact mem_of_mem_calls late

-----------------------------------------------------------------------------------------
-- The end of a run
-----------------------------------------------------------------------------------------

/-- The run with flags comes to an end with these batches and this workspace, and these are its
calls and their results, one after the other. The batches are those of the run, which comes to the
same end where the number of types is the same.
-/
structure EndsWith (phase : Phase) (action : Action σ) (workspace : Workspace σ)
    (batchRun : BatchRun) (final : Workspace σ) (log : List (Slot × Bool))
    : Prop where
  flagged : flaggedRun phase action workspace = some (batchRun, final)
  recorded
    : flaggedRun phase (recording action) (workspace.logged [])
      = some (batchRun, final.logged log)
  batches : (run phase action workspace).1.batches = batchRun.batches
  run_eq
    : final.registry.size = workspace.registry.size
      → run phase action workspace = (batchRun, final)

theorem endsWith_concluded
    (noSlot
      : EachCall action (AddsNoSlot action) (run phase action workspace).1.batches.flatten
          workspace)
    : let pending := runPending phase action workspace.registry.slots [] workspace
      let outcome := concluded phase (present pending)
      EndsWith phase action workspace outcome.1 outcome.2
        (calls action pending.1.batches.flatten workspace) := by
  intro pending outcome
  have flagged : flaggedRun phase action workspace = some outcome :=
    flaggedRun_eq_concluded noSlot
  refine ⟨flagged, ?_, run_batches phase action workspace, ?_⟩
  · rw [flaggedRun_recording, flagged]
    rfl
  · intro same
    have kept : (run phase action workspace).2.registry.size = workspace.registry.size := by
      rw [run_eq_concluded]
      exact same
    exact Option.some.inj ((flaggedRun_eq_run noSlot kept).symm.trans flagged)

/-- The slots that are left are those of the registry in the end that are in no batch. -/
theorem present_unprocessed
    (noSlot
      : EachCall action (AddsNoSlot action) (run phase action workspace).1.batches.flatten
          workspace)
    : let pending := runPending phase action workspace.registry.slots [] workspace
      (present pending).1.unprocessed
      = pending.2.2.registry.slots.filter fun slot => slot ∉ pending.1.batches.flatten := by
  intro pending
  have fewer : pending.2.2.registry.size ≤ workspace.registry.size := by
    rw [run_batches] at noSlot
    rw [runPending_workspace]
    exact size_afterCalls_le noSlot
  have left : pending.1.unprocessed = _ := runPending_unprocessed _ [] workspace
  simp only [present, left]
  exact Flags.filter_range_filter _ fewer

-----------------------------------------------------------------------------------------
-- The batches of a run
-----------------------------------------------------------------------------------------

/-- Whatever the calls do, as long as they add no slot: the run comes to an end, calls once for each
slot of its batches and for no other slot, and leaves the other slots in ascending order. No slot is
in two batches, no batch is empty, and each of them ascends.
-/
theorem flaggedRun_partitions
    (noSlot
      : EachCall action (AddsNoSlot action) (run phase action workspace).1.batches.flatten
          workspace)
    : ∃ batchRun final log,
        EndsWith phase action workspace batchRun final log
        ∧ log.map Prod.fst = batchRun.batches.flatten
        ∧ batchRun.batches.flatten.Nodup
        ∧ (∀ slot ∈ batchRun.batches.flatten, slot ∈ workspace.registry.slots)
        ∧ batchRun.unprocessed
          = final.registry.slots.filter (fun slot => slot ∉ batchRun.batches.flatten)
        ∧ ∀ batch ∈ batchRun.batches, batch ≠ [] ∧ batch.Pairwise (· < ·) := by
  have perm := run_perm phase action workspace
  rw [run_batches] at perm
  refine ⟨_, _, _, endsWith_concluded noSlot, map_fst_calls action _ workspace, ?_, ?_,
    present_unprocessed noSlot, ?_⟩
  · exact (List.nodup_append.mp (perm.nodup_iff.mpr List.nodup_range)).1
  · exact fun slot member => perm.mem_iff.mp (List.mem_append_left _ member)
  · intro batch formed
    obtain ⟨some, sublist⟩ := runPending_batch workspace.registry.slots [] workspace batch formed
    exact ⟨some, List.pairwise_lt_range.sublist sublist⟩

/-- Called for the second type, it makes the third one wait for the first only. It fails for the
third type.
-/
def relieving : Action Unit := fun slot workspace =>
  if slot = 1 then
    let relieved := waitingType "Third" [⟨.schema ⟨"First"⟩, .named⟩]
    (true, { workspace with registry := (workspace.registry.register relieved).1 })
  else
    (slot ≠ 2, workspace)

theorem relieved_partitions
    : let workspace : Workspace Unit := ⟨partlyCyclic, [], ()⟩
      EachCall relieving (AddsNoSlot relieving)
          (run .named relieving workspace).1.batches.flatten workspace
      ∧ ∃ batchRun final log,
          EndsWith .named relieving workspace batchRun final log
          ∧ batchRun = ⟨[[1], [0], [2]], [], false⟩
          ∧ log = [(1, true), (0, true), (2, false)]
          ∧ batchRun.batches.flatten.Nodup
          ∧ batchRun.unprocessed
            = final.registry.slots.filter (fun slot => slot ∉ batchRun.batches.flatten) := by
  intro workspace
  have formed : (run .named relieving workspace).1.batches = [[1], [0], [2]] := by
    rw [run_batches]
    cbv
  have noSlot
      : EachCall relieving (AddsNoSlot relieving)
          (run .named relieving workspace).1.batches.flatten workspace := by
    rw [formed]
    exact ⟨by decide, by decide, by decide, trivial⟩
  obtain ⟨batchRun, final, log, ends, -, once, -, left, -⟩ := flaggedRun_partitions noSlot
  have outcome
      : (flaggedRun .named relieving workspace).map Prod.fst
        = some ⟨[[1], [0], [2]], [], false⟩ := by
    cbv
  have logged
      : (flaggedRun .named (recording relieving) (workspace.logged [])).map
          (fun result => result.2.state.2)
        = some [(1, true), (0, true), (2, false)] := by
    cbv
  rw [ends.flagged] at outcome
  rw [ends.recorded] at logged
  exact ⟨noSlot, batchRun, final, log, ends, Option.some.inj outcome, Option.some.inj logged, once,
    left⟩

-----------------------------------------------------------------------------------------
-- Success and errors
-----------------------------------------------------------------------------------------

/-- Whatever the calls do, as long as they add no slot: the run succeeds if and only if it has
called for every slot and no call has failed. A failing call is one of the last batch, for all slots
of which the run still calls, and then the run reports nothing. If no call fails, it reports one
error for each slot that is left, in the same order, and nothing else.
Witness: the run with flags comes to what the run over pending slots comes to, and its calls are
those of the batches.
-/
theorem flaggedRun_verdict
    (noSlot
      : EachCall action (AddsNoSlot action) (run phase action workspace).1.batches.flatten
          workspace)
    : ∃ batchRun final log reports,
        EndsWith phase action workspace batchRun final log
        ∧ final = (afterCalls action (log.map Prod.fst) workspace).reportAll reports
        ∧ batchRun.unprocessed
          = final.registry.slots.filter (fun slot => slot ∉ log.map Prod.fst)
        ∧ (batchRun.success = true
          ↔ (∀ slot ∈ final.registry.slots, slot ∈ log.map Prod.fst)
            ∧ ∀ call ∈ log, call.2 = true)
        ∧ ((∃ call ∈ log, call.2 = false)
          → reports = []
            ∧ ∃ (earlier : List (List Slot)) (batch : List Slot),
                batchRun.batches = earlier ++ [batch]
                ∧ log.map Prod.fst = earlier.flatten ++ batch
                ∧ ∀ call ∈ log, call.2 = false → call.1 ∈ batch)
        ∧ ((∀ call ∈ log, call.2 = true)
          → List.Forall₂ (ReportsStuck final.registry phase) batchRun.unprocessed reports) := by
  let pending := runPending phase action workspace.registry.slots [] workspace
  let outcome := concluded phase (present pending)
  let log := calls action pending.1.batches.flatten workspace
  let reports :=
    if pending.1.success then
      deadlockErrors outcome.2.registry phase pending.2.1 outcome.1.unprocessed
    else
      []
  have called : log.map Prod.fst = pending.1.batches.flatten := map_fst_calls action _ workspace
  have succeeded_iff : pending.1.success = true ↔ ∀ call ∈ log, call.2 = true :=
    (runPending_success_iff _ _ _).trans eachCall_succeeds_iff
  have left
      : outcome.1.unprocessed
        = outcome.2.registry.slots.filter fun slot => slot ∉ log.map Prod.fst := by
    rw [called]
    exact present_unprocessed noSlot
  refine ⟨outcome.1, outcome.2, log, reports, endsWith_concluded noSlot, ?_, left, ?_, ?_, ?_⟩
  · rw [called, ← runPending_workspace]
    rfl
  · have success : outcome.1.success = (pending.1.success && outcome.1.unprocessed.isEmpty) := rfl
    rw [success, Bool.and_eq_true, succeeded_iff, List.isEmpty_iff, left, List.filter_eq_nil_iff,
      and_comm]
    simp only [decide_eq_true_eq, not_not]
  · rintro ⟨call, member, result⟩
    have failed : pending.1.success = false := by
      rw [← Bool.not_eq_true, succeeded_iff]
      intro all
      rw [all call member] at result
      cases result
    obtain ⟨earlier, batch, last, inLast⟩ := runPending_failing_calls _ [] workspace failed
    refine ⟨if_neg (Bool.eq_false_iff.mp failed), earlier, batch, last, ?_, inLast⟩
    rw [called, last]
    simp
  · intro all
    have reported
        : reports = deadlockErrors outcome.2.registry phase pending.2.1 outcome.1.unprocessed :=
      if_pos (succeeded_iff.mpr all)
    rw [reported]
    refine reportsStuck_deadlockErrors _ fun slot stuck => ?_
    rw [left] at stuck
    exact Registry.mem_slots.mp (List.mem_filter.mp stuck).1

/-- It fails for the first type. -/
def refusing : Action Unit := fun slot workspace => (slot ≠ 0, workspace)

theorem refused_verdict
    : let workspace : Workspace Unit := ⟨partlyCyclic, [], ()⟩
      EachCall refusing (AddsNoSlot refusing) (run .named refusing workspace).1.batches.flatten
          workspace
      ∧ ∃ batchRun final log,
          EndsWith .named refusing workspace batchRun final log
          ∧ batchRun = ⟨[[1], [0]], [2], false⟩
          ∧ log = [(1, true), (0, false)]
          ∧ final = afterCalls refusing [1, 0] workspace
          ∧ ∃ (earlier : List (List Slot)) (batch : List Slot),
              batchRun.batches = earlier ++ [batch] ∧ 0 ∈ batch := by
  intro workspace
  have noSlot
      : EachCall refusing (AddsNoSlot refusing) (run .named refusing workspace).1.batches.flatten
          workspace :=
    .of_forall (fun _ _ => Nat.le_refl _) _ _
  obtain ⟨batchRun, final, log, reports, ends, after, -, -, failing, -⟩ :=
    flaggedRun_verdict noSlot
  have outcome
      : (flaggedRun .named refusing workspace).map Prod.fst = some ⟨[[1], [0]], [2], false⟩ := by
    cbv
  have logged
      : (flaggedRun .named (recording refusing) (workspace.logged [])).map
          (fun result => result.2.state.2)
        = some [(1, true), (0, false)] := by
    cbv
  rw [ends.flagged] at outcome
  rw [ends.recorded] at logged
  obtain rfl : log = [(1, true), (0, false)] := Option.some.inj logged
  obtain ⟨rfl, earlier, batch, last, -, inLast⟩ := failing ⟨(0, false), by decide, rfl⟩
  refine ⟨noSlot, batchRun, final, _, ends, Option.some.inj outcome, rfl, ?_, earlier, batch, last,
    inLast (0, false) (by decide) rfl⟩
  rw [after]
  rfl

end SchemaGraph.Schedule
