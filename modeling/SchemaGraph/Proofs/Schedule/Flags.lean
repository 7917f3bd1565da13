import Mathlib.Data.List.Sort
import SchemaGraph.Proofs.Schedule.Calls

/-! A run that keeps a flag for each slot.
Instead of the pending slots, a run may keep one flag for every slot that there was at its start,
and the number of slots that are left to do. Such a run cannot go on where a slot has no flag, or
where nothing is left to do and a slot is done. As long as no call adds a slot this never comes up,
and the run forms the same batches, although it leaves only slots that the registry still has. Both
runs are the same if no call changes the number of types.
-/

namespace SchemaGraph.Schedule

/-- Which slots are done, and how many are left to do. -/
structure Flags where
  done : List Bool
  left : Nat

namespace Flags

/-- None of so many slots is done. -/
def fresh (size : Nat) : Flags :=
  ⟨List.replicate size false, size⟩

/-- The flags after the slot is done, provided that it has one and that anything is left to do. -/
def mark? (flags : Flags) (slot : Slot) : Option Flags :=
  if slot < flags.done.length ∧ 0 < flags.left then
    some ⟨flags.done.set slot true, flags.left - 1⟩
  else none

/-- The slots that are not done, provided that each has a flag. -/
def waiting? (flags : Flags) : List Slot → Option (List Slot)
  | [] => some []
  | slot :: rest =>
      match flags.done[slot]?, flags.waiting? rest with
      | some done, some more => some (if done then more else slot :: more)
      | _, _ => none

end Flags

variable {σ : Type}

/-- Acts on every slot of a batch and marks it. -/
def flaggedBatch (action : Action σ) (batch : List Slot) (flags : Flags)
    (processed : List Reference) (workspace : Workspace σ)
    : Option (Flags × Bool × List Reference × Workspace σ) :=
  match batch with
  | [] => some (flags, true, processed, workspace)
  | slot :: rest =>
      let (succeeded, after) := action slot workspace
      match flags.mark? slot with
      | none => none
      | some marked =>
          (flaggedBatch action rest marked (markProcessed after.registry slot processed) after).map
            fun (flags, restSucceeded, final) => (flags, succeeded && restSucceeded, final)

/-- Every slot of a batch takes one from what is left to do.
Witness: induction on the batch; every slot that is marked is one less.
-/
theorem left_flaggedBatch {action : Action σ} {batch : List Slot} {flags marked : Flags}
    {processed : List Reference} {workspace : Workspace σ}
    {result : Bool × List Reference × Workspace σ}
    (done : flaggedBatch action batch flags processed workspace = some (marked, result))
    : marked.left + batch.length = flags.left := by
  induction batch generalizing flags processed workspace result with
  | nil =>
      cases done
      rfl
  | cons slot rest ih =>
      simp only [flaggedBatch] at done
      split at done
      · cases done
      · next next marks =>
          obtain ⟨⟨last, _⟩, later, same⟩ := Option.map_eq_some_iff.mp done
          cases same
          have further := ih later
          unfold Flags.mark? at marks
          split at marks
          · cases marks
            simp only [List.length_cons] at further ⊢
            omega
          · cases marks

/-- Forms batches from the slots that are not done, as long as some are left to do, one is ready and
none has failed.
-/
def flaggedPending (phase : Phase) (action : Action σ) (flags : Flags)
    (processed : List Reference) (workspace : Workspace σ)
    : Option (BatchRun × List Reference × Workspace σ) :=
  match flags.waiting? workspace.registry.slots with
  | none => none
  | some pending =>
      let ready := readySlots workspace.registry phase processed pending
      if ready = [] ∨ flags.left = 0 then
        some (⟨[], pending, true⟩, processed, workspace)
      else
        match _done : flaggedBatch action ready flags processed workspace with
        | none => none
        | some (marked, true, processed, workspace) =>
            (flaggedPending phase action marked processed workspace).map fun (run, final) =>
              ({ run with batches := ready :: run.batches }, final)
        | some (marked, false, processed, workspace) =>
            (marked.waiting? workspace.registry.slots).map fun unprocessed =>
              (⟨[ready], unprocessed, false⟩, processed, workspace)
termination_by flags.left
decreasing_by
  have some : 0 < ready.length := List.length_pos_iff.mpr fun none => ‹¬_› (Or.inl none)
  have taken := left_flaggedBatch ‹_›
  omega

/-- As `run`, with flags for the slots of the registry at the start. -/
def flaggedRun (phase : Phase) (action : Action σ) (workspace : Workspace σ)
    : Option (BatchRun × Workspace σ) :=
  (flaggedPending phase action (.fresh workspace.registry.size) [] workspace).map
    fun (run, processed, final) =>
      if run.success && run.unprocessed ≠ [] then
        ({ run with success := false },
          final.reportAll (deadlockErrors final.registry phase processed run.unprocessed))
      else
        (run, final)

-----------------------------------------------------------------------------------------
-- Flags and pending slots
-----------------------------------------------------------------------------------------

namespace Flags

variable {flags : Flags} {size : Nat} {pending : List Slot} {slot : Slot}

theorem waiting?_eq {slots : List Slot} (covered : ∀ slot ∈ slots, slot < flags.done.length)
    : flags.waiting? slots
      = some (slots.filter fun slot => flags.done[slot]? = some false) := by
  induction slots with
  | nil => rfl
  | cons slot rest ih =>
      obtain ⟨here, later⟩ := List.forall_mem_cons.mp covered
      rw [waiting?, ih later, List.filter_cons, List.getElem?_eq_getElem here]
      cases flags.done[slot] <;> rfl

/-- Of the slots among so many, a registry with no more slots has its own ones. -/
theorem filter_range_filter (keep : Slot → Bool) {registry : Registry}
    (fewer : registry.size ≤ size)
    : ((List.range size).filter keep).filter (fun slot => slot < registry.size)
      = registry.slots.filter keep := by
  have ascending (count : Nat) : (List.range count).Pairwise (· < ·) := List.pairwise_lt_range
  rw [List.filter_filter]
  refine ((ascending _).filter _).eq_of_mem_iff ((ascending _).filter _) fun slot => ?_
  simp only [List.mem_filter, List.mem_range, Registry.slots, Bool.and_eq_true, decide_eq_true_eq]
  constructor
  · rintro ⟨-, inside, kept⟩
    exact ⟨inside, kept⟩
  · rintro ⟨inside, kept⟩
    exact ⟨Nat.lt_of_lt_of_le inside fewer, inside, kept⟩

/-- The flags are for so many slots, and the pending ones are those that are not done. -/
structure Tracks (flags : Flags) (size : Nat) (pending : List Slot) : Prop where
  covers : flags.done.length = size
  left : flags.left = pending.length
  waiting
    : pending = (List.range size).filter fun slot => flags.done[slot]? = some false

theorem tracks_fresh (size : Nat) : Tracks (.fresh size) size (List.range size) where
  covers := List.length_replicate
  left := List.length_range.symm
  waiting := by
    refine (List.filter_eq_self.mpr ?_).symm
    intro slot member
    simp [fresh, List.mem_range.mp member]

/-- In a registry with no more slots, those that are not done are the pending ones that it has. -/
theorem Tracks.waiting?_slots (tracks : Tracks flags size pending) {registry : Registry}
    (fewer : registry.size ≤ size)
    : flags.waiting? registry.slots
      = some (pending.filter fun slot => slot < registry.size) := by
  rw [waiting?_eq, tracks.waiting, filter_range_filter _ fewer]
  intro slot member
  rw [tracks.covers]
  exact Nat.lt_of_lt_of_le (Registry.mem_slots.mp member) fewer

theorem Tracks.lt_size (tracks : Tracks flags size pending) (member : slot ∈ pending)
    : slot < size := by
  rw [tracks.waiting] at member
  exact List.mem_range.mp (List.mem_filter.mp member).1

theorem Tracks.left_ne_zero (tracks : Tracks flags size pending) (some : pending ≠ [])
    : flags.left ≠ 0 := by
  rw [tracks.left]
  exact fun none => some (List.length_eq_zero_iff.mp none)

theorem Tracks.nodup (tracks : Tracks flags size pending) : pending.Nodup := by
  rw [tracks.waiting]
  exact List.nodup_range.filter _

/-- A pending slot can be marked, and is not pending then.
Witness: the pending slots are those without a mark, and there are as many as are left.
-/
theorem Tracks.mark (tracks : Tracks flags size pending) (member : slot ∈ pending)
    : ∃ marked,
        flags.mark? slot = some marked
        ∧ Tracks marked size (pending.erase slot) := by
  have inside : slot < flags.done.length := by
    rw [tracks.covers]
    exact tracks.lt_size member
  have some : 0 < flags.left := by
    rw [tracks.left]
    exact List.length_pos_of_mem member
  refine ⟨_, if_pos ⟨inside, some⟩, ?_, ?_, ?_⟩
  · exact List.length_set.trans tracks.covers
  · rw [List.length_erase_of_mem member, tracks.left]
  · rw [tracks.nodup.erase_eq_filter, tracks.waiting, List.filter_filter]
    apply List.filter_congr
    intro other _
    by_cases same : other = slot
    · subst same
      simp [inside]
    · simp [same, Ne.symm same]

end Flags

-----------------------------------------------------------------------------------------
-- Batches and flags
-----------------------------------------------------------------------------------------

variable {phase : Phase} {action : Action σ} {keeps : Workspace σ → Prop} {size : Nat}
  {flags : Flags} {pending : List Slot} {workspace : Workspace σ}

/-- A batch of pending slots can be marked, and its slots are not pending then.
Witness: induction on the batch; each call takes its own slot from the pending ones.
-/
theorem flaggedBatch_eq (action : Action σ) (batch : List Slot)
    (tracks : flags.Tracks size pending)
    (among : ∀ slot ∈ batch, slot ∈ pending) (once : batch.Nodup)
    (processed : List Reference) (workspace : Workspace σ)
    : ∃ marked,
        flaggedBatch action batch flags processed workspace
          = some (marked, runBatch action batch processed workspace)
        ∧ marked.Tracks size (pending.filter fun other => other ∉ batch) := by
  induction batch generalizing flags pending processed workspace with
  | nil =>
      refine ⟨flags, rfl, ?_⟩
      rwa [List.filter_eq_self.mpr (by simp)]
  | cons slot rest ih =>
      obtain ⟨here, later⟩ := List.forall_mem_cons.mp among
      obtain ⟨fresh, onceRest⟩ := List.nodup_cons.mp once
      obtain ⟨next, marks, tracksNext⟩ := tracks.mark here
      have stays (other : Slot) (member : other ∈ rest) : other ∈ pending.erase slot := by
        refine (List.mem_erase_of_ne ?_).mpr (later other member)
        exact fun same => fresh (same ▸ member)
      let after := (action slot workspace).2
      obtain ⟨marked, done, tracksMarked⟩ :=
        ih tracksNext stays onceRest (markProcessed after.registry slot processed) after
      refine ⟨marked, ?_, ?_⟩
      · simp only [flaggedBatch, marks]
        rw [show (action slot workspace).2 = after from rfl, done]
        rfl
      · have left
            : (pending.erase slot).filter (fun other => other ∉ rest)
              = pending.filter fun other => other ∉ slot :: rest := by
          rw [tracks.nodup.erase_eq_filter, List.filter_filter]
          apply List.filter_congr
          intro other _
          by_cases same : other = slot <;> simp [same]
        rwa [left] at tracksMarked

/-- The ready slots can be marked, and the waiting ones are pending then. -/
theorem flaggedBatch_readySlots (phase : Phase) (action : Action σ)
    (tracks : flags.Tracks size pending) (registry : Registry) (processed : List Reference)
    (workspace : Workspace σ)
    : let ready := readySlots registry phase processed pending
      ∃ marked,
        flaggedBatch action ready flags processed workspace
          = some (marked, runBatch action ready processed workspace)
        ∧ marked.Tracks size (waitingSlots registry phase processed pending) := by
  intro ready
  obtain ⟨marked, done, tracksMarked⟩ :=
    flaggedBatch_eq action ready tracks
      (fun _ member => (List.mem_filter.mp member).1) (tracks.nodup.filter _) processed workspace
  refine ⟨marked, done, ?_⟩
  have left
      : pending.filter (fun slot => slot ∉ ready)
        = waitingSlots registry phase processed pending := by
    apply List.filter_congr
    intro slot member
    simp [ready, readySlots, member]
  rwa [left] at tracksMarked

/-- A run with flags goes on as its next batch has gone, unless that batch is empty or nothing is
left to do.
-/
theorem flaggedPending_step (processed : List Reference)
    (waits : flags.waiting? workspace.registry.slots = some pending)
    : let ready := readySlots workspace.registry phase processed pending
      flaggedPending phase action flags processed workspace
      = if ready = [] ∨ flags.left = 0 then
          some (⟨[], pending, true⟩, processed, workspace)
        else
          (flaggedBatch action ready flags processed workspace).bind fun (marked, result) =>
            if result.1 then
              (flaggedPending phase action marked result.2.1 result.2.2).map fun rest =>
                ({ rest.1 with batches := ready :: rest.1.batches }, rest.2)
            else
              (marked.waiting? result.2.2.registry.slots).map fun unprocessed =>
                (⟨[ready], unprocessed, false⟩, result.2) := by
  intro ready
  rw [flaggedPending]
  simp only [waits]
  split
  · rfl
  · split
    · next missing =>
        rw [missing]
        rfl
    · next done =>
        rw [done]
        rfl
    · next done =>
        rw [done]
        rfl

-----------------------------------------------------------------------------------------
-- Calls that add no slot
-----------------------------------------------------------------------------------------

/-- The call may change whatever it wants, but it adds no slot. -/
def AddsNoSlot (action : Action σ) (slot : Slot) (workspace : Workspace σ) : Prop :=
  (action slot workspace).2.registry.size ≤ workspace.registry.size

instance (action : Action σ) (slot : Slot) (workspace : Workspace σ)
    : Decidable (AddsNoSlot action slot workspace) :=
  Nat.decLe _ _

theorem size_afterCalls_le {slots : List Slot}
    (noSlot : EachCall action (AddsNoSlot action) slots workspace)
    : (afterCalls action slots workspace).registry.size ≤ workspace.registry.size := by
  induction slots generalizing workspace with
  | nil => exact Nat.le_refl _
  | cons slot rest ih => exact Nat.le_trans (ih noSlot.2) noSlot.1

/-- The result, where only slots that the registry still has are left. -/
def present (result : BatchRun × List Reference × Workspace σ)
    : BatchRun × List Reference × Workspace σ :=
  ({ result.1 with
      unprocessed := result.1.unprocessed.filter fun slot => slot < result.2.2.registry.size },
    result.2)

/-- No slot is ready that the registry does not have. -/
theorem readySlots_filter (registry : Registry) (phase : Phase) (processed : List Reference)
    (pending : List Slot)
    : readySlots registry phase processed (pending.filter fun slot => slot < registry.size)
      = readySlots registry phase processed pending := by
  rw [readySlots, readySlots, List.filter_filter]
  refine List.filter_congr fun slot _ => ?_
  rw [Bool.and_eq_left_iff_imp]
  intro ready
  unfold isReady at ready
  split at ready
  · next record found => exact decide_eq_true (Registry.lt_size_of_get? found)
  · cases ready

/-- Where no call adds a slot, every slot has a flag, and the slots left to do are those that are
pending.
Witness: induction on the run; the flags track the pending slots, and no call adds one.
-/
theorem flaggedPending_eq (tracks : flags.Tracks size pending) (processed : List Reference)
    (fewer : workspace.registry.size ≤ size)
    (noSlot
      : EachCall action (AddsNoSlot action)
          (runPending phase action pending processed workspace).1.batches.flatten workspace)
    : flaggedPending phase action flags processed workspace
      = some (present (runPending phase action pending processed workspace)) := by
  have busy {pending : List Slot} {flags : Flags} {registry : Registry}
      {processed : List Reference} (tracks : flags.Tracks size pending)
      (some : readySlots registry phase processed pending ≠ [])
      : flags.left ≠ 0 := by
    refine tracks.left_ne_zero ?_
    rintro rfl
    exact some rfl
  suffices same
      : ∀ flags : Flags,
          flags.Tracks size pending
          → workspace.registry.size ≤ size
          → EachCall action (AddsNoSlot action)
              (runPending phase action pending processed workspace).1.batches.flatten workspace
          → flaggedPending phase action flags processed workspace
            = some (present (runPending phase action pending processed workspace)) from
    same flags tracks fewer noSlot
  apply runPending_induction
    (motive := fun pending processed workspace result =>
      ∀ flags : Flags,
        flags.Tracks size pending
        → workspace.registry.size ≤ size
        → EachCall action (AddsNoSlot action) result.1.batches.flatten workspace
        → flaggedPending phase action flags processed workspace = some (present result))
  · intro pending processed workspace none flags tracks fewer _
    rw [flaggedPending_step processed (tracks.waiting?_slots fewer), readySlots_filter, none,
      if_pos (Or.inl rfl)]
    rfl
  · rintro pending processed workspace ready rfl some failed flags tracks fewer noSlot
    obtain ⟨marked, done, tracksMarked⟩ :=
      flaggedBatch_readySlots phase action tracks workspace.registry processed workspace
    rw [List.flatten_cons, List.flatten_nil, List.append_nil] at noSlot
    have still := Nat.le_trans (size_afterCalls_le noSlot) fewer
    rw [← runBatch_workspace action _ processed] at still
    rw [flaggedPending_step processed (tracks.waiting?_slots fewer), readySlots_filter,
      if_neg (not_or.mpr ⟨some, busy tracks some⟩), done]
    simp only [Option.bind_some, failed, Bool.false_eq_true, if_false,
      tracksMarked.waiting?_slots still]
    rfl
  · rintro pending processed workspace ready rest rfl some succeeded ih flags tracks fewer noSlot
    obtain ⟨marked, done, tracksMarked⟩ :=
      flaggedBatch_readySlots phase action tracks workspace.registry processed workspace
    rw [List.flatten_cons, eachCall_append] at noSlot
    have still := Nat.le_trans (size_afterCalls_le noSlot.1) fewer
    rw [← runBatch_workspace action _ processed] at still noSlot
    rw [flaggedPending_step processed (tracks.waiting?_slots fewer), readySlots_filter,
      if_neg (not_or.mpr ⟨some, busy tracks some⟩), done]
    simp only [Option.bind_some, succeeded, if_true, ih marked tracksMarked still noSlot.2]
    rfl

-----------------------------------------------------------------------------------------
-- The whole run
-----------------------------------------------------------------------------------------

theorem flaggedRun_eq_map (phase : Phase) (action : Action σ) (workspace : Workspace σ)
    : flaggedRun phase action workspace
      = (flaggedPending phase action (.fresh workspace.registry.size) [] workspace).map
          (concluded phase) := by
  refine congrArg (Option.map · _) (funext fun result => ?_)
  exact (concluded_eq phase result).symm

/-- The run with flags never stops for the want of one. It leaves the slots of the run that the
registry still has.
-/
theorem flaggedRun_eq_concluded
    (noSlot
      : EachCall action (AddsNoSlot action) (run phase action workspace).1.batches.flatten
          workspace)
    : flaggedRun phase action workspace
      = some
          (concluded phase
            (present (runPending phase action workspace.registry.slots [] workspace))) := by
  rw [run_batches] at noSlot
  rw [flaggedRun_eq_map,
    flaggedPending_eq (Flags.tracks_fresh _) [] (Nat.le_refl _) noSlot]
  rfl

/-- Where the number of types is the same in the end, no slot that is left is lost. -/
theorem present_runPending
    (same
      : (run phase action workspace).2.registry.size = workspace.registry.size)
    : present (runPending phase action workspace.registry.slots [] workspace)
      = runPending phase action workspace.registry.slots [] workspace := by
  have kept
      : (runPending phase action workspace.registry.slots [] workspace).2.2.registry.size
        = workspace.registry.size := by
    rw [← same, run_eq_concluded]
    rfl
  refine Prod.ext ?_ rfl
  simp only [present, kept]
  congr
  refine List.filter_eq_self.mpr fun slot left => decide_eq_true ?_
  rw [← run_unprocessed] at left
  exact lt_size_of_mem_run phase action workspace (List.mem_append_right _ left)

/-- The run with flags is the run where the number of types is the same in the end. -/
theorem flaggedRun_eq_run
    (noSlot
      : EachCall action (AddsNoSlot action) (run phase action workspace).1.batches.flatten
          workspace)
    (same : (run phase action workspace).2.registry.size = workspace.registry.size)
    : flaggedRun phase action workspace = some (run phase action workspace) := by
  rw [flaggedRun_eq_concluded noSlot, present_runPending same, run_eq_concluded]

-----------------------------------------------------------------------------------------
-- Calls that keep the number of types
-----------------------------------------------------------------------------------------

/-- What every call for one of so many slots keeps, all calls keep. -/
theorem eachCall_of_keeps (keeps : Workspace σ → Prop)
    (each : ∀ slot workspace, slot < size → keeps workspace → keeps (action slot workspace).2)
    {slots : List Slot} (inside : ∀ slot ∈ slots, slot < size) (start : keeps workspace)
    : EachCall action
          (fun slot found => slot < size ∧ keeps found ∧ keeps (action slot found).2) slots
          workspace
      ∧ keeps (afterCalls action slots workspace) := by
  induction slots generalizing workspace with
  | nil => exact ⟨trivial, start⟩
  | cons slot rest ih =>
      obtain ⟨here, later⟩ := List.forall_mem_cons.mp inside
      have kept := each slot workspace here start
      obtain ⟨calls, last⟩ := ih later kept
      exact ⟨⟨⟨here, start, kept⟩, calls⟩, last⟩

/-- Calls that keep the number of types never stop the run with flags. -/
theorem flaggedRun_eq
    (each : ∀ slot workspace, slot < size → keeps workspace → keeps (action slot workspace).2)
    (sized : ∀ workspace, keeps workspace → workspace.registry.size = size)
    (phase : Phase) (start : keeps workspace)
    : flaggedRun phase action workspace = some (run phase action workspace) := by
  have inside (slot : Slot)
      (member : slot ∈ (run phase action workspace).1.batches.flatten)
      : slot < size := by
    rw [← sized workspace start]
    exact lt_size_of_mem_run phase action workspace (List.mem_append_left _ member)
  obtain ⟨calls, last⟩ := eachCall_of_keeps keeps each inside start
  refine flaggedRun_eq_run (calls.imp ?_) ?_
  · rintro slot found ⟨-, before, after⟩
    rw [AddsNoSlot, sized _ before, sized _ after]
  · rw [run_registry, sized _ last, sized _ start]

end SchemaGraph.Schedule
