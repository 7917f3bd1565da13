import SchemaGraph.Registry.Canonical

/-! Running an action over all types in dependency order.
A batch holds every type whose dependencies of the phase lead to processed types. Which types these
are is worked out anew for each batch, because an action may change records and complete names. A
failing action stops the run after its batch.
-/

namespace SchemaGraph

/-- What an action works on: the registry, the errors so far and a state of its own. -/
structure Workspace (σ : Type) where
  registry : Registry
  errors : List SchemaError
  state : σ

namespace Workspace

variable {σ : Type}

def report (workspace : Workspace σ) (error : SchemaError) : Workspace σ :=
  { workspace with errors := workspace.errors ++ [error] }

def reportAll (workspace : Workspace σ) (errors : List SchemaError) : Workspace σ :=
  { workspace with errors := workspace.errors ++ errors }

/-- Everything that is wrong so far: the errors, and then those that were found out about the
registered types at their discovery. -/
def problems (workspace : Workspace σ) : List SchemaError :=
  workspace.errors ++ workspace.registry.discoveryErrors

end Workspace

/-- Works on one slot and tells whether that succeeded. -/
abbrev Action (σ : Type) := Slot → Workspace σ → Bool × Workspace σ

/-- The outcome of a run. -/
structure BatchRun where
  batches : List (List Slot)
  /-- The slots that were in no batch. -/
  unprocessed : List Slot
  success : Bool
deriving DecidableEq

def BatchRun.processed (run : BatchRun) : Nat :=
  run.batches.flatten.length

namespace Schedule

variable {σ : Type}

/-- Whether all dependencies of the phase lead to processed references. -/
def isReady (registry : Registry) (phase : Phase) (processed : List Reference) (slot : Slot)
    : Bool :=
  match registry.get? slot with
  | some record =>
      (record.dependenciesOf phase).all fun reference =>
        (registry.canonicalOrSelf reference).isIn processed
  | none => false

/-- The references by which the slot can be found now join the processed ones. -/
def markProcessed (registry : Registry) (slot : Slot) (processed : List Reference)
    : List Reference :=
  match registry.get? slot with
  | some record => Reference.addAll processed record.references
  | none => processed

/-- Acts on every slot of a batch, also after one has failed. -/
def runBatch (action : Action σ) (batch : List Slot) (processed : List Reference)
    (workspace : Workspace σ) : Bool × List Reference × Workspace σ :=
  match batch with
  | [] => (true, processed, workspace)
  | slot :: rest =>
      let (succeeded, after) := action slot workspace
      let (restSucceeded, final) :=
        runBatch action rest (markProcessed after.registry slot processed) after
      (succeeded && restSucceeded, final)

/-- The next batch: the pending slots that are ready, in ascending order if the pending ones are. -/
def readySlots (registry : Registry) (phase : Phase) (processed : List Reference)
    (pending : List Slot) : List Slot :=
  pending.filter (isReady registry phase processed)

def waitingSlots (registry : Registry) (phase : Phase) (processed : List Reference)
    (pending : List Slot) : List Slot :=
  pending.filter fun slot => !isReady registry phase processed slot

/-- A batch that holds a slot leaves fewer slots waiting. -/
theorem length_waitingSlots_lt {registry : Registry} {phase : Phase}
    {processed : List Reference} {pending : List Slot}
    (h : readySlots registry phase processed pending ≠ [])
    : (waitingSlots registry phase processed pending).length < pending.length := by
  obtain ⟨slot, hs⟩ := List.exists_mem_of_ne_nil _ h
  have hs := List.mem_filter.mp hs
  exact List.length_filter_lt_length_iff_exists.mpr ⟨slot, hs.1, by simp [hs.2]⟩

/-- Forms batches from the pending slots as long as there is a ready one and none has failed. Gives
the run, the processed references and the workspace at the end. -/
def runPending (phase : Phase) (action : Action σ) (pending : List Slot)
    (processed : List Reference) (workspace : Workspace σ)
    : BatchRun × List Reference × Workspace σ :=
  let ready := readySlots workspace.registry phase processed pending
  let waiting := waitingSlots workspace.registry phase processed pending
  if ready = [] then
    (⟨[], pending, true⟩, processed, workspace)
  else
    match runBatch action ready processed workspace with
    | (true, processed, workspace) =>
        let (run, final) := runPending phase action waiting processed workspace
        ({ run with batches := ready :: run.batches }, final)
    | (false, final) => (⟨[ready], waiting, false⟩, final)
termination_by pending.length
decreasing_by exact length_waitingSlots_lt ‹_›

end Schedule
end SchemaGraph
