import Mathlib
import SchemaGraph.Proofs.Registry.Changes
import SchemaGraph.Proofs.Registry.Ownership
import SchemaGraph.Proofs.Schedule.Calls

/-! No type is processed before the types that it waits for.
The processed references are those of types that were done. Since no type carries a canonical
reference of another one, a dependency whose canonical reference is processed leads to a type that
was done itself, and not merely to one that resembles it.
-/

namespace SchemaGraph

/-- In the phase, the type in the first slot waits for the one in the second. -/
def Registry.DependsOn (registry : Registry) (phase : Phase) (slot target : Slot) : Prop :=
  ∃ record,
    registry.get? slot = some record
    ∧ ∃ reference ∈ record.dependenciesOf phase, registry.locate reference = some target

namespace Schedule

variable {σ : Type} {phase : Phase} {action : Action σ} {workspace : Workspace σ}

/-- The call changes the registry by operations alone. They may store types again and register
names, but they add no slot and change no references.
-/
def KeepsReferences (action : Action σ) (slot : Slot) (workspace : Workspace σ) : Prop :=
  (∃ changes, (action slot workspace).2.registry = workspace.registry.applyAll changes)
  ∧ (action slot workspace).2.registry.referenceLists = workspace.registry.referenceLists

/-- What a run knows between its calls: look-ups stay inside the registry, canonical references lead
to one type only, and each processed reference is carried by a type that was done.
-/
structure Traced (registry : Registry) (done : List Slot) (processed : List Reference)
    : Prop where
  bounded : registry.Bounded
  apart : registry.CanonicalApart
  carried
    : ∀ reference ∈ processed,
        ∃ slot ∈ done,
          ∃ record, registry.get? slot = some record ∧ reference ∈ record.references

theorem mem_markProcessed {registry : Registry} {slot : Slot} {processed : List Reference}
    {reference : Reference} (h : reference ∈ markProcessed registry slot processed)
    : reference ∈ processed
      ∨ ∃ record, registry.get? slot = some record ∧ reference ∈ record.references := by
  unfold markProcessed at h
  split at h
  · next record found =>
      exact (Reference.mem_addAll h).imp_right fun member => ⟨record, found, member⟩
  · exact Or.inl h

/-- A call that keeps the references traces them further: its slot is done, too. -/
theorem Traced.call {done : List Slot} {processed : List Reference} {slot : Slot}
    (traced : Traced workspace.registry done processed)
    (keeps : KeepsReferences action slot workspace)
    : let after := (action slot workspace).2.registry
      Traced after (done ++ [slot]) (markProcessed after slot processed) := by
  obtain ⟨⟨changes, changed⟩, same⟩ := keeps
  refine ⟨changed ▸ traced.bounded.applyAll changes, traced.apart.congr same, ?_⟩
  intro reference member
  rcases mem_markProcessed member with old | ⟨record, found, carried⟩
  · obtain ⟨holder, isDone, record, found, carried⟩ := traced.carried reference old
    obtain ⟨later, here, sameReferences⟩ := Registry.exists_get?_of_referenceLists same found
    exact ⟨holder, List.mem_append_left _ isDone, later, here, sameReferences ▸ carried⟩
  · exact ⟨slot, by simp, record, found, carried⟩

theorem Traced.runBatch {done batch : List Slot} {processed : List Reference}
    (traced : Traced workspace.registry done processed)
    (keeps : EachCall action (KeepsReferences action) batch workspace)
    : Traced (afterCalls action batch workspace).registry (done ++ batch)
        (Schedule.runBatch action batch processed workspace).2.1 := by
  induction batch generalizing done processed workspace with
  | nil => simpa [Schedule.runBatch] using traced
  | cons slot rest ih =>
      have further := ih (traced.call keeps.1) keeps.2
      rw [List.append_assoc, List.singleton_append] at further
      exact further

/-- A slot that is ready waits for nothing but what was done.
Witness: the dependency leads to a type whose canonical reference is processed. A done type carries
a reference that agrees with it, and that is the type itself.
-/
theorem Traced.dependency_done {registry : Registry} {done : List Slot}
    {processed : List Reference} {slot target : Slot} (traced : Traced registry done processed)
    (ready : isReady registry phase processed slot = true)
    (depends : registry.DependsOn phase slot target)
    : target ∈ done := by
  obtain ⟨record, found, reference, declared, leads⟩ := depends
  obtain ⟨owner, here⟩ := Registry.exists_get?_of_lt (traced.bounded.locate_lt leads)
  have resolved : registry.resolve reference = some owner :=
    (Registry.resolve_of_locate leads).trans here
  have passed : (registry.canonicalOrSelf reference).isIn processed = true := by
    simp only [isReady, found, List.all_eq_true] at ready
    exact ready reference declared
  rw [Registry.canonicalOrSelf_of_some resolved] at passed
  obtain ⟨other, member, agrees⟩ := Reference.isIn_iff.mp passed
  obtain ⟨holder, isDone, holding, foundHolder, carried⟩ := traced.carried other member
  exact traced.apart.slot_eq foundHolder here carried agrees ▸ isDone

/-- From pending slots on, every batch waits for what was done before and for earlier batches.
Witness: induction on the run; a slot is ready if all that it depends on is processed, and only
slots that were done are.
-/
theorem runPending_dependency_done (pending : List Slot) (processed : List Reference)
    (workspace : Workspace σ)
    : let batches := (runPending phase action pending processed workspace).1.batches
      ∀ done,
        Traced workspace.registry done processed
        → EachCall action (KeepsReferences action) batches.flatten workspace
        → ∀ k batch,
            batches[k]? = some batch
            → ∀ slot ∈ batch,
                ∀ target,
                  (afterCalls action (batches.take k).flatten workspace).registry.DependsOn
                      phase slot target
                  → target ∈ done ++ (batches.take k).flatten := by
  apply runPending_induction
    (motive := fun _ processed workspace result =>
      ∀ done,
        Traced workspace.registry done processed
        → EachCall action (KeepsReferences action) result.1.batches.flatten workspace
        → ∀ k batch,
            result.1.batches[k]? = some batch
            → ∀ slot ∈ batch,
                ∀ target,
                  (afterCalls action (result.1.batches.take k).flatten
                      workspace).registry.DependsOn phase slot target
                  → target ∈ done ++ (result.1.batches.take k).flatten)
  · intro pending processed workspace _ done _ _ k batch formed
    simp at formed
  · rintro pending processed workspace ready rfl _ _ done traced _ k batch formed slot member
      target depends
    cases k with
    | zero =>
        cases Option.some.inj formed
        have isReady := (List.mem_filter.mp member).2
        simpa using traced.dependency_done isReady depends
    | succ k => simp at formed
  · rintro pending processed workspace ready rest rfl _ _ ih done traced keeps k batch formed
      slot member target depends
    cases k with
    | zero =>
        cases Option.some.inj formed
        have isReady := (List.mem_filter.mp member).2
        simpa using traced.dependency_done isReady depends
    | succ k =>
        rw [List.flatten_cons, eachCall_append] at keeps
        rw [List.take_succ_cons, List.flatten_cons, afterCalls_append] at depends
        rw [List.take_succ_cons, List.flatten_cons, ← List.append_assoc]
        rw [runBatch_workspace] at ih
        exact ih _ (traced.runBatch keeps.1) keeps.2 k batch formed slot member target depends

-----------------------------------------------------------------------------------------
-- Runs over all slots
-----------------------------------------------------------------------------------------

/-- When a batch is formed, everything that its types wait for then lies in an earlier batch. The
calls may fail, store types again and register names meanwhile.
-/
theorem run_dependency_in_earlier_batch (built : workspace.registry.IsBuilt)
    (apart : workspace.registry.CanonicalApart)
    (keeps
      : EachCall action (KeepsReferences action)
          (run phase action workspace).1.batches.flatten workspace)
    : let batches := (run phase action workspace).1.batches
      ∀ k batch,
        batches[k]? = some batch
        → ∀ slot ∈ batch,
            ∀ target,
              (afterCalls action (batches.take k).flatten workspace).registry.DependsOn phase
                  slot target
              → ∃ earlier ∈ batches.take k, target ∈ earlier := by
  intro batches k batch formed slot member target depends
  have traced : Traced workspace.registry [] [] :=
    ⟨built.bounded, apart, fun _ member => absurd member List.not_mem_nil⟩
  have same := run_batches phase action workspace
  simp only [batches, same] at keeps formed depends ⊢
  have earlier :=
    runPending_dependency_done _ _ _ [] traced keeps k batch formed slot member target depends
  exact List.mem_flatten.mp earlier

/-- A scalar type that declares these dependencies. -/
def waitingType (name : String) (dependencies : List Dependency) : TypeRecord :=
  TypeRecord.new
    (.scalar ⟨⟨⟨name⟩, some name, none, RuntimeType.object⟩⟩) [] dependencies
    Discovered.nothing

/-- Two types, of which the first one needs the name of the second. -/
def chained : Registry :=
  Registry.empty.applyAll
    [.register (waitingType "First" [⟨.named "Second" .output, .named⟩]),
      .register (waitingType "Second" [])]

/-- Registers the name that a type has, as the naming of types does. -/
def registerNames : Action Unit := fun slot workspace =>
  match workspace.registry.registerName slot with
  | .ok named => (true, { workspace with registry := named })
  | .error _ => (false, workspace)

theorem registerNames_keepsReferences (slot : Slot) (workspace : Workspace Unit)
    : KeepsReferences registerNames slot workspace := by
  unfold KeepsReferences registerNames
  cases done : workspace.registry.registerName slot with
  | error => exact ⟨⟨[], rfl⟩, rfl⟩
  | ok named =>
      refine ⟨⟨[.registerName slot], ?_⟩, ?_⟩
      · simp [Registry.applyAll, Registry.apply, done]
      · rcases Registry.registerName_cases done with rfl | ⟨-, -, -, -, -, rfl⟩ <;> rfl

theorem chained_dependency_in_earlier_batch
    : let workspace : Workspace Unit := ⟨chained, [], ()⟩
      let batches := (run .named registerNames workspace).1.batches
      batches = [[1], [0]]
      ∧ chained.IsBuilt
      ∧ chained.CanonicalApart
      ∧ EachCall registerNames (KeepsReferences registerNames) batches.flatten workspace
      ∧ (afterCalls registerNames (batches.take 1).flatten workspace).registry.DependsOn .named
          0 1
      ∧ ∃ earlier ∈ batches.take 1, 1 ∈ earlier := by
  intro workspace batches
  have formed : batches = [[1], [0]] := by
    simp only [batches, workspace]
    cbv
  have built : chained.IsBuilt := ⟨_, rfl⟩
  have apart : chained.CanonicalApart := by decide
  have keeps : EachCall registerNames (KeepsReferences registerNames) batches.flatten workspace :=
    EachCall.of_forall registerNames_keepsReferences batches.flatten workspace
  have depends
      : (afterCalls registerNames (batches.take 1).flatten workspace).registry.DependsOn .named
          0 1 := by
    rw [formed]
    exact ⟨_, rfl, .named "Second" .output, by decide, by decide⟩
  have second : batches[1]? = some [0] := by rw [formed]; rfl
  have earlier :=
    run_dependency_in_earlier_batch built apart keeps 1 [0] second 0 (by simp) 1 depends
  exact ⟨formed, built, apart, keeps, depends, earlier⟩

end Schedule
end SchemaGraph
