import SchemaGraph.Proofs.Data.Chains
import SchemaGraph.Proofs.Schedule.Order

/-! The batches of a run are the levels of the dependency graph.
When the action leaves the registry alone, the dependencies are a fixed graph. After as many batches
as a number says, the pending slots are those from which a chain of that many dependencies starts,
so that a batch takes the slots whose longest chain has exactly that length.
-/

namespace SchemaGraph.Schedule

open Chains Registry

variable {σ : Type} {registry : Registry} {phase : Phase} {action : Action σ}
  {workspace : Workspace σ}

/-- Every dependency of the phase denotes a registered type. -/
def DependenciesResolve (registry : Registry) (phase : Phase) : Prop :=
  ∀ record ∈ registry.records,
    ∀ reference ∈ record.dependenciesOf phase, (registry.resolve reference).isSome = true

theorem DependenciesResolve.target_lt (resolve : DependenciesResolve registry phase)
    {slot target : Slot} (depends : registry.DependsOn phase slot target)
    : target < registry.size := by
  obtain ⟨record, found, reference, declared, leads⟩ := depends
  obtain ⟨owner, resolved⟩ :=
    Option.isSome_iff_exists.mp (resolve record (mem_records_of_get? found) reference declared)
  rw [resolve_of_locate leads] at resolved
  exact lt_size_of_get? resolved

/-- The action always succeeds and leaves the registry alone. -/
def Calm (action : Action σ) : Prop :=
  ∀ slot workspace,
    Succeeds action slot workspace
    ∧ (action slot workspace).2.registry = workspace.registry

-----------------------------------------------------------------------------------------
-- What is processed after slots were marked
-----------------------------------------------------------------------------------------

/-- The processed references after slots were marked one after the other. -/
def markAll (registry : Registry) (slots : List Slot) (processed : List Reference)
    : List Reference :=
  slots.foldl (fun sofar slot => markProcessed registry slot sofar) processed

theorem Calm.runBatch_processed (calm : Calm action) (batch : List Slot)
    (processed : List Reference) (workspace : Workspace σ)
    : (runBatch action batch processed workspace).2.1
      = markAll workspace.registry batch processed := by
  induction batch generalizing processed workspace with
  | nil => rfl
  | cons slot rest ih =>
      have kept := (calm slot workspace).2
      have further := ih (markProcessed (action slot workspace).2.registry slot processed)
        (action slot workspace).2
      rw [kept] at further
      simpa only [runBatch, markAll, List.foldl_cons, kept] using further

theorem Calm.runBatch_registry (calm : Calm action) (batch : List Slot)
    (processed : List Reference) (workspace : Workspace σ)
    : (runBatch action batch processed workspace).2.2.registry = workspace.registry := by
  induction batch generalizing processed workspace with
  | nil => rfl
  | cons slot rest ih =>
      have kept := (calm slot workspace).2
      exact (ih _ (action slot workspace).2).trans kept

theorem Calm.runBatch_succeeded (calm : Calm action) (batch : List Slot)
    (processed : List Reference) (workspace : Workspace σ)
    : (runBatch action batch processed workspace).1 = true :=
  runBatch_succeeded_iff.mpr
    (EachCall.of_forall (fun slot workspace => (calm slot workspace).1) batch workspace)

/-- Marking a slot adds the canonical reference of that slot and of no other one. -/
theorem isIn_markProcessed_iff (apart : registry.CanonicalApart) {slot other : Slot}
    {record : TypeRecord} (found : registry.get? slot = some record)
    {processed : List Reference}
    : record.primary.isIn (markProcessed registry other processed) = true
      ↔ record.primary.isIn processed = true ∨ slot = other := by
  constructor
  · intro passed
    obtain ⟨reference, member, agrees⟩ := Reference.isIn_iff.mp passed
    rcases mem_markProcessed member with old | ⟨owner, here, carried⟩
    · exact Or.inl (Reference.isIn_iff.mpr ⟨reference, old, agrees⟩)
    · exact Or.inr (apart.slot_eq here found carried agrees).symm
  · unfold markProcessed
    rintro (old | rfl)
    · split
      · exact Reference.isIn_addAll_of_isIn _ old
      · exact old
    · rw [found]
      exact Reference.isIn_addAll_of_mem List.mem_cons_self

theorem isIn_markAll_iff (apart : registry.CanonicalApart) {slot : Slot} {record : TypeRecord}
    (found : registry.get? slot = some record) (slots : List Slot)
    (processed : List Reference)
    : record.primary.isIn (markAll registry slots processed) = true
      ↔ record.primary.isIn processed = true ∨ slot ∈ slots := by
  induction slots generalizing processed with
  | nil => simp [markAll]
  | cons first rest ih =>
      refine (ih (markProcessed registry first processed)).trans ?_
      rw [isIn_markProcessed_iff apart found, List.mem_cons, or_assoc]

-----------------------------------------------------------------------------------------
-- The pending slots after some batches
-----------------------------------------------------------------------------------------

/-- After `level` batches the slots with a chain of that length are pending, in ascending order, and
the canonical references of all others are processed.
-/
structure Levelled (registry : Registry) (phase : Phase) (level : Nat) (pending : List Slot)
    (processed : List Reference)
    : Prop where
  ascending : pending.Pairwise (· < ·)
  pending_iff
    : ∀ slot,
        slot ∈ pending
        ↔ slot < registry.size ∧ HasChain (registry.DependsOn phase) level slot
  processed_iff
    : ∀ slot record,
        registry.get? slot = some record
        → (record.primary.isIn processed = true
          ↔ ¬HasChain (registry.DependsOn phase) level slot)

theorem levelled_slots (registry : Registry) (phase : Phase)
    : Levelled registry phase 0 registry.slots [] where
  ascending := List.pairwise_lt_range
  pending_iff slot := by simp [mem_slots, HasChain]
  processed_iff slot record _ := by simp [HasChain, Reference.isIn]

/-- A slot is ready when no chain from it is longer than those of the slots that were done.
Witness: each of its dependencies denotes a type, and is processed when no chain of the level starts
there.
-/
theorem Levelled.isReady_iff {level : Nat} {pending : List Slot} {processed : List Reference}
    (levelled : Levelled registry phase level pending processed)
    (resolve : DependenciesResolve registry phase) {slot : Slot} (inside : slot < registry.size)
    : isReady registry phase processed slot = true
      ↔ ¬HasChain (registry.DependsOn phase) (level + 1) slot := by
  obtain ⟨record, found⟩ := exists_get?_of_lt inside
  have passed_iff (reference : Reference) (declared : reference ∈ record.dependenciesOf phase)
      : (registry.canonicalOrSelf reference).isIn processed = true
        ↔ ∀ target,
            registry.locate reference = some target
            → ¬HasChain (registry.DependsOn phase) level target := by
    obtain ⟨owner, resolved⟩ :=
      Option.isSome_iff_exists.mp
        (resolve record (mem_records_of_get? found) reference declared)
    obtain ⟨target, leads, here⟩ := Option.bind_eq_some_iff.mp resolved
    simp only [canonicalOrSelf_of_some resolved, levelled.processed_iff target owner here, leads,
      Option.some.injEq, forall_eq']
  simp only [isReady, found, List.all_eq_true]
  constructor
  · rintro all ⟨target, ⟨owner, here, reference, declared, leads⟩, chain⟩
    cases Option.some.inj (found.symm.trans here)
    exact (passed_iff reference declared).mp (all reference declared) target leads chain
  · intro ended reference declared
    rw [passed_iff reference declared]
    intro target leads chain
    exact ended ⟨target, ⟨record, found, reference, declared, leads⟩, chain⟩

/-- The ready slots are those whose longest chain has the length of the level. -/
theorem Levelled.mem_readySlots_iff {level : Nat} {pending : List Slot}
    {processed : List Reference} (levelled : Levelled registry phase level pending processed)
    (resolve : DependenciesResolve registry phase) {slot : Slot}
    : slot ∈ readySlots registry phase processed pending
      ↔ slot < registry.size ∧ HasHeight (registry.DependsOn phase) slot level := by
  rw [readySlots, List.mem_filter, levelled.pending_iff, hasHeight_iff, and_assoc]
  constructor
  · rintro ⟨inside, chain, ready⟩
    exact ⟨inside, chain, (levelled.isReady_iff resolve inside).mp ready⟩
  · rintro ⟨inside, chain, ended⟩
    exact ⟨inside, chain, (levelled.isReady_iff resolve inside).mpr ended⟩

/-- A batch takes the run to the next level.
Witness: what is ready at a level is what no chain goes further from, so the next level starts where
these slots are processed.
-/
theorem Levelled.next {level : Nat} {pending : List Slot} {processed : List Reference}
    (levelled : Levelled registry phase level pending processed)
    (apart : registry.CanonicalApart) (resolve : DependenciesResolve registry phase)
    : Levelled registry phase (level + 1) (waitingSlots registry phase processed pending)
        (markAll registry (readySlots registry phase processed pending) processed) where
  ascending := levelled.ascending.filter _
  pending_iff slot := by
    rw [waitingSlots, List.mem_filter, levelled.pending_iff, Bool.not_eq_true', and_assoc]
    constructor
    · rintro ⟨inside, _, waits⟩
      refine ⟨inside, ?_⟩
      by_contra ended
      rw [(levelled.isReady_iff resolve inside).mpr ended] at waits
      cases waits
    · rintro ⟨inside, chain⟩
      refine ⟨inside, chain.shorten, ?_⟩
      rw [← Bool.not_eq_true, levelled.isReady_iff resolve inside, not_not]
      exact chain
  processed_iff slot record found := by
    rw [isIn_markAll_iff apart found, levelled.processed_iff slot record found,
      levelled.mem_readySlots_iff resolve, hasHeight_iff]
    constructor
    · rintro (ended | ⟨-, -, ended⟩) chain
      · exact ended chain.shorten
      · exact ended chain
    · intro ended
      by_cases chain : HasChain (registry.DependsOn phase) level slot
      · exact Or.inr ⟨lt_size_of_get? found, chain, ended⟩
      · exact Or.inl chain

/-- When no slot is ready any more, a cycle can be reached from every pending slot.
Witness: each pending slot depends on a pending one.
-/
theorem Levelled.reachesCycle_of_idle {level : Nat} {pending : List Slot}
    {processed : List Reference} (levelled : Levelled registry phase level pending processed)
    (resolve : DependenciesResolve registry phase)
    (idle : readySlots registry phase processed pending = []) {slot : Slot}
    (member : slot ∈ pending)
    : ReachesCycle (registry.DependsOn phase) slot := by
  have bound (point : Slot) (inside : point ∈ pending) : point < registry.size :=
    ((levelled.pending_iff point).mp inside).1
  refine reachesCycle_of_successors bound ?_ member
  intro point inside
  have chain := ((levelled.pending_iff point).mp inside).2
  have longer : HasChain (registry.DependsOn phase) (level + 1) point := by
    by_contra ended
    have height := hasHeight_iff.mpr ⟨chain, ended⟩
    have ready := (levelled.mem_readySlots_iff resolve).mpr ⟨bound point inside, height⟩
    rw [idle] at ready
    exact List.not_mem_nil ready
  obtain ⟨target, depends, rest⟩ := longer
  have inRange := DependenciesResolve.target_lt resolve depends
  exact ⟨target, (levelled.pending_iff target).mpr ⟨inRange, rest⟩, depends⟩

/-- When no slot is ready any more, no slot has a longest chain of the level or beyond. -/
theorem Levelled.not_hasHeight_of_idle {level : Nat} {pending : List Slot}
    {processed : List Reference} (levelled : Levelled registry phase level pending processed)
    (resolve : DependenciesResolve registry phase)
    (idle : readySlots registry phase processed pending = []) {slot : Slot}
    (inside : slot < registry.size) (k : Nat)
    : ¬HasHeight (registry.DependsOn phase) slot (level + k) := by
  intro height
  obtain ⟨chain, ended⟩ := hasHeight_iff.mp height
  have member := (levelled.pending_iff slot).mpr ⟨inside, chain.mono (by omega)⟩
  have cyclic := levelled.reachesCycle_of_idle resolve idle member
  exact ended (cyclic.hasChain _)

-----------------------------------------------------------------------------------------
-- Runs
-----------------------------------------------------------------------------------------

/-- The batches of a run that starts at a level are the levels from there on, and the slots that are
left are those from which a cycle can be reached. All lists ascend, and no batch is empty.
-/
structure ByLevel (registry : Registry) (phase : Phase) (level : Nat) (batchRun : BatchRun)
    : Prop where
  mem_batch_iff
    : ∀ k slot,
        slot ∈ batchRun.batches.getD k []
        ↔ slot < registry.size ∧ HasHeight (registry.DependsOn phase) slot (level + k)
  mem_unprocessed_iff
    : ∀ slot,
        slot ∈ batchRun.unprocessed ↔ ReachesCycle (registry.DependsOn phase) slot
  ascending : ∀ k, (batchRun.batches.getD k []).Pairwise (· < ·)
  unprocessed_ascending : batchRun.unprocessed.Pairwise (· < ·)
  nonempty : [] ∉ batchRun.batches

theorem lt_size_of_reachesCycle {slot : Slot}
    (cyclic : ReachesCycle (registry.DependsOn phase) slot)
    : slot < registry.size := by
  obtain ⟨target, ⟨record, found, _⟩, _⟩ := cyclic.hasChain 1
  exact lt_size_of_get? found

theorem Levelled.byLevel_of_idle {level : Nat} {pending : List Slot}
    {processed : List Reference} (levelled : Levelled registry phase level pending processed)
    (resolve : DependenciesResolve registry phase)
    (idle : readySlots registry phase processed pending = [])
    : ByLevel registry phase level ⟨[], pending, true⟩ where
  mem_batch_iff k slot := by
    constructor
    · intro member
      exact absurd member (by simp)
    · rintro ⟨inside, height⟩
      exact absurd height (levelled.not_hasHeight_of_idle resolve idle inside k)
  mem_unprocessed_iff slot := by
    constructor
    · exact levelled.reachesCycle_of_idle resolve idle
    · intro cyclic
      have inside := lt_size_of_reachesCycle cyclic
      exact (levelled.pending_iff slot).mpr ⟨inside, cyclic.hasChain level⟩
  ascending := by simp
  unprocessed_ascending := levelled.ascending
  nonempty := List.not_mem_nil

/-- A level goes in front of the levels behind it. -/
theorem Levelled.byLevel_cons {level : Nat} {pending : List Slot}
    {processed : List Reference} (levelled : Levelled registry phase level pending processed)
    (resolve : DependenciesResolve registry phase)
    (some : readySlots registry phase processed pending ≠ []) {rest : BatchRun}
    (behind : ByLevel registry phase (level + 1) rest)
    : ByLevel registry phase level
        { rest with batches := readySlots registry phase processed pending :: rest.batches }
    where
  mem_batch_iff k slot := by
    cases k with
    | zero => exact levelled.mem_readySlots_iff resolve
    | succ k =>
        have shifted := behind.mem_batch_iff k slot
        rw [Nat.add_right_comm, Nat.add_assoc] at shifted
        exact shifted
  mem_unprocessed_iff := behind.mem_unprocessed_iff
  ascending k := by
    cases k with
    | zero => exact levelled.ascending.filter _
    | succ k => exact behind.ascending k
  unprocessed_ascending := behind.unprocessed_ascending
  nonempty member := by
    rcases List.mem_cons.mp member with empty | later
    · exact some empty.symm
    · exact behind.nonempty later

theorem Calm.runPending_byLevel (calm : Calm action) (apart : registry.CanonicalApart)
    (resolve : DependenciesResolve registry phase) (pending : List Slot)
    (processed : List Reference) (workspace : Workspace σ)
    : workspace.registry = registry
      → ∀ level,
          Levelled registry phase level pending processed
          → ByLevel registry phase level
              (runPending phase action pending processed workspace).1 := by
  apply runPending_induction
    (motive := fun pending processed workspace result =>
      workspace.registry = registry
      → ∀ level,
          Levelled registry phase level pending processed
          → ByLevel registry phase level result.1)
  · rintro pending processed workspace idle rfl level levelled
    exact levelled.byLevel_of_idle resolve idle
  · intro pending processed workspace ready _ _ failed
    rw [calm.runBatch_succeeded] at failed
    cases failed
  · rintro pending processed workspace ready rest rfl some _ ih rfl level levelled
    rw [calm.runBatch_processed, calm.runBatch_registry] at ih
    exact levelled.byLevel_cons resolve some (ih rfl (level + 1) (levelled.next apart resolve))

/-- Batch number `k` is the list of the slots whose longest chain of dependencies has `k` links, and
the slots that are left are those from which a cycle of dependencies can be reached; so a run
succeeds if and only if no type waits for itself.
Witness: the levels of the run, from the first one on, in a registry that no call changes.
-/
theorem run_levels (calm : Calm action) (apart : workspace.registry.CanonicalApart)
    (resolve : DependenciesResolve workspace.registry phase)
    : let result := (run phase action workspace).1
      let depends := workspace.registry.DependsOn phase
      (∀ k,
        (result.batches.getD k []).Pairwise (· < ·)
        ∧ ∀ slot,
            slot ∈ result.batches.getD k []
            ↔ slot < workspace.registry.size ∧ HasHeight depends slot k)
      ∧ [] ∉ result.batches
      ∧ result.unprocessed.Pairwise (· < ·)
      ∧ (∀ slot, slot ∈ result.unprocessed ↔ ReachesCycle depends slot)
      ∧ (result.success = true ↔ ∀ slot, ¬Relation.TransGen depends slot slot) := by
  have levels :=
    calm.runPending_byLevel apart resolve workspace.registry.slots [] workspace rfl 0
      (levelled_slots workspace.registry phase)
  simp only [run_success_iff, run_batches, run_unprocessed]
  refine ⟨?_, levels.nonempty, levels.unprocessed_ascending, levels.mem_unprocessed_iff, ?_⟩
  · intro k
    refine ⟨levels.ascending k, ?_⟩
    intro slot
    have here := levels.mem_batch_iff k slot
    rw [Nat.zero_add] at here
    exact here
  · constructor
    · rintro ⟨_, done⟩ slot cycle
      have left := (levels.mem_unprocessed_iff slot).mpr ⟨slot, .refl, cycle⟩
      rw [done] at left
      exact List.not_mem_nil left
    · intro acyclic
      refine ⟨EachCall.of_forall (fun slot workspace => (calm slot workspace).1) _ _, ?_⟩
      rw [List.eq_nil_iff_forall_not_mem]
      intro slot left
      obtain ⟨hub, _, cycle⟩ := (levels.mem_unprocessed_iff slot).mp left
      exact acyclic hub cycle

/-- Succeeds for every type and changes nothing. -/
def doNothing : Action Unit := fun _ workspace => (true, workspace)

/-- Two types in a chain, and one behind them that waits for itself. -/
def partlyCyclic : Registry :=
  Registry.empty.applyAll
    [.register (waitingType "First" [⟨.schema ⟨"Second"⟩, .named⟩]),
      .register (waitingType "Second" []),
      .register (waitingType "Third" [⟨.schema ⟨"Third"⟩, .named⟩])]

theorem partlyCyclic_levels
    : let result := (run .named doNothing ⟨partlyCyclic, [], ()⟩).1
      let depends := partlyCyclic.DependsOn .named
      Calm doNothing
      ∧ partlyCyclic.CanonicalApart
      ∧ DependenciesResolve partlyCyclic .named
      ∧ result.batches = [[1], [0]]
      ∧ result.unprocessed = [2]
      ∧ HasHeight depends 1 0
      ∧ HasHeight depends 0 1
      ∧ ReachesCycle depends 2 := by
  intro result depends
  have calm : Calm doNothing := fun _ _ => ⟨rfl, rfl⟩
  have apart : partlyCyclic.CanonicalApart := by decide
  have resolve : DependenciesResolve partlyCyclic .named := by
    unfold DependenciesResolve
    decide
  have formed : result.batches = [[1], [0]] := by
    simp only [result, run_batches]
    cbv
  have left : result.unprocessed = [2] := by
    simp only [result, run_unprocessed]
    cbv
  let workspace : Workspace Unit := ⟨partlyCyclic, [], ()⟩
  obtain ⟨levels, -, -, unprocessed, -⟩ := @run_levels _ _ _ workspace calm apart resolve
  refine ⟨calm, apart, resolve, formed, left, ?_, ?_, ?_⟩
  · have first : 1 ∈ result.batches.getD 0 [] := by
      rw [formed]
      decide
    exact (((levels 0).2 1).mp first).2
  · have second : 0 ∈ result.batches.getD 1 [] := by
      rw [formed]
      decide
    exact (((levels 1).2 0).mp second).2
  · have third : 2 ∈ result.unprocessed := by
      rw [left]
      decide
    exact (unprocessed 2).mp third

end SchemaGraph.Schedule
