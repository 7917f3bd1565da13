import SchemaGraph.Proofs.Registry.Indexes
import SchemaGraph.Proofs.Schedule.Calls

/-! What follows when a run reports nothing.
If every failing call reports an error and a call undoes nothing of what other calls have done, then
a run without errors has done its work on every type: no call has failed, and no type is left.
-/

namespace SchemaGraph.Schedule

variable {σ : Type} {phase : Phase} {action : Action σ} {keeps : Registry → Prop}
  {done : Registry → Slot → Prop} {workspace : Workspace σ}

/-- The call keeps what holds of the registry and what is done, and it does the work on its own slot
or reports an error.
-/
structure Advances (action : Action σ) (keeps : Registry → Prop)
    (done : Registry → Slot → Prop) (slot : Slot) (workspace : Workspace σ)
    : Prop where
  kept : keeps (action slot workspace).2.registry
  size : (action slot workspace).2.registry.size = workspace.registry.size
  errors
    : ∃ more,
        (action slot workspace).2.errors = workspace.errors ++ more
        ∧ ((action slot workspace).1 = false → more ≠ [])
  work : (action slot workspace).1 = true → done (action slot workspace).2.registry slot
  others
    : ∀ other,
        slot ≠ other
        → done workspace.registry other
        → done (action slot workspace).2.registry other

/-- A call that fails has nothing to do but to report. -/
theorem Advances.of_failure {slot : Slot} {more : List SchemaError}
    (failed : (action slot workspace).1 = false)
    (kept : keeps (action slot workspace).2.registry)
    (size : (action slot workspace).2.registry.size = workspace.registry.size)
    (errors : (action slot workspace).2.errors = workspace.errors ++ more) (some : more ≠ [])
    (others
      : ∀ other,
          slot ≠ other
          → done workspace.registry other
          → done (action slot workspace).2.registry other)
    : Advances action keeps done slot workspace where
  kept := kept
  size := size
  errors := ⟨more, errors, fun _ => some⟩
  work succeeded := by
    rw [failed] at succeeded
    cases succeeded
  others := others

/-- A call that succeeds has nothing to report. -/
theorem Advances.of_success {slot : Slot} (succeeded : (action slot workspace).1 = true)
    (kept : keeps (action slot workspace).2.registry)
    (size : (action slot workspace).2.registry.size = workspace.registry.size)
    (errors : (action slot workspace).2.errors = workspace.errors)
    (work : done (action slot workspace).2.registry slot)
    (others
      : ∀ other,
          slot ≠ other
          → done workspace.registry other
          → done (action slot workspace).2.registry other)
    : Advances action keeps done slot workspace where
  kept := kept
  size := size
  errors := by
    refine ⟨[], by rw [errors, List.append_nil], ?_⟩
    intro failed
    rw [succeeded] at failed
    cases failed
  work _ := work
  others := others

/-- A call that keeps one thing more. -/
theorem Advances.and {slot : Slot} (advances : Advances action keeps done slot workspace)
    (more : Registry → Prop) (kept : more (action slot workspace).2.registry)
    : Advances action (fun registry => keeps registry ∧ more registry) done slot workspace where
  kept := ⟨advances.kept, kept⟩
  size := advances.size
  errors := advances.errors
  work := advances.work
  others := advances.others

/-- Calls that left no error have all succeeded, and have done the work on their slots. -/
structure Silent (action : Action σ) (keeps : Registry → Prop)
    (done : Registry → Slot → Prop) (slots : List Slot) (workspace : Workspace σ)
    : Prop where
  before : workspace.errors = []
  succeeded : EachCall action (Succeeds action) slots workspace
  kept : keeps (afterCalls action slots workspace).registry
  size : (afterCalls action slots workspace).registry.size = workspace.registry.size
  work : ∀ slot ∈ slots, done (afterCalls action slots workspace).registry slot
  others
    : ∀ other,
        other ∉ slots
        → done workspace.registry other
        → done (afterCalls action slots workspace).registry other

/-- Witness: a call without an error has succeeded, and the later ones are for other slots. -/
theorem silent_of_errors
    (advances
      : ∀ slot workspace,
          keeps workspace.registry
          → slot < workspace.registry.size
          → Advances action keeps done slot workspace)
    {slots : List Slot} (distinct : slots.Nodup) (start : keeps workspace.registry)
    (inside : ∀ slot ∈ slots, slot < workspace.registry.size)
    (clean : (afterCalls action slots workspace).errors = [])
    : Silent action keeps done slots workspace := by
  induction slots generalizing workspace with
  | nil =>
      exact ⟨clean, trivial, start, rfl, fun _ member => absurd member List.not_mem_nil,
        fun _ _ kept => kept⟩
  | cons slot rest ih =>
      obtain ⟨fresh, distinctRest⟩ := List.nodup_cons.mp distinct
      have call := advances slot workspace start (inside slot List.mem_cons_self)
      have later : Silent action keeps done rest (action slot workspace).2 := by
        refine ih distinctRest call.kept ?_ clean
        intro other member
        rw [call.size]
        exact inside other (List.mem_cons_of_mem slot member)
      obtain ⟨more, errors, failing⟩ := call.errors
      rw [later.before] at errors
      obtain ⟨before, none⟩ := List.append_eq_nil_iff.mp errors.symm
      have succeeded : (action slot workspace).1 = true := by
        cases result : (action slot workspace).1 with
        | true => rfl
        | false => exact absurd none (failing result)
      refine ⟨before, ⟨succeeded, later.succeeded⟩, later.kept, later.size.trans call.size,
        ?_, ?_⟩
      · intro other member
        rcases List.mem_cons.mp member with rfl | behind
        · exact later.others other fresh (call.work succeeded)
        · exact later.work other behind
      · intro other absent kept
        rw [List.mem_cons, not_or] at absent
        obtain ⟨different, behind⟩ := absent
        exact later.others other behind (call.others other (Ne.symm different) kept)

/-- The slots that are stuck are reported, as long as they hold a type. -/
theorem deadlockErrors_ne_nil {registry : Registry} {processed : List Reference}
    {stuck : List Slot} {slot : Slot} (member : slot ∈ stuck) (inside : slot < registry.size)
    : deadlockErrors registry phase processed stuck ≠ [] := by
  obtain ⟨record, found⟩ := Registry.exists_get?_of_lt inside
  apply List.ne_nil_of_mem
  apply List.mem_filterMap.mpr
  exact ⟨slot, member, by rw [found]; rfl⟩

/-- When a run ends without an error, what was to hold holds and the work is done on every type.
Witness: without an error all calls have succeeded and no slot is left, so each slot has had its
call.
-/
theorem run_done_of_errors
    (advances
      : ∀ slot workspace,
          keeps workspace.registry
          → slot < workspace.registry.size
          → Advances action keeps done slot workspace)
    (start : keeps workspace.registry) (clean : (run phase action workspace).2.errors = [])
    : let after := (run phase action workspace).2.registry
      keeps after
      ∧ after.size = workspace.registry.size
      ∧ ∀ slot, slot < after.size → done after slot := by
  have perm := run_perm phase action workspace
  have distinct := (List.nodup_append.mp (perm.nodup_iff.mpr List.nodup_range)).1
  have inside (slot : Slot) (member : slot ∈ (run phase action workspace).1.batches.flatten)
      : slot < workspace.registry.size :=
    Registry.mem_slots.mp (perm.mem_iff.mp (List.mem_append_left _ member))
  have registry := run_registry phase action workspace
  by_cases all
    : EachCall action (Succeeds action) (run phase action workspace).1.batches.flatten
        workspace
  · rw [run_errors_of_succeeded all] at clean
    obtain ⟨called, reported⟩ := List.append_eq_nil_iff.mp clean
    have silent := silent_of_errors advances distinct start inside called
    -- The report on a slot that is left would not be empty.
    have none : (run phase action workspace).1.unprocessed = [] := by
      rw [List.eq_nil_iff_forall_not_mem]
      intro slot left
      have bound := Registry.mem_slots.mp (perm.mem_iff.mp (List.mem_append_right _ left))
      rw [← silent.size, ← registry] at bound
      exact deadlockErrors_ne_nil left bound reported
    rw [none, List.append_nil] at perm
    simp only [registry]
    refine ⟨silent.kept, silent.size, ?_⟩
    intro slot bound
    rw [silent.size] at bound
    exact silent.work slot (perm.mem_iff.mpr (Registry.mem_slots.mpr bound))
  · rw [run_errors_of_failed all] at clean
    exact absurd (silent_of_errors advances distinct start inside clean).succeeded all

end SchemaGraph.Schedule
