import SchemaGraph.Proofs.Schedule.Silence

/-! Runs that fail just where they report.
A call reports errors behind those that it finds, and it reports some where it fails and only there.
The run adds its reports on the types that are stuck, so it fails exactly where something was
reported.
-/

namespace SchemaGraph.Schedule

variable {σ : Type} {phase : Phase} {action : Action σ} {workspace : Workspace σ}
  {slot : Slot} {slots : List Slot}

/-- From one workspace to another, errors are only added, and `fine` tells whether there was none to
add. -/
def AddsErrors (before after : Workspace σ) (fine : Prop) : Prop :=
  ∃ more, after.errors = before.errors ++ more ∧ (fine ↔ more = [])

/-- Where steps follow each other, nothing is added when all of them add nothing. -/
theorem AddsErrors.trans {first second third : Workspace σ} {fine further : Prop}
    (adds : AddsErrors first second fine) (later : AddsErrors second third further)
    : AddsErrors first third (fine ∧ further) := by
  obtain ⟨errors, added, none⟩ := adds
  obtain ⟨more, laterAdded, laterNone⟩ := later
  refine ⟨errors ++ more, ?_, ?_⟩
  · rw [laterAdded, added, List.append_assoc]
  · rw [none, laterNone, List.append_eq_nil_iff]

/-- The call loses no type, and it fails exactly where it reports. -/
structure Reports (action : Action σ) (slot : Slot) (workspace : Workspace σ) : Prop where
  size : workspace.registry.size ≤ (action slot workspace).2.registry.size
  errors : AddsErrors workspace (action slot workspace).2 (Succeeds action slot workspace)

/-- Calls for slots that hold a type lose no type, and all succeed exactly where none reports. -/
theorem afterCalls_addsErrors
    (reports
      : ∀ slot workspace, slot < workspace.registry.size → Reports action slot workspace)
    (inside : ∀ slot ∈ slots, slot < workspace.registry.size)
    : workspace.registry.size ≤ (afterCalls action slots workspace).registry.size
      ∧ AddsErrors workspace (afterCalls action slots workspace)
          (EachCall action (Succeeds action) slots workspace) := by
  induction slots generalizing workspace with
  | nil => exact ⟨Nat.le_refl _, [], by simp, by simp [EachCall]⟩
  | cons slot rest ih =>
      have call := reports slot workspace (inside slot List.mem_cons_self)
      have still (other : Slot) (member : other ∈ rest)
          : other < (action slot workspace).2.registry.size :=
        Nat.lt_of_lt_of_le (inside other (List.mem_cons_of_mem slot member)) call.size
      obtain ⟨size, errors⟩ := ih still
      exact ⟨Nat.le_trans call.size size, call.errors.trans errors⟩

/-- A run fails exactly where a call of it or the run itself reports something.
Witness: if all calls succeed, the run reports the slots that are left, and otherwise a call has
reported something.
-/
theorem run_addsErrors
    (reports
      : ∀ slot workspace, slot < workspace.registry.size → Reports action slot workspace)
    (phase : Phase) (workspace : Workspace σ)
    : AddsErrors workspace (run phase action workspace).2
        ((run phase action workspace).1.success = true) := by
  let done := run phase action workspace
  have inside (slot : Slot) (member : slot ∈ done.1.batches.flatten)
      : slot < workspace.registry.size :=
    lt_size_of_mem_run phase action workspace (List.mem_append_left _ member)
  obtain ⟨size, more, errors, none⟩ := afterCalls_addsErrors reports inside
  by_cases all
    : EachCall action (Succeeds action) done.1.batches.flatten workspace
  · -- The report on the slots that are left is empty just where none is.
    have bound (slot : Slot) (left : slot ∈ done.1.unprocessed) : slot < done.2.registry.size := by
      rw [run_registry]
      exact Nat.lt_of_lt_of_le
        (lt_size_of_mem_run phase action workspace (List.mem_append_right _ left)) size
    refine ⟨deadlockErrors done.2.registry phase (processedBy phase action workspace)
      done.1.unprocessed, ?_, ?_⟩
    · rw [run_errors_of_succeeded all, errors, none.mp all, List.append_nil]
    · rw [run_success_iff, and_iff_right all]
      constructor
      · intro left
        rw [left]
        rfl
      · intro reported
        rw [List.eq_nil_iff_forall_not_mem]
        exact fun slot left => deadlockErrors_ne_nil left (bound slot left) reported
  · refine ⟨more, ?_, ?_⟩
    · rw [run_errors_of_failed all, errors]
    · rw [run_success_iff, ← none]
      exact and_iff_left_of_imp fun succeeded => absurd succeeded all

end SchemaGraph.Schedule
