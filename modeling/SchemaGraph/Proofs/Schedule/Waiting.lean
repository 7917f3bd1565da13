import SchemaGraph.Proofs.Data.Chains
import SchemaGraph.Proofs.Registry.Indexes
import SchemaGraph.Proofs.Schedule.Calls

/-! Runs along a relation that is not known from the start.
What a type waits for may show only while a run goes on. If at any time a type is ready exactly when
all that it is ever to wait for is done, the batches are formed as if this were known all along; and
if no call fails, the run succeeds unless a type is to wait for itself.
-/

namespace SchemaGraph.Schedule

open Chains Relation

variable {σ : Type} {phase : Phase} {action : Action σ} {size : Nat}
  {waits : Slot → Slot → Prop} {holds : List Slot → List Reference → Workspace σ → Prop}
  {workspace : Workspace σ}

/-- Among this number of slots, the calls follow the relation. What holds of the slots that are
done, of the processed references and of the workspace makes any other slot ready as soon as all
that it waits for is done; and a call for such a slot succeeds and keeps it.
-/
structure Follows (phase : Phase) (action : Action σ) (size : Nat)
    (waits : Slot → Slot → Prop)
    (holds : List Slot → List Reference → Workspace σ → Prop)
    : Prop where
  inside : ∀ {slot target : Slot}, waits slot target → target < size
  ready
    : ∀ {done processed workspace slot},
        holds done processed workspace
        → slot < size
        → slot ∉ done
        → (isReady workspace.registry phase processed slot = true
          ↔ ∀ target, waits slot target → target ∈ done)
  call
    : ∀ {done processed workspace slot},
        holds done processed workspace
        → slot < size
        → slot ∉ done
        → Succeeds action slot workspace
          ∧ let after := (action slot workspace).2
            holds (done ++ [slot]) (markProcessed after.registry slot processed) after

-----------------------------------------------------------------------------------------
-- Batches in the order of a relation
-----------------------------------------------------------------------------------------

/-- Each batch waits for nothing but what was done before the batches and for earlier ones. -/
def InOrder (waits : Slot → Slot → Prop) : List Slot → List (List Slot) → Prop
  | _, [] => True
  | done, batch :: rest =>
      (∀ slot ∈ batch, ∀ target, waits slot target → target ∈ done)
      ∧ InOrder waits (done ++ batch) rest

theorem InOrder.earlier {done : List Slot} {batches : List (List Slot)}
    (ordered : InOrder waits done batches) {k : Nat} {batch : List Slot}
    (formed : batches[k]? = some batch) {slot target : Slot} (member : slot ∈ batch)
    (waiting : waits slot target)
    : target ∈ done ∨ ∃ earlier ∈ batches.take k, target ∈ earlier := by
  induction batches generalizing done k with
  | nil => simp at formed
  | cons first rest ih =>
      cases k with
      | zero =>
          cases Option.some.inj formed
          exact Or.inl (ordered.1 slot member target waiting)
      | succ k =>
          rw [List.take_succ_cons]
          rcases ih ordered.2 formed with before | ⟨earlier, inRest, there⟩
          · rcases List.mem_append.mp before with old | inFirst
            · exact Or.inl old
            · exact Or.inr ⟨first, List.mem_cons_self, inFirst⟩
          · exact Or.inr ⟨earlier, List.mem_cons_of_mem first inRest, there⟩

/-- From a slot in one of the batches no chain has more links than there are batches. -/
theorem InOrder.not_hasChain {done : List Slot} {batches : List (List Slot)}
    (ordered : InOrder waits done batches) {length : Nat}
    (short : ∀ slot ∈ done, ¬HasChain waits length slot)
    : ∀ slot ∈ done ++ batches.flatten, ¬HasChain waits (length + batches.length) slot := by
  induction batches generalizing done length with
  | nil => simpa using short
  | cons batch rest ih =>
      have longer : ∀ slot ∈ done ++ batch, ¬HasChain waits (length + 1) slot := by
        rintro slot member ⟨target, waiting, chain⟩
        rcases List.mem_append.mp member with old | new
        · exact short slot old (HasChain.shorten ⟨target, waiting, chain⟩)
        · exact short target (ordered.1 slot new target waiting) chain
      have further := ih ordered.2 longer
      rw [List.append_assoc, Nat.add_assoc, Nat.add_comm 1] at further
      simpa using further

/-- Batches in order that hold every slot leave no cycle. -/
theorem InOrder.acyclic {batches : List (List Slot)} (ordered : InOrder waits [] batches)
    (all : ∀ slot target, waits slot target → target ∈ batches.flatten)
    : ∀ slot, ¬TransGen waits slot slot := by
  intro slot cycle
  obtain ⟨last, -, waiting⟩ := TransGen.tail'_iff.mp cycle
  have cyclic : ReachesCycle waits slot := ⟨slot, .refl, cycle⟩
  have none : ∀ slot ∈ [], ¬HasChain waits 0 slot := fun _ member => absurd member List.not_mem_nil
  have bound := ordered.not_hasChain none slot (all last slot waiting)
  exact bound (cyclic.hasChain _)

-----------------------------------------------------------------------------------------
-- Runs over pending slots
-----------------------------------------------------------------------------------------

theorem Follows.runBatch (follows : Follows phase action size waits holds)
    {done batch : List Slot} {processed : List Reference} (start : holds done processed workspace)
    (distinct : (done ++ batch).Nodup) (inside : ∀ slot ∈ batch, slot < size)
    : let result := Schedule.runBatch action batch processed workspace
      result.1 = true ∧ holds (done ++ batch) result.2.1 result.2.2 := by
  induction batch generalizing done processed workspace with
  | nil => simpa [Schedule.runBatch] using start
  | cons slot rest ih =>
      have fresh : slot ∉ done := by
        intro old
        exact (List.nodup_append.mp distinct).2.2 slot old slot List.mem_cons_self rfl
      obtain ⟨succeeded, kept⟩ := follows.call start (inside slot List.mem_cons_self) fresh
      rw [← List.singleton_append, ← List.append_assoc] at distinct
      obtain ⟨all, final⟩ :=
        ih kept distinct fun other member => inside other (List.mem_cons_of_mem slot member)
      rw [List.append_assoc, List.singleton_append] at final
      refine ⟨?_, final⟩
      simp only [Schedule.runBatch, Bool.and_eq_true]
      exact ⟨succeeded, all⟩

/-- A pending slot is one of those that are not done. -/
theorem pending_of_perm {done pending : List Slot}
    (perm : (done ++ pending).Perm (List.range size)) {slot : Slot} (member : slot ∈ pending)
    : slot < size ∧ slot ∉ done := by
  refine ⟨List.mem_range.mp (perm.mem_iff.mp (List.mem_append_right done member)), ?_⟩
  intro old
  have distinct := perm.nodup_iff.mpr List.nodup_range
  exact (List.nodup_append.mp distinct).2.2 slot old slot member rfl

/-- The next batch waits for what is done, and its calls succeed. -/
theorem Follows.readySlots (follows : Follows phase action size waits holds)
    {done pending : List Slot} {processed : List Reference} (start : holds done processed workspace)
    (perm : (done ++ pending).Perm (List.range size))
    : let ready := Schedule.readySlots workspace.registry phase processed pending
      let result := Schedule.runBatch action ready processed workspace
      (∀ slot ∈ ready, ∀ target, waits slot target → target ∈ done)
      ∧ result.1 = true
      ∧ holds (done ++ ready) result.2.1 result.2.2 := by
  intro ready
  have taken (slot : Slot) (member : slot ∈ ready) : slot < size ∧ slot ∉ done :=
    pending_of_perm perm (List.mem_of_mem_filter member)
  have distinct := perm.nodup_iff.mpr List.nodup_range
  have fewer : (done ++ ready).Nodup := (List.filter_sublist.append_left done).nodup distinct
  refine ⟨?_, follows.runBatch start fewer fun slot member => (taken slot member).1⟩
  intro slot member
  obtain ⟨inside, fresh⟩ := taken slot member
  exact (follows.ready start inside fresh).mp (List.mem_filter.mp member).2

/-- When no slot is ready, each pending slot waits for a pending one.
Witness: it waits for a slot that is not done.
-/
theorem Follows.idle (follows : Follows phase action size waits holds)
    {done pending : List Slot} {processed : List Reference} (start : holds done processed workspace)
    (perm : (done ++ pending).Perm (List.range size))
    (none : Schedule.readySlots workspace.registry phase processed pending = [])
    : ∀ slot ∈ pending, ∃ target ∈ pending, waits slot target := by
  intro slot member
  obtain ⟨inside, fresh⟩ := pending_of_perm perm member
  have unready : ¬∀ target, waits slot target → target ∈ done := by
    rw [← follows.ready start inside fresh]
    intro ready
    have listed : slot ∈ Schedule.readySlots workspace.registry phase processed pending :=
      List.mem_filter.mpr ⟨member, ready⟩
    rw [none] at listed
    exact List.not_mem_nil listed
  obtain ⟨target, waiting, undone⟩ := not_forall₂.mp unready
  have known := perm.mem_iff.mpr (List.mem_range.mpr (follows.inside waiting))
  exact ⟨target, (List.mem_append.mp known).resolve_left undone, waiting⟩

/-- What a run over pending slots comes to: no call fails, the batches are in order, and whatever is
left waits for something that is left.
-/
structure Orderly (waits : Slot → Slot → Prop)
    (holds : List Slot → List Reference → Workspace σ → Prop) (done : List Slot)
    (result : BatchRun × List Reference × Workspace σ)
    : Prop where
  success : result.1.success = true
  ordered : InOrder waits done result.1.batches
  stuck
    : ∀ slot ∈ result.1.unprocessed, ∃ target ∈ result.1.unprocessed, waits slot target
  final : holds (done ++ result.1.batches.flatten) result.2.1 result.2.2

theorem Follows.runPending (follows : Follows phase action size waits holds)
    (pending : List Slot) (processed : List Reference) (workspace : Workspace σ)
    : ∀ done,
        holds done processed workspace
        → (done ++ pending).Perm (List.range size)
        → Orderly waits holds done
            (Schedule.runPending phase action pending processed workspace) := by
  apply runPending_induction
    (motive := fun pending processed workspace result =>
      ∀ done,
        holds done processed workspace
        → (done ++ pending).Perm (List.range size)
        → Orderly waits holds done result)
  · intro pending processed workspace none done start perm
    exact ⟨rfl, trivial, follows.idle start perm none, by simpa using start⟩
  · rintro pending processed workspace ready rfl _ failed done start perm
    rw [(follows.readySlots start perm).2.1] at failed
    cases failed
  · rintro pending processed workspace ready rest rfl _ _ ih done start perm
    obtain ⟨only, -, kept⟩ := follows.readySlots start perm
    have later := ih _ kept <| by
      rw [List.append_assoc]
      exact ((List.filter_append_perm _ _).append_left done).trans perm
    refine ⟨later.success, ⟨only, later.ordered⟩, later.stuck, ?_⟩
    rw [List.flatten_cons, ← List.append_assoc]
    exact later.final

-----------------------------------------------------------------------------------------
-- Runs over all slots
-----------------------------------------------------------------------------------------

/-- A run succeeds if and only if no slot waits for itself, be it through others. In any case each
batch waits for earlier ones only, and what holds between the calls holds at the end.
Witness: slots that are left wait for others that are left, of which there are finitely many, so
they lead to a cycle.
-/
theorem Follows.run (follows : Follows phase action size waits holds)
    (sized : workspace.registry.size = size) (start : holds [] [] workspace)
    : let result := Schedule.run phase action workspace
      (result.1.success = true ↔ ∀ slot, ¬TransGen waits slot slot)
      ∧ (result.1.success = true
        → ∀ slot, slot < size → ∃ batch ∈ result.1.batches, slot ∈ batch)
      ∧ (∀ k batch,
          result.1.batches[k]? = some batch
          → ∀ slot ∈ batch,
              ∀ target,
                waits slot target → ∃ earlier ∈ result.1.batches.take k, target ∈ earlier)
      ∧ ∃ processed final,
          holds result.1.batches.flatten processed final
          ∧ result.2.registry = final.registry := by
  have initial : ([] ++ workspace.registry.slots).Perm (List.range size) := by
    rw [List.nil_append, Registry.slots, sized]
  have orderly := follows.runPending workspace.registry.slots [] workspace [] start initial
  have perm := run_perm phase action workspace
  have success_iff
      : (Schedule.run phase action workspace).1.success = true
        ↔ (Schedule.run phase action workspace).1.unprocessed = [] := by
    rw [run_success_iff, run_batches, ← runPending_success_iff]
    simp [orderly.success]
  obtain ⟨-, ordered, stuck, final⟩ := orderly
  rw [← run_batches] at ordered final
  rw [← run_unprocessed] at stuck
  have all (succeeded : (Schedule.run phase action workspace).1.success = true) (slot : Slot)
      (inside : slot < size)
      : slot ∈ (Schedule.run phase action workspace).1.batches.flatten := by
    rw [success_iff.mp succeeded, List.append_nil] at perm
    exact perm.mem_iff.mpr (Registry.mem_slots.mpr (sized ▸ inside))
  refine ⟨⟨?_, ?_⟩, ?_, ?_, ?_⟩
  · intro succeeded
    exact ordered.acyclic fun slot target waiting => all succeeded target (follows.inside waiting)
  · intro acyclic
    rw [success_iff, List.eq_nil_iff_forall_not_mem]
    intro slot left
    have bound (point : Slot)
        (member : point ∈ (Schedule.run phase action workspace).1.unprocessed)
        : point < size := by
      rw [← sized]
      exact Registry.mem_slots.mp (perm.mem_iff.mp (List.mem_append_right _ member))
    obtain ⟨hub, -, cycle⟩ := reachesCycle_of_successors bound stuck left
    exact acyclic hub cycle
  · intro succeeded slot inside
    exact List.mem_flatten.mp (all succeeded slot inside)
  · intro k batch formed slot member target waiting
    exact (ordered.earlier formed member waiting).resolve_left List.not_mem_nil
  · refine ⟨_, _, final, ?_⟩
    rw [run_registry, run_batches, runPending_workspace]

end SchemaGraph.Schedule
