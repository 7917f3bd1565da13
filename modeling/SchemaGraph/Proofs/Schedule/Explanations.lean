import SchemaGraph.Proofs.Registry.Cycles
import SchemaGraph.Proofs.Schedule.Blocking

/-! What the report of a deadlock says.
The types that a run leaves are told apart by the references that it has processed, and the cycles
are found in the graph of slots. Where every type owns its canonical reference both views are of the
same types: a report lists the types that are left as well and that its own type waits for, and it
has a cycle just where the type waits for itself. Every type that is left waits for such a one.
-/

namespace SchemaGraph

open Chains Relation

namespace Registry

variable {registry : Registry} {phase : Phase} {slot : Slot} {record : TypeRecord}

/-- The types that the dependencies of a type denote, each once and where it is first declared. -/
def awaited (registry : Registry) (phase : Phase) (record : TypeRecord) : List Slot :=
  ((record.dependenciesOf phase).filterMap registry.locate).eraseDups

/-- The canonical reference of the type in the slot. -/
def primaryAt (registry : Registry) (slot : Slot) : Option Reference :=
  (registry.get? slot).map TypeRecord.primary

def displayNames (registry : Registry) (slots : List Slot) : List String :=
  (slots.filterMap registry.get?).map TypeRecord.displayName

/-- The types that are awaited are those that the type depends on. -/
theorem mem_awaited_iff (found : registry.get? slot = some record) {target : Slot}
    : target ∈ registry.awaited phase record ↔ registry.DependsOn phase slot target := by
  rw [awaited, List.mem_eraseDups, List.mem_filterMap, DependsOn, found]
  simp

/-- Canonical references agree only if they are of one type. -/
theorem CanonicalApart.agrees_iff (apart : registry.CanonicalApart) {other : Slot}
    {reference further : Reference} (here : registry.primaryAt slot = some reference)
    (there : registry.primaryAt other = some further)
    : reference.agrees further = true ↔ slot = other := by
  obtain ⟨owner, foundOwner, rfl⟩ := Option.map_eq_some_iff.mp here
  obtain ⟨record, found, rfl⟩ := Option.map_eq_some_iff.mp there
  constructor
  · exact apart.slot_eq foundOwner found List.mem_cons_self
  · rintro rfl
    cases Option.some.inj (foundOwner.symm.trans found)
    exact Reference.agrees_refl _

/-- Leaving out references that agree with earlier ones leaves each type once.
Witness: induction from the last slot on; canonical references agree only if their slots are one.
-/
theorem CanonicalApart.addAll_filterMap (apart : registry.CanonicalApart) (slots : List Slot)
    : Reference.addAll [] (slots.filterMap registry.primaryAt)
      = slots.eraseDups.filterMap registry.primaryAt := by
  induction slots using List.reverseRecOn with
  | nil => rfl
  | append_singleton slots last ih =>
      rw [List.filterMap_append, eraseDups_concat]
      cases here : registry.primaryAt last with
      | none => split <;> simp [here, ih]
      | some reference =>
          have isIn_iff
              : reference.isIn (slots.eraseDups.filterMap registry.primaryAt) = true
                ↔ last ∈ slots := by
            simp only [Reference.isIn_iff, List.mem_filterMap, List.mem_eraseDups]
            constructor
            · rintro ⟨further, ⟨other, member, there⟩, agrees⟩
              exact (apart.agrees_iff there here).mp agrees ▸ member
            · intro member
              exact ⟨reference, ⟨last, member, here⟩, Reference.agrees_refl reference⟩
          have added
              : Reference.addAll [] (slots.filterMap registry.primaryAt ++ [reference])
                = reference.addTo (slots.eraseDups.filterMap registry.primaryAt) := by
            rw [← ih, Reference.addAll, List.foldl_concat]
            rfl
          rw [List.filterMap_cons_some here, List.filterMap_nil, added, Reference.addTo]
          by_cases old : last ∈ slots
          · rw [if_pos (isIn_iff.mpr old), if_pos old]
          · rw [if_neg (isIn_iff.not.mpr old), if_neg old, List.filterMap_append,
              List.filterMap_cons_some here, List.filterMap_nil]

end Registry

namespace Schedule

open Registry

variable {σ : Type} {registry : Registry} {phase : Phase} {action : Action σ}
  {workspace : Workspace σ} {slot : Slot} {record : TypeRecord} {stuck : List Slot}
  {processed : List Reference}

-----------------------------------------------------------------------------------------
-- What is left, by references and by slots
-----------------------------------------------------------------------------------------

/-- The processed references tell the types that are left from the others. -/
def TellsApart (registry : Registry) (processed : List Reference) (left : List Slot) : Prop :=
  ∀ ⦃slot record⦄,
    registry.get? slot = some record → (record.primary.isIn processed = true ↔ slot ∉ left)

/-- Before the first batch, no reference is processed and all slots are pending. -/
theorem tellsApart_slots (registry : Registry) : TellsApart registry [] registry.slots := by
  intro slot record found
  simp [Reference.isIn, mem_slots, lt_size_of_get? found]

/-- A batch takes its types from those that are left, and adds their references. -/
theorem TellsApart.next {pending : List Slot} (tells : TellsApart registry processed pending)
    (apart : registry.CanonicalApart)
    : TellsApart registry
        (markAll registry (readySlots registry phase processed pending) processed)
        (waitingSlots registry phase processed pending) := by
  intro slot record found
  rw [isIn_markAll_iff apart found, tells found, readySlots, waitingSlots, List.mem_filter,
    List.mem_filter]
  by_cases member : slot ∈ pending <;> simp [member]

/-- Every batch keeps the processed references apart from the pending slots.
Witness: the canonical references of its slots are those that are added, and no two of them agree.
-/
theorem Calm.runPending_tellsApart (calm : Calm action) (apart : registry.CanonicalApart)
    (pending : List Slot) (processed : List Reference) (workspace : Workspace σ)
    : workspace.registry = registry
      → TellsApart registry processed pending
      → let result := runPending phase action pending processed workspace
        TellsApart registry result.2.1 result.1.unprocessed := by
  apply runPending_induction
    (motive := fun pending processed workspace result =>
      workspace.registry = registry
      → TellsApart registry processed pending
      → TellsApart registry result.2.1 result.1.unprocessed)
  · exact fun _ _ _ _ _ tells => tells
  · intro pending processed workspace ready _ _ failed
    rw [calm.runBatch_succeeded] at failed
    cases failed
  · rintro pending processed workspace ready rest rfl _ _ ih rfl tells
    rw [calm.runBatch_processed, calm.runBatch_registry] at ih
    exact ih rfl (tells.next apart)

-----------------------------------------------------------------------------------------
-- What a type waits for
-----------------------------------------------------------------------------------------

/-- A reference is listed by the name of its type. -/
theorem describeReference_primary (owned : registry.CanonicalOwned)
    (found : registry.get? slot = some record)
    : describeReference registry record.primary = record.displayName := by
  simp [describeReference, owned.resolve_primary found]

/-- The canonical references of the dependencies are those of the types that are awaited. -/
theorem DependenciesResolve.canonicalAll_eq (resolve : DependenciesResolve registry phase)
    (apart : registry.CanonicalApart) (stored : record ∈ registry.records)
    : registry.canonicalAll (record.dependenciesOf phase)
      = (registry.awaited phase record).filterMap registry.primaryAt := by
  rw [awaited, ← apart.addAll_filterMap, List.filterMap_filterMap, canonicalAll,
    ← List.filterMap_eq_map]
  congr 1
  refine List.filterMap_congr fun reference declared => ?_
  obtain ⟨owner, resolved⟩ :=
    Option.isSome_iff_exists.mp (resolve record stored reference declared)
  have named : (registry.locate reference).bind registry.primaryAt = some owner.primary := by
    obtain ⟨target, leads, here⟩ := Option.bind_eq_some_iff.mp resolved
    simp [leads, primaryAt, here]
  rw [named, Function.comp_apply, canonicalOrSelf_of_some resolved]

/-- The types in a list that are left are those whose canonical references are not processed.
Witness: induction on the targets, each of which is left or has its reference among the processed
ones.
-/
theorem TellsApart.map_describeReference (tells : TellsApart registry processed stuck)
    (owned : registry.CanonicalOwned) (targets : List Slot)
    : ((targets.filterMap registry.primaryAt).filter fun reference =>
          !reference.isIn processed).map (describeReference registry)
      = displayNames registry (targets.filter fun target => target ∈ stuck) := by
  induction targets with
  | nil => rfl
  | cons target rest ih =>
      cases found : registry.get? target with
      | none =>
          have nowhere : registry.primaryAt target = none := by simp [primaryAt, found]
          rw [List.filterMap_cons_none nowhere, ih]
          by_cases left : target ∈ stuck <;> simp [displayNames, left, found]
      | some record =>
          have here : registry.primaryAt target = some record.primary := by simp [primaryAt, found]
          rw [List.filterMap_cons_some here]
          by_cases left : target ∈ stuck
          · have unseen : record.primary.isIn processed = false :=
              Bool.eq_false_iff.mpr fun seen => (tells found).mp seen left
            simp only [displayNames] at ih
            simp [displayNames, left, found, unseen, ih, describeReference_primary owned found]
          · have seen := (tells found).mpr left
            simp [left, seen, ih]

-----------------------------------------------------------------------------------------
-- Reports
-----------------------------------------------------------------------------------------

/-- The report of a stuck type lists what it waits for. -/
theorem detail?_dependencies (name : String) (phase : Phase) (missing : List String)
    (cycle : Option (List String))
    : (Problem.stuck name phase missing cycle).toError.detail? "dependencies"
      = some (String.intercalate ", " missing) := by
  cases cycle <;> rfl

/-- The report of a stuck type lists the cycle that it is on, if it is on one. -/
theorem detail?_cycle (name : String) (phase : Phase) (missing : List String)
    (cycle : Option (List String))
    : (Problem.stuck name phase missing cycle).toError.detail? "cycle"
      = cycle.map (String.intercalate " -> ") := by
  cases cycle <;> rfl

/-- The stuck types that a type depends on, each once and where it is first declared. -/
def listed (registry : Registry) (phase : Phase) (stuck : List Slot) (record : TypeRecord)
    : List Slot :=
  (registry.awaited phase record).filter fun target => target ∈ stuck

/-- The type in the slot lists the one in the target. -/
def Lists (registry : Registry) (phase : Phase) (stuck : List Slot) (slot target : Slot)
    : Prop :=
  ∃ record, registry.get? slot = some record ∧ target ∈ listed registry phase stuck record

/-- A type lists the stuck types that it depends on. -/
theorem mem_listed_iff (found : registry.get? slot = some record) {target : Slot}
    : target ∈ listed registry phase stuck record
      ↔ registry.DependsOn phase slot target ∧ target ∈ stuck := by
  rw [listed, List.mem_filter, mem_awaited_iff found, decide_eq_true_eq]

/-- The error names the stuck types that the type in the slot depends on. Just where the type is on
a cycle of dependencies, the error also names the types that this one reaches and is reached by, in
slot order, and they are all stuck.
-/
structure Explains (registry : Registry) (phase : Phase) (stuck : List Slot) (slot : Slot)
    (error : SchemaError) (record : TypeRecord)
    : Prop where
  found : registry.get? slot = some record
  report
    : ∃ cycle,
        error
        = (Problem.stuck record.displayName phase
            (displayNames registry (listed registry phase stuck record)) cycle).toError
  dependencies
    : error.detail? "dependencies"
      = some
          (String.intercalate ", "
            (displayNames registry (listed registry phase stuck record)))
  some_listed : listed registry phase stuck record ≠ []
  listed_once : (listed registry phase stuck record).Nodup
  listed_iff
    : ∀ target,
        target ∈ listed registry phase stuck record
        ↔ registry.DependsOn phase slot target ∧ target ∈ stuck
  cycle
    : TransGen (registry.DependsOn phase) slot slot
      → ∃ members,
          error.detail? "cycle"
            = some (String.intercalate " -> " (displayNames registry members))
          ∧ members.Pairwise (· < ·)
          ∧ (∀ other,
              other ∈ members
              ↔ TransGen (registry.DependsOn phase) slot other
                ∧ TransGen (registry.DependsOn phase) other slot)
          ∧ ∀ other ∈ members, other ∈ stuck
  no_cycle
    : ¬TransGen (registry.DependsOn phase) slot slot
      → error.detail? "cycle" = none

/-- The graph that the reports are made from is the one of the dependencies. -/
theorem links_dependencies (registry : Registry) (phase : Phase)
    : (DependencyGraph.build registry phase registry.locate).Links
      = registry.DependsOn phase := by
  ext slot target
  exact DependencyGraph.links_build_iff

/-- Where all dependencies resolve, they lead to types that there are. -/
theorem DependenciesResolve.inside (resolve : DependenciesResolve registry phase)
    : (DependencyGraph.build registry phase registry.locate).Inside := by
  intro slot target link
  rw [links_dependencies] at link
  have ⟨_, found, _⟩ := link
  exact ⟨lt_size_of_get? found, resolve.target_lt link⟩

/-- The types that are left when no batch can be formed: those from which a cycle can be reached.
They are told apart by what was processed.
-/
structure Deadlocked (registry : Registry) (phase : Phase) (processed : List Reference)
    (stuck : List Slot)
    : Prop where
  tells : TellsApart registry processed stuck
  mem_iff : ∀ slot, slot ∈ stuck ↔ ReachesCycle (registry.DependsOn phase) slot

/-- Each stuck type lists one, from which the same cycle can be reached. -/
theorem Deadlocked.listed_ne_nil (deadlocked : Deadlocked registry phase processed stuck)
    (found : registry.get? slot = some record) (member : slot ∈ stuck)
    : listed registry phase stuck record ≠ [] := by
  obtain ⟨hub, path, -⟩ := ((deadlocked.mem_iff slot).mp member).transGen
  obtain ⟨next, ⟨depends, cyclic⟩, -⟩ := TransGen.head'_iff.mp path
  have left := (deadlocked.mem_iff next).mpr cyclic
  exact List.ne_nil_of_mem ((mem_listed_iff found).mpr ⟨depends, left⟩)

/-- From a stuck type, a way along the lists of stuck types leads to one on a cycle. -/
theorem Deadlocked.lists (deadlocked : Deadlocked registry phase processed stuck)
    (member : slot ∈ stuck)
    : ∃ hub ∈ stuck,
        TransGen (Lists registry phase stuck) slot hub
        ∧ TransGen (registry.DependsOn phase) hub hub := by
  obtain ⟨hub, path, cycle⟩ := ((deadlocked.mem_iff slot).mp member).transGen
  refine ⟨hub, (deadlocked.mem_iff hub).mpr ⟨hub, .refl, cycle⟩, ?_, cycle⟩
  refine TransGen.mono ?_ _ _ path
  rintro point target ⟨depends, cyclic⟩
  have ⟨record, found, _⟩ := depends
  have left := (deadlocked.mem_iff target).mpr cyclic
  exact ⟨record, found, (mem_listed_iff found).mpr ⟨depends, left⟩⟩

/-- What a stuck type is told to wait for are the names of the stuck types that it depends on. -/
theorem Deadlocked.missing_eq (deadlocked : Deadlocked registry phase processed stuck)
    (owned : registry.CanonicalOwned) (apart : registry.CanonicalApart)
    (resolve : DependenciesResolve registry phase) (stored : record ∈ registry.records)
    : (missing registry phase processed record).map (describeReference registry)
      = displayNames registry (listed registry phase stuck record) := by
  rw [missing, resolve.canonicalAll_eq apart stored, deadlocked.tells.map_describeReference owned]
  rfl

/-- The report of a stuck type explains it, by the names that it waits for and the cycle it is on.
Witness: the graph of the dependencies links just the slots that depend on one another.
-/
theorem Deadlocked.explains (deadlocked : Deadlocked registry phase processed stuck)
    (owned : registry.CanonicalOwned) (apart : registry.CanonicalApart)
    (resolve : DependenciesResolve registry phase) (found : registry.get? slot = some record)
    (member : slot ∈ stuck)
    : Explains registry phase stuck slot
        (stuckProblem registry phase processed
          (DependencyGraph.build registry phase registry.locate) record slot).toError
        record := by
  have names := deadlocked.missing_eq owned apart resolve (mem_records_of_get? found)
  rw [stuckProblem, names]
  refine ⟨found, ⟨_, rfl⟩, detail?_dependencies _ _ _ _,
    deadlocked.listed_ne_nil found member,
    (nodup_eraseDups _).filter _, fun _ => mem_listed_iff found, ?_, ?_⟩
  · intro round
    rw [← links_dependencies] at round
    obtain ⟨members, through⟩ :=
      Option.ne_none_iff_exists'.mp
        ((DependencyGraph.cycleOf_eq_none_iff resolve.inside).not.mpr (not_not.mpr round))
    obtain ⟨-, ascending, mem_iff⟩ :=
      (DependencyGraph.cycleOf_eq_some_iff resolve.inside).mp through
    simp only [DependencyGraph.BothWays, links_dependencies] at mem_iff
    refine ⟨members, ?_, ascending, mem_iff, ?_⟩
    · rw [detail?_cycle, through]
      rfl
    · intro other inCycle
      obtain ⟨there, back⟩ := (mem_iff other).mp inCycle
      exact (deadlocked.mem_iff other).mpr ⟨other, .refl, back.trans there⟩
  · intro noRound
    rw [← links_dependencies] at noRound
    rw [detail?_cycle, (DependencyGraph.cycleOf_eq_none_iff resolve.inside).mpr noRound]
    rfl

-----------------------------------------------------------------------------------------
-- Runs
-----------------------------------------------------------------------------------------

/-- Each item of one list is paired with one of the other. -/
theorem exists_mem_zip_of_forall₂ {α β : Type} {rel : α → β → Prop} {left : List α}
    {right : List β} (related : List.Forall₂ rel left right) {item : α} (member : item ∈ left)
    : ∃ other, (item, other) ∈ left.zip right ∧ rel item other := by
  induction related with
  | nil => exact absurd member List.not_mem_nil
  | cons here _ ih =>
      rcases List.mem_cons.mp member with rfl | behind
      · exact ⟨_, List.mem_cons_self, here⟩
      · obtain ⟨other, pair, there⟩ := ih behind
        exact ⟨other, List.mem_cons_of_mem _ pair, there⟩

/-- A run of calm calls ends in a deadlock of the slots that remain, or with none of them. -/
theorem Calm.deadlocked (calm : Calm action) (apart : workspace.registry.CanonicalApart)
    (resolve : DependenciesResolve workspace.registry phase)
    : Deadlocked workspace.registry phase (processedBy phase action workspace)
        (run phase action workspace).1.unprocessed := by
  rw [run_unprocessed]
  refine ⟨?_, ?_⟩
  · exact calm.runPending_tellsApart apart _ [] workspace rfl (tellsApart_slots workspace.registry)
  · exact (calm.runPending_byLevel apart resolve _ [] workspace rfl 0
      (levelled_slots workspace.registry phase)).mem_unprocessed_iff

/-- Where each type is found by its canonical reference, no type carries the one of another, every
dependency denotes a type, and the action always succeeds and leaves the registry alone: a run adds
one error for each type that is left, in the same order, and nothing else. The error explains why
the type is left; and from each of these types, going on to types that are listed leads to one whose
error has a cycle.
Witness: the run ends in a deadlock, in which each slot that is left leads to a cycle among them.
-/
theorem run_explains (calm : Calm action) (owned : workspace.registry.CanonicalOwned)
    (apart : workspace.registry.CanonicalApart)
    (resolve : DependenciesResolve workspace.registry phase)
    : let outcome := run phase action workspace
      let stuck := outcome.1.unprocessed
      (outcome.1.success = true ↔ stuck = [])
      ∧ ∃ reports,
          outcome.2.errors
            = (afterCalls action outcome.1.batches.flatten workspace).errors ++ reports
          ∧ List.Forall₂
              (fun slot error =>
                ∃ record, Explains workspace.registry phase stuck slot error record)
              stuck reports
          ∧ ∀ slot ∈ stuck,
              ∃ hub error,
                TransGen (Lists workspace.registry phase stuck) slot hub
                ∧ (hub, error) ∈ stuck.zip reports
                ∧ (error.detail? "cycle").isSome = true := by
  intro outcome stuck
  have deadlocked := calm.deadlocked apart resolve
  have succeeded : EachCall action (Succeeds action) outcome.1.batches.flatten workspace :=
    .of_forall (fun slot workspace => (calm slot workspace).1) _ _
  have registry : outcome.2.registry = workspace.registry :=
    (run_registry phase action workspace).trans (calm.afterCalls_registry _ workspace)
  let reports := deadlockErrors workspace.registry phase (processedBy phase action workspace) stuck
  have explained
      : List.Forall₂
          (fun slot error => ∃ record, Explains workspace.registry phase stuck slot error record)
          stuck reports := by
    refine forall₂_deadlockErrors fun slot member => ?_
    have inside := lt_size_of_reachesCycle ((deadlocked.mem_iff slot).mp member)
    obtain ⟨record, found⟩ := exists_get?_of_lt inside
    exact ⟨record, found, record, deadlocked.explains owned apart resolve found member⟩
  refine ⟨?_, reports, ?_, explained, ?_⟩
  · rw [run_success_iff]
    exact and_iff_right succeeded
  · rw [run_errors_of_succeeded succeeded, registry]
  · intro slot member
    obtain ⟨hub, inStuck, path, round⟩ := deadlocked.lists member
    obtain ⟨error, pair, record, explains⟩ := exists_mem_zip_of_forall₂ explained inStuck
    obtain ⟨members, text, -⟩ := explains.cycle round
    exact ⟨hub, error, path, pair, by rw [text]; rfl⟩

/-- Two types that wait for each other, one that waits for both of them and for a free one, and the
free one.
-/
def stalled : Registry :=
  Registry.empty.applyAll
    [.register (DependencyGraph.linkedType "First" [.schema ⟨"Former"⟩] ["Second"]),
      .register (DependencyGraph.linkedType "Second" [] ["First"]),
      .register
        (DependencyGraph.linkedType "Third" [] ["Fourth", "Second", "Former", "First", "Second"]),
      .register (DependencyGraph.linkedType "Fourth" [] [])]

theorem stalled_explained
    : let outcome := run .completed doNothing ⟨stalled, [], ()⟩
      Calm doNothing
      ∧ stalled.CanonicalOwned
      ∧ stalled.CanonicalApart
      ∧ DependenciesResolve stalled .completed
      ∧ outcome.1.unprocessed = [0, 1, 2]
      ∧ ∃ first second third,
          outcome.2.errors = [first, second, third]
          ∧ third.detail? "dependencies" = some (String.intercalate ", " ["Second", "First"])
          ∧ ∃ hub error,
              TransGen (Lists stalled .completed [0, 1, 2]) 2 hub
              ∧ (hub, error) ∈ [(0, first), (1, second), (2, third)]
              ∧ (error.detail? "cycle").isSome = true := by
  intro outcome
  have calm : Calm doNothing := fun _ _ => ⟨rfl, rfl⟩
  have owned : stalled.CanonicalOwned := by decide +kernel
  have apart : stalled.CanonicalApart := by decide +kernel
  have resolve : DependenciesResolve stalled .completed := by
    unfold DependenciesResolve
    decide +kernel
  have formed : (run .completed doNothing ⟨stalled, [], ()⟩).1.batches = [[3]] := by
    rw [run_batches]
    cbv
  have left : (run .completed doNothing ⟨stalled, [], ()⟩).1.unprocessed = [0, 1, 2] := by
    rw [run_unprocessed]
    cbv
  have names
      : (stalled.get? 2).map
          (fun record => displayNames stalled (listed stalled .completed [0, 1, 2] record))
        = some ["Second", "First"] := by
    decide +kernel
  have explanation := by
    refine @run_explains Unit .completed doNothing ⟨stalled, [], ()⟩ calm ?_ ?_ ?_ <;> dsimp only
    exacts [owned, apart, resolve]
  simp only [formed, left] at explanation
  obtain ⟨-, reports, errors, explained, lists⟩ := explanation
  rcases explained with - | ⟨-, - | ⟨-, - | ⟨⟨record, explains⟩, - | -⟩⟩⟩
  have third : 2 ∈ [0, 1, 2] := by decide
  refine ⟨calm, owned, apart, resolve, left, _, _, _, errors, ?_, lists 2 third⟩
  rw [explains.found, Option.map_some] at names
  rw [explains.dependencies, Option.some.inj names]

end Schedule
end SchemaGraph
