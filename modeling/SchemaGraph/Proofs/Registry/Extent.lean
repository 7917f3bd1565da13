import SchemaGraph.Proofs.Discovery.Registrations
import SchemaGraph.Proofs.Registry.Cycles
import SchemaGraph.Proofs.Registry.Standing

/-! How many types a registry holds.
A registration may put a type behind all others, and loses none. In a registry that operations have
built, storing a type again never does so, even where other types carry its references, too: what a
stored type is found by stays in the indexes, wherever it leads.
-/

namespace SchemaGraph.Registry

variable {registry before after : Registry} {slot : Slot} {record new : TypeRecord}

/-- Registering takes no slot away. -/
theorem size_le_register (registry : Registry) (record : TypeRecord)
    : registry.size ≤ (registry.register record).1.size := by
  unfold register
  split <;> simp [size, records_index]

/-- A type that is known takes no further slot. -/
theorem size_register_of_some (leads : registry.findKey record.primary = some slot)
    : (registry.register record).1.size = registry.size := by
  rw [register_of_some leads]
  simp [size, records_index]

/-- A type that is new takes one. -/
theorem size_register_of_none (unknown : registry.findKey record.primary = none)
    : (registry.register record).1.size = registry.size + 1 := by
  rw [register_of_none unknown]
  simp [size, records_index]

-----------------------------------------------------------------------------------------
-- Slots that hold a type
-----------------------------------------------------------------------------------------

/-- No look-up leads beyond the last slot, no name is held beyond it, and neither do dependencies or
their cycles lead there. A type is stored in a slot that there is afterwards.
-/
structure LeadsInside (registry : Registry) : Prop where
  findKey
    : ∀ reference slot,
        registry.findKey reference = some slot → slot < registry.size
  find : ∀ reference slot, registry.find reference = some slot → slot < registry.size
  findRuntime
    : ∀ type position scope slot,
        registry.findRuntime type position scope = some slot → slot < registry.size
  findByName : ∀ name slot, registry.findByName name = some slot → slot < registry.size
  findDirective : ∀ name slot, registry.findDirective name = some slot → slot < registry.size
  locate : ∀ reference slot, registry.locate reference = some slot → slot < registry.size
  holder : ∀ slot holder, registry.registerName slot = .error holder → holder < registry.size
  stored : ∀ record, (registry.register record).2 < (registry.register record).1.size
  edges
    : ∀ phase,
        ∀ edge ∈ (DependencyGraph.build registry phase registry.locate).edges,
          edge.1 < registry.size ∧ edge.2 < registry.size
  cycles
    : ∀ phase slot cycle,
        (DependencyGraph.build registry phase registry.locate).cycleOf slot = some cycle
        → ∀ other ∈ cycle, other < registry.size

/-- The holder of a name is a type of the registry. -/
theorem Bounded.holder_lt (bounded : registry.Bounded) {holder : Slot}
    (taken : registry.registerName slot = .error holder)
    : holder < registry.size := by
  obtain ⟨key, -, held, -⟩ := Registry.exists_key_of_error taken
  exact bounded.byName (key, holder) (Entries.mem_of_get? held)

/-- A type that is registered is in one of the slots that there are then. -/
theorem Bounded.register_lt (bounded : registry.Bounded) (record : TypeRecord)
    : (registry.register record).2 < (registry.register record).1.size := by
  cases leads : registry.findKey record.primary with
  | some slot =>
      rw [size_register_of_some leads, register_of_some leads]
      exact bounded.findKey_lt leads
  | none =>
      rw [size_register_of_none leads, register_of_none leads]
      exact Nat.lt_succ_self _

/-- Both ends of a dependency are in slots that there are. -/
theorem Bounded.edge_lt (bounded : registry.Bounded) (phase : Phase) {edge : Slot × Slot}
    (member : edge ∈ (DependencyGraph.build registry phase registry.locate).edges)
    : edge.1 < registry.size ∧ edge.2 < registry.size :=
  DependencyGraph.inside_build (fun _ _ leads => bounded.locate_lt leads) member

/-- All members of a cycle are types of the graph. -/
theorem cycleOf_lt {graph : DependencyGraph} {cycle : List Slot}
    (found : graph.cycleOf slot = some cycle)
    : ∀ other ∈ cycle, other < graph.size := by
  intro other member
  unfold DependencyGraph.cycleOf at found
  dsimp only at found
  split at found
  · cases found
    exact List.mem_range.mp (List.mem_filter.mp member).1
  · cases found

/-- Bounded indexes lead inside. -/
theorem Bounded.leadsInside (bounded : registry.Bounded) : registry.LeadsInside where
  findKey _ _ := bounded.findKey_lt
  find _ _ := bounded.find_lt
  findRuntime _ _ _ _ := bounded.findRuntime_lt
  findByName _ _ := bounded.findByName_lt
  findDirective _ _ := bounded.findByName_lt
  locate _ _ := bounded.locate_lt
  holder _ _ := bounded.holder_lt
  stored := bounded.register_lt
  edges phase _ := bounded.edge_lt phase
  cycles _ _ _ := cycleOf_lt

-----------------------------------------------------------------------------------------
-- Registries that only discovery makes larger
-----------------------------------------------------------------------------------------

/-- Operations have built the registry, and the first reference of every type is a key. -/
structure Firm (registry : Registry) : Prop where
  built : registry.IsBuilt
  keyed : ∀ record ∈ registry.records, isKey record.primary = true

/-- An operation on what operations have built is one more. -/
theorem IsBuilt.apply (built : registry.IsBuilt) (change : Change)
    : (registry.apply change).IsBuilt := by
  obtain ⟨changes, rfl⟩ := built
  exact ⟨changes ++ [change], by simp [applyAll]⟩

theorem isBuilt_empty : empty.IsBuilt :=
  ⟨[], rfl⟩

/-- What operations have built from the same types is firm. -/
theorem Firm.of_records (firm : before.Firm) (built : after.IsBuilt)
    (same : after.records = before.records)
    : after.Firm where
  built := built
  keyed := same ▸ firm.keyed

/-- What a stored type is found by leads to some slot. -/
theorem Firm.exists_findKey_primary (firm : registry.Firm)
    (found : registry.get? slot = some record)
    : ∃ holder, registry.findKey record.primary = some holder :=
  Option.isSome_iff_exists.mp
    ((firm.built.indexesAll found).keys record.primary List.mem_cons_self
      (firm.keyed record (mem_records_of_get? found)))

/-- Storing a type again makes the registry no larger, wherever it is stored. -/
theorem Firm.store (firm : registry.Firm) (found : registry.get? slot = some record)
    (primary : new.primary = record.primary)
    : (registry.register new).1.Firm ∧ (registry.register new).1.size = registry.size := by
  obtain ⟨holder, leads⟩ := firm.exists_findKey_primary found
  rw [← primary] at leads
  have stores := stores_register_of_some leads (firm.built.bounded.findKey_lt leads)
  refine ⟨⟨firm.built.apply (.register new), ?_⟩, size_register_of_some leads⟩
  exact stores.forall_records firm.keyed
    (primary ▸ firm.keyed record (mem_records_of_get? found))

/-- A new type comes behind all others. -/
theorem Firm.register_new (firm : registry.Firm) (keyed : isKey record.primary = true)
    (unknown : registry.findKey record.primary = none)
    : (registry.register record).1.Firm
      ∧ (registry.register record).1.size = registry.size + 1 := by
  refine ⟨⟨firm.built.apply (.register record), ?_⟩, size_register_of_none unknown⟩
  exact (stores_register_of_none unknown).forall_records firm.keyed keyed

/-- Registering a name leaves the registry firm, with as many slots. -/
theorem Firm.registerName {named : Registry} (firm : registry.Firm)
    (done : registry.registerName slot = .ok named)
    : named.Firm ∧ named.size = registry.size := by
  have built : (registry.apply (.registerName slot)).IsBuilt := firm.built.apply _
  simp only [Registry.apply, done] at built
  have same : named.records = registry.records := by
    rcases registerName_cases done with rfl | ⟨-, -, -, -, -, rfl⟩ <;> rfl
  exact ⟨firm.of_records built same, congrArg List.length same⟩

/-- One change keeps the registry as large as it is. -/
theorem Firm.revision (firm : before.Firm) (revision : Revision before after)
    : after.Firm ∧ after.size = before.size := by
  cases revision with
  | edit edit =>
      cases edit with
      | store found same =>
          exact firm.store found (TypeRecord.primary_congr (references_congr same))
      | registerName done => exact firm.registerName done
  | rebuild =>
      exact ⟨firm.of_records (firm.built.apply .rebuild) (records_rebuild before),
        size_rebuild before⟩

/-- So does one revision after the other, by induction. -/
theorem Firm.revisions (firm : before.Firm) (revisions : Revisions before after)
    : after.Firm ∧ after.size = before.size := by
  induction revisions with
  | refl => exact ⟨firm, rfl⟩
  | tail _ revision ih =>
      obtain ⟨further, size⟩ := ih.1.revision revision
      exact ⟨further, size.trans ih.2⟩

-----------------------------------------------------------------------------------------
-- Discovery
-----------------------------------------------------------------------------------------

/-- Whatever the catalogue is, operations have built what it is discovered into. -/
theorem firm_discover (catalog : Catalog) (seeds : List Reference)
    : (empty.discover catalog seeds).registry.Firm where
  built :=
    discoverFrom_induction (motive := IsBuilt) (fun _ _ _ built => built.apply (.register _))
      (fun _ _ built => built.apply (.register _)) [] seeds isBuilt_empty
  keyed record member := by
    obtain ⟨slot, found⟩ := exists_get?_of_mem member
    exact ((gathered_discover catalog seeds).found found).1

end SchemaGraph.Registry
