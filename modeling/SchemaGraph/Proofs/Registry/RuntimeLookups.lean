import SchemaGraph.Proofs.Registry.Handles
import SchemaGraph.Proofs.Registry.Permanence

/-! What a host type leads to once the indexes are rebuilt.
The index of host types has an entry for each reference to one and for each named type that one
backs, added slot by slot. So a look-up in it can be told from the types alone: it leads to the
first type that answers to the host type in the position and the scope.
-/

namespace SchemaGraph

open Registry

variable {record : TypeRecord} {type : RuntimeType} {position : Position} {scope : Option String}

-----------------------------------------------------------------------------------------
-- Types that answer to a host type
-----------------------------------------------------------------------------------------

/-- The position that a reference of the type stands for. Without one, it is that of the kind. -/
def TypeRecord.positionOf (record : TypeRecord) (reference : Reference) : Position :=
  if reference.position = .any then record.kind.position else reference.position

/-- The type has a reference to the host type in the scope, for a compatible position. -/
def TypeRecord.RefersTo (record : TypeRecord) (type : RuntimeType) (position : Position)
    (scope : Option String) : Prop :=
  ∃ reference ∈ record.references,
    reference.target = .runtime type
    ∧ reference.scope = scope
    ∧ (record.positionOf reference).compatible position = true

/-- The type is a named one that the host type backs. It was discovered in the scope, and its kind
lives in a compatible position.
-/
structure TypeRecord.BackedBy (record : TypeRecord) (type : RuntimeType) (position : Position)
    (scope : Option String) : Prop where
  named : record.isNamedType = true
  backed : record.runtime = type
  concrete : type.isObject = false
  discovered : record.discovered.scope = scope
  compatible : record.kind.position.compatible position = true

def TypeRecord.AnswersTo (record : TypeRecord) (type : RuntimeType) (position : Position)
    (scope : Option String) : Prop :=
  record.RefersTo type position scope ∨ record.BackedBy type position scope

namespace Registry

theorem agrees_runtime_iff {entry : RuntimeEntry}
    : entry.reference.agrees ⟨.runtime type, position, scope⟩ = true
      ↔ entry.runtime = type
        ∧ entry.scope = scope
        ∧ entry.position.compatible position = true := by
  rw [Reference.agrees_iff]
  simp only [RuntimeEntry.reference, Target.runtime.injEq]
  constructor
  · rintro ⟨fits, same, points⟩
    exact ⟨points, same, fits⟩
  · rintro ⟨points, same, fits⟩
    exact ⟨fits, same, points⟩

/-- A type has an entry for each reference to a host type, and one for its own. -/
theorem mem_runtimeEntries_iff {slot : Slot} {entry : RuntimeEntry}
    : entry ∈ runtimeEntries slot record
      ↔ (∃ reference ∈ record.references,
          reference.target = .runtime entry.runtime
          ∧ entry = ⟨entry.runtime, record.positionOf reference, reference.scope, slot⟩)
        ∨ (record.isNamedType = true
          ∧ record.runtime.isObject = false
          ∧ entry = ⟨record.runtime, record.kind.position, record.discovered.scope, slot⟩) := by
  have made (reference : Reference)
      : entryFor slot record.kind reference = some entry
        ↔ reference.target = .runtime entry.runtime
          ∧ entry = ⟨entry.runtime, record.positionOf reference, reference.scope, slot⟩ := by
    unfold entryFor TypeRecord.positionOf
    cases reference.target with
    | runtime type =>
        constructor
        · intro same
          cases Option.some.inj same
          exact ⟨rfl, rfl⟩
        · rintro ⟨target, same⟩
          rw [same, Target.runtime.inj target]
    | _ => simp
  rw [runtimeEntries, List.mem_append, List.mem_filterMap]
  simp only [made, List.mem_ite_nil_right, List.mem_singleton, Bool.and_eq_true, Bool.not_eq_true',
    and_assoc]

/-- A host type agrees with a handle of a type if the type answers to it.
Witness: the handles for host types are what the type is entered under.
-/
theorem isIn_handles_iff
    : Reference.isIn ⟨.runtime type, position, scope⟩ record.handles = true
      ↔ record.AnswersTo type position scope := by
  constructor
  · intro holds
    obtain ⟨handle, member, agrees⟩ := Reference.isIn_iff.mp holds
    obtain ⟨entry, listed, rfl⟩ := exists_entry_of_mem_handles 0 member (isKey_of_agrees agrees)
    obtain ⟨rfl, rfl, fits⟩ := agrees_runtime_iff.mp agrees
    rcases mem_runtimeEntries_iff.mp listed with ⟨reference, carried, target, same⟩ | own
    · rw [same] at fits
      exact .inl ⟨reference, carried, target, (congrArg RuntimeEntry.scope same).symm, fits⟩
    · obtain ⟨named, concrete, rfl⟩ := own
      exact .inr ⟨named, rfl, concrete, rfl, fits⟩
  · intro answers
    suffices entered : ∃ entry ∈ runtimeEntries 0 record,
        entry.reference.agrees ⟨.runtime type, position, scope⟩ = true by
      obtain ⟨entry, listed, agrees⟩ := entered
      exact Reference.isIn_iff.mpr ⟨entry.reference, mem_handles_of_entry listed, agrees⟩
    rcases answers with ⟨reference, carried, target, same, fits⟩ | own
    · exact ⟨⟨type, record.positionOf reference, reference.scope, 0⟩,
        mem_runtimeEntries_iff.mpr (.inl ⟨reference, carried, target, rfl⟩),
        agrees_runtime_iff.mpr ⟨rfl, same, fits⟩⟩
    · obtain ⟨named, rfl, concrete, same, fits⟩ := own
      exact ⟨⟨record.runtime, record.kind.position, record.discovered.scope, 0⟩,
        mem_runtimeEntries_iff.mpr (.inr ⟨named, concrete, rfl⟩),
        agrees_runtime_iff.mpr ⟨rfl, same, fits⟩⟩

-----------------------------------------------------------------------------------------
-- Look-ups
-----------------------------------------------------------------------------------------

/-- In rebuilt indexes a host type leads to the lowest slot whose type answers to it in the position
and the scope, and nowhere if no type does.
Witness: the entries are made in the order of the slots, and the first one that agrees wins.
-/
theorem findRuntime_rebuild (registry : Registry) (type : RuntimeType) (position : Position)
    (scope : Option String)
    : let rebuilt := registry.rebuild
      (∀ slot,
        rebuilt.findRuntime type position scope = some slot
        ↔ (∃ record, rebuilt.get? slot = some record ∧ record.AnswersTo type position scope)
          ∧ ∀ lower record,
              lower < slot
              → rebuilt.get? lower = some record
              → ¬record.AnswersTo type position scope)
      ∧ (rebuilt.findRuntime type position scope = none
        ↔ ∀ record ∈ rebuilt.records, ¬record.AnswersTo type position scope) := by
  intro rebuilt
  have first
      : rebuilt.findRuntime type position scope
        = (rebuilt.records.zipIdx.find? fun entry =>
            Reference.isIn ⟨.runtime type, position, scope⟩ entry.1.handles).map Prod.snd := by
    rw [show rebuilt.records = registry.records from registry.records_rebuild]
    exact @find_rebuild_of_not_isKey registry ⟨.runtime type, position, scope⟩ rfl
  simp only [first, find?_zipIdx_eq_some_iff, find?_zipIdx_eq_none_iff, ← isIn_handles_iff,
    Bool.not_eq_true]
  refine ⟨fun slot => Iff.rfl, ?_⟩
  simp only [List.mem_iff_getElem?, forall_exists_index]
  exact forall_comm

-- An alias without a position is for the position of the kind, and a scalar lives in both.
example
    : let host : RuntimeType := .named "Host"
      let registry :=
        empty.applyAll
          [
            .register (scalarType "First" [.runtime host .output]),
            .register (scalarType "Second" [.runtime host .any])
          ]
      registry.rebuild.findRuntime host .input none = some 1 := by
  decide +kernel

end Registry
end SchemaGraph
