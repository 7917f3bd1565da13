import Mathlib.Data.List.Pairwise
import SchemaGraph.Proofs.Data.FirstMatch
import SchemaGraph.Proofs.Registry.References
import SchemaGraph.Proofs.Registry.Standing

/-! What a type is indexed under.
The handles of a type are the references that it puts into the indexes: its schema and name
references as they are, and its host types in the positions that they stand for. Indexing a type
gives it the references that led nowhere and agree with one of its handles, as far as these are not
taken themselves; so the first types have the first choice.
-/

namespace SchemaGraph

/-- The references point at the same target in the same scope, be it in other positions. -/
def Reference.Meets (left right : Reference) : Prop :=
  left.target = right.target ∧ left.scope = right.scope

instance (left right : Reference) : Decidable (left.Meets right) :=
  inferInstanceAs (Decidable (_ ∧ _))

/-- References that agree have one target in one scope. -/
theorem Reference.meets_of_agrees {left right : Reference} (agrees : left.agrees right = true)
    : left.Meets right :=
  ⟨(agrees_iff.mp agrees).2.2, (agrees_iff.mp agrees).2.1⟩

theorem Reference.Meets.trans {first second third : Reference} (earlier : first.Meets second)
    (later : second.Meets third)
    : first.Meets third :=
  ⟨earlier.1.trans later.1, earlier.2.trans later.2⟩

/-- The reference that the entry stands for. -/
def RuntimeEntry.reference (entry : RuntimeEntry) : Reference :=
  ⟨.runtime entry.runtime, entry.position, entry.scope⟩

/-- The references that the type is indexed under, in whichever slot it is. -/
def TypeRecord.handles (record : TypeRecord) : List Reference :=
  record.references.filter Registry.isKey
    ++ (Registry.runtimeEntries 0 record).map RuntimeEntry.reference

namespace Registry

variable {registry one other : Registry} {slot : Slot} {record : TypeRecord}
  {reference handle : Reference}

-----------------------------------------------------------------------------------------
-- Handles
-----------------------------------------------------------------------------------------

theorem isKey_congr (same : handle.target = reference.target) : isKey handle = isKey reference := by
  simp only [isKey, same]

/-- Host types agree with host types only. -/
theorem isKey_of_agrees (agrees : handle.agrees reference = true)
    : isKey handle = isKey reference :=
  isKey_congr (Reference.meets_of_agrees agrees).1

/-- What a type is entered under does not depend on its slot. -/
theorem map_reference_runtimeEntries (slot : Slot) (record : TypeRecord)
    : (runtimeEntries slot record).map RuntimeEntry.reference
      = (runtimeEntries 0 record).map RuntimeEntry.reference := by
  have each (reference : Reference)
      : (entryFor slot record.kind reference).map RuntimeEntry.reference
        = (entryFor 0 record.kind reference).map RuntimeEntry.reference := by
    unfold entryFor
    split <;> rfl
  simp only [runtimeEntries, List.map_append, List.map_filterMap, each]
  split <;> rfl

/-- A host type is a handle where the type has an entry for it. -/
theorem mem_handles_of_entry {entry : RuntimeEntry} (member : entry ∈ runtimeEntries slot record)
    : entry.reference ∈ record.handles := by
  refine List.mem_append_right _ ?_
  rw [← map_reference_runtimeEntries slot]
  exact List.mem_map_of_mem member

/-- Types of one standing have the same handles. -/
theorem handles_congr {new : TypeRecord} (same : new.standing = record.standing)
    : new.handles = record.handles := by
  rw [TypeRecord.handles, TypeRecord.handles, references_congr same, runtimeEntries_congr 0 same]

-----------------------------------------------------------------------------------------
-- Indexing a type
-----------------------------------------------------------------------------------------

/-- Whether indexing the type makes the reference lead to it, if it leads nowhere so far. A schema
or name reference takes a handle that leads nowhere either.
-/
def opens (registry : Registry) (record : TypeRecord) (reference : Reference) : Bool :=
  record.handles.any fun handle =>
    handle.agrees reference && (!isKey reference || (registry.find handle).isNone)

/-- Where nothing was found, the first of the added entries decides.
Witness: an entry that is left out was there before, so it would have been found.
-/
theorem find?_foldl_addEntry (additions entries : List RuntimeEntry)
    (matching : RuntimeEntry → Bool)
    : (additions.foldl addEntry entries).find? matching
      = (entries.find? matching).or (additions.find? matching) := by
  induction additions generalizing entries with
  | nil => simp
  | cons addition rest ih =>
      have step : (addEntry entries addition).find? matching
          = (entries.find? matching).or (if matching addition then some addition else none) := by
        unfold addEntry
        split
        · next there =>
            split
            · next fits =>
                have found : (entries.find? matching).isSome = true :=
                  List.find?_isSome.mpr ⟨addition, there, fits⟩
                obtain ⟨first, here⟩ := Option.isSome_iff_exists.mp found
                simp [here]
            · simp
        · rw [List.find?_append]
          simp [List.find?_singleton]
      rw [List.foldl_cons, ih, step, List.find?_cons, Option.or_assoc]
      cases matching addition <;> simp

/-- A host type leads to the slot of its first entry that agrees. -/
theorem find_of_not_isKey (runtime : isKey reference = false)
    : registry.find reference
      = (registry.byRuntime.find? fun entry => entry.reference.agrees reference).map
          RuntimeEntry.slot := by
  unfold find
  split
  · next type target =>
      have matching (entry : RuntimeEntry)
          : entry.reference.agrees reference
            = (entry.runtime = type && entry.position.compatible reference.position
              && entry.scope = reference.scope) := by
        simp only [RuntimeEntry.reference, Reference.agrees, target, Target.runtime.injEq]
        ac_rfl
      simp only [findRuntime, matching]
  · next other => cases target : reference.target <;> simp_all [isKey]

/-- A schema or name reference takes no host type. -/
theorem opens_of_isKey (key : isKey reference = true)
    : registry.opens record reference
      = (record.references.filter isKey).any fun handle =>
          handle.agrees reference && (registry.findKey handle).isNone := by
  rw [Bool.eq_iff_iff, opens, List.any_eq_true, List.any_eq_true]
  constructor
  · rintro ⟨handle, member, takes⟩
    simp only [key, Bool.and_eq_true, Bool.not_true, Bool.false_or] at takes
    have keyed := (isKey_of_agrees takes.1).trans key
    rw [find_of_isKey keyed] at takes
    rcases List.mem_append.mp member with carried | entered
    · exact ⟨handle, carried, by simp [takes]⟩
    · obtain ⟨entry, -, rfl⟩ := List.mem_map.mp entered
      cases keyed
  · rintro ⟨handle, member, takes⟩
    have keyed := (List.mem_filter.mp member).2
    refine ⟨handle, List.mem_append_left _ member, ?_⟩
    rw [key, find_of_isKey keyed]
    exact takes

/-- A type answers for a host type wherever one of its handles agrees. -/
theorem opens_of_not_isKey (runtime : isKey reference = false)
    : registry.opens record reference
      = record.handles.any fun handle => handle.agrees reference := by
  simp [opens, runtime]

/-- A reference without a position is opened if it is opened in one of the two. -/
theorem opens_eq_withPosition (key : isKey reference = true) (bare : reference.position = .any)
    : registry.opens record reference
      = (registry.opens record (reference.withPosition .input)
        || registry.opens record (reference.withPosition .output)) := by
  have positioned (position : Position) : isKey (reference.withPosition position) = true := key
  rw [Bool.eq_iff_iff, Bool.or_eq_true, opens_of_isKey key, opens_of_isKey (positioned .input),
    opens_of_isKey (positioned .output)]
  simp only [List.any_eq_true, Bool.and_eq_true, agrees_iff_withPosition bare]
  grind

/-- What was found stays found. What was not leads to the type if it opens it.
Witness: the keys and the entries for host types are added each on their own.
-/
theorem find_index_eq (pinned : Pinned reference) (registry : Registry) (slot : Slot)
    (record : TypeRecord)
    : (registry.index slot record).find reference
      = (registry.find reference).or
          (if registry.opens record reference then some slot else none) := by
  cases key : isKey reference with
  | true =>
      rw [find_of_isKey key, find_of_isKey key, opens_of_isKey key]
      exact KeyTable.find_foldl_add (record.apart.filter _) (pinned key) slot registry.byReference
  | false =>
      have entered
          : ((runtimeEntries slot record).find? fun entry => entry.reference.agrees reference).map
              RuntimeEntry.slot
            = if record.handles.any fun handle => handle.agrees reference then some slot
              else none := by
        cases found : (runtimeEntries slot record).find? fun entry =>
            entry.reference.agrees reference with
        | some entry =>
            have member := List.mem_of_find?_eq_some found
            have agrees : entry.reference.agrees reference = true := by
              simpa using List.find?_some found
            rw [if_pos (List.any_eq_true.mpr ⟨_, mem_handles_of_entry member, agrees⟩),
              Option.map_some, slot_of_mem_runtimeEntries member]
        | none =>
            rw [Option.map_none, if_neg]
            rw [List.any_eq_true]
            rintro ⟨handle, member, agrees⟩
            have keyed := (isKey_of_agrees agrees).trans key
            rcases List.mem_append.mp member with carried | stands
            · rw [(List.mem_filter.mp carried).2] at keyed
              cases keyed
            · rw [← map_reference_runtimeEntries slot] at stands
              obtain ⟨entry, listed, rfl⟩ := List.mem_map.mp stands
              exact List.find?_eq_none.mp found entry listed agrees
      rw [find_of_not_isKey key, find_of_not_isKey key, opens_of_not_isKey key, ← entered,
        ← Option.map_or, ← find?_foldl_addEntry]
      rfl

/-- Which slot a reference without a position leads to depends on the buckets. That it leads
anywhere does not.
Witness: it leads somewhere if it does in one of the two positions, and in a position the answer is
known.
-/
theorem isNone_find_index (registry : Registry) (slot : Slot) (record : TypeRecord)
    (reference : Reference)
    : ((registry.index slot record).find reference).isNone
      = ((registry.find reference).isNone && !registry.opens record reference) := by
  have ofPinned {reference : Reference} (pinned : Pinned reference)
      : ((registry.index slot record).find reference).isSome
        = ((registry.find reference).isSome || registry.opens record reference) := by
    rw [find_index_eq pinned]
    cases registry.find reference <;> cases registry.opens record reference <;> rfl
  have whole
      : ((registry.index slot record).find reference).isSome
        = ((registry.find reference).isSome || registry.opens record reference) := by
    by_cases pinned : Pinned reference
    · exact ofPinned pinned
    · obtain ⟨key, bare⟩ := Classical.not_imp.mp pinned
      have bare : reference.position = .any := Classical.not_not.mp bare
      rw [isSome_find_eq_withPosition key bare, isSome_find_eq_withPosition key bare,
        opens_eq_withPosition key bare, ofPinned (pinned_withPosition reference (by decide)),
        ofPinned (pinned_withPosition reference (by decide))]
      ac_rfl
  rw [← Option.not_isSome, whole, Bool.not_or, Option.not_isSome]

-----------------------------------------------------------------------------------------
-- Types that are indexed already
-----------------------------------------------------------------------------------------

/-- The handles that are no host types are references of the type. -/
theorem mem_references_of_mem_handles (member : handle ∈ record.handles)
    (key : isKey handle = true)
    : handle ∈ record.references := by
  rcases List.mem_append.mp member with carried | stands
  · exact (List.mem_filter.mp carried).1
  · obtain ⟨entry, -, rfl⟩ := List.mem_map.mp stands
    cases key

/-- The others are what the type is entered under. -/
theorem exists_entry_of_mem_handles (slot : Slot) (member : handle ∈ record.handles)
    (runtime : isKey handle = false)
    : ∃ entry ∈ runtimeEntries slot record, entry.reference = handle := by
  rcases List.mem_append.mp member with carried | stands
  · rw [(List.mem_filter.mp carried).2] at runtime
    cases runtime
  · rw [← map_reference_runtimeEntries slot] at stands
    exact List.mem_map.mp stands

/-- Handles that agree are the same where they are schema or name references. -/
theorem eq_of_mem_handles_of_agrees (member : handle ∈ record.handles)
    {second : Reference} (also : second ∈ record.handles) (agrees : handle.agrees second = true)
    (key : isKey handle = true)
    : handle = second := by
  have symmetric : Std.Symm fun left right : Reference => left.agrees right = false :=
    ⟨fun left right no => by rw [Reference.agrees_comm, no]⟩
  have carried := mem_references_of_mem_handles member key
  have alsoCarried := mem_references_of_mem_handles also (isKey_of_agrees agrees ▸ key)
  refine Classical.byContradiction fun different => ?_
  rw [List.Pairwise.forall record.apart carried alsoCarried different] at agrees
  cases agrees

/-- A host type that agrees with a handle of a type leads somewhere where the indexes cover it. -/
theorem Covers.isSome_find_of_agrees (covers : registry.Covers slot record)
    (member : handle ∈ record.handles) (runtime : isKey reference = false)
    (agrees : handle.agrees reference = true)
    : (registry.find reference).isSome = true := by
  obtain ⟨entry, listed, rfl⟩ :=
    exists_entry_of_mem_handles slot member ((isKey_of_agrees agrees).trans runtime)
  obtain ⟨compatible, sameScope, sameTarget⟩ := Reference.agrees_iff.mp agrees
  have found := covers.entries entry listed reference.position compatible
  rw [show entry.scope = reference.scope from sameScope] at found
  rw [find, ← sameTarget]
  exact found

/-- Every handle of a type that is covered leads somewhere. -/
theorem Covers.isSome_find (covers : registry.Covers slot record)
    (member : handle ∈ record.handles)
    : (registry.find handle).isSome = true := by
  cases key : isKey handle with
  | true =>
      rw [find_of_isKey key]
      exact covers.keys handle (mem_references_of_mem_handles member key) key
  | false => exact covers.isSome_find_of_agrees member key handle.agrees_refl

/-- A reference of a type agrees with one of its handles: a host type without a position stands for
the position of the kind.
-/
theorem exists_handle_of_mem_references (member : reference ∈ record.references)
    : ∃ handle ∈ record.handles, handle.agrees reference = true := by
  cases key : isKey reference with
  | true =>
      exact ⟨reference, List.mem_append_left _ (List.mem_filter.mpr ⟨member, key⟩),
        reference.agrees_refl⟩
  | false =>
      cases target : reference.target with
      | runtime type =>
          let position :=
            if reference.position = .any then record.kind.position else reference.position
          have made
              : entryFor 0 record.kind reference
                = some ⟨type, position, reference.scope, 0⟩ := by
            simp only [entryFor, target, position]
          have listed : ⟨type, position, reference.scope, 0⟩ ∈ runtimeEntries 0 record :=
            List.mem_append_left _ (List.mem_filterMap.mpr ⟨reference, member, made⟩)
          refine ⟨_, mem_handles_of_entry listed, Reference.agrees_iff.mpr ⟨?_, rfl, target.symm⟩⟩
          by_cases bare : reference.position = .any <;>
            simp [RuntimeEntry.reference, position, bare, Position.compatible]
      | _ => simp [isKey, target] at key

/-- Every reference of a type that the indexes cover leads somewhere. -/
theorem Covers.isSome_find_reference (covers : registry.Covers slot record)
    (member : reference ∈ record.references)
    : (registry.find reference).isSome = true := by
  obtain ⟨handle, listed, agrees⟩ := exists_handle_of_mem_references member
  cases key : isKey reference with
  | true =>
      rw [find_of_isKey key]
      exact covers.keys reference member key
  | false => exact covers.isSome_find_of_agrees listed key agrees

-----------------------------------------------------------------------------------------
-- Rebuilt indexes
-----------------------------------------------------------------------------------------

/-- What a rebuilt registry may find depends on the records alone. -/
theorem mayFind_rebuild (registry : Registry) (reference : Reference) (slot : Slot)
    : registry.rebuild.MayFind reference slot
      ↔ (empty.indexAll registry.records.zipIdx).MayFind reference slot :=
  ((sameIndexes_cleared empty registry).indexAll rfl 0).mayFind reference slot

/-- In a position, rebuilt indexes find what indexes find that start with no buckets. -/
theorem find_rebuild (pinned : Pinned reference)
    : registry.rebuild.find reference = (empty.indexAll registry.records.zipIdx).find reference :=
  (decides_of_pinned pinned).find_congr (registry.mayFind_rebuild reference)

theorem find_empty (reference : Reference) : empty.find reference = none := by
  unfold find
  split <;> rfl

/-- A host type leads to the first type that has a handle for it. -/
theorem find_indexAll (runtime : isKey reference = false) (entries : List (TypeRecord × Slot))
    : (registry.indexAll entries).find reference
      = (registry.find reference).or
          ((entries.find? fun entry => reference.isIn entry.1.handles).map Prod.snd) := by
  induction entries generalizing registry with
  | nil => simp [indexAll]
  | cons entry rest ih =>
      have step
          : (registry.index entry.2 entry.1).find reference
            = (registry.find reference).or
                (if reference.isIn entry.1.handles then some entry.2 else none) := by
        rw [find_index_eq (pinned_of_not_isKey runtime), opens_of_not_isKey runtime]
        rfl
      rw [indexAll, List.foldl_cons, ← indexAll, ih, step, List.find?_cons, Option.or_assoc]
      cases reference.isIn entry.1.handles <;> simp

/-- After a rebuilding, a host type leads to the first type that has a handle for it. -/
theorem find_rebuild_of_not_isKey (runtime : isKey reference = false)
    : registry.rebuild.find reference
      = (registry.records.zipIdx.find? fun entry => reference.isIn entry.1.handles).map
          Prod.snd := by
  rw [find_rebuild (pinned_of_not_isKey runtime), find_indexAll runtime, find_empty,
    Option.none_or]

/-- In rebuilt indexes a host type leads to the first slot whose type has a handle for it. -/
theorem find_rebuild_of_first (runtime : isKey reference = false)
    (found : registry.get? slot = some record) (holds : reference.isIn record.handles = true)
    (first
      : ∀ earlier < slot,
          ∀ other ∈ registry.get? earlier, reference.isIn other.handles = false)
    : registry.rebuild.find reference = some slot := by
  rw [find_rebuild_of_not_isKey runtime]
  exact find?_zipIdx_eq_some_iff.mpr
    ⟨⟨record, found, holds⟩, fun lower other below there => first lower below other there⟩

end Registry
end SchemaGraph
