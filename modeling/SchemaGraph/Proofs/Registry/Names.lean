import SchemaGraph.Proofs.Definition.Outline
import SchemaGraph.Proofs.Registry.Ownership
import SchemaGraph.Naming
import Mathlib.Logic.Relation

/-! Names that lead to their types.
Once a type is named, its name leads to it and to no other type. This outlasts every update of the
registry that changes no more of a type than its structure and its dependencies.
-/

namespace SchemaGraph

/-- The type is a named type that has the name now. -/
def TypeRecord.HasTypeName (record : TypeRecord) (name : String) : Prop :=
  record.isNamedType = true ∧ record.name = some name

/-- The type is a directive that has the name now. -/
def TypeRecord.HasDirectiveName (record : TypeRecord) (name : String) : Prop :=
  record.isDirective = true ∧ record.name = some name

instance (record : TypeRecord) (name : String) : Decidable (record.HasTypeName name) :=
  inferInstanceAs (Decidable (_ ∧ _))

instance (record : TypeRecord) (name : String) : Decidable (record.HasDirectiveName name) :=
  inferInstanceAs (Decidable (_ ∧ _))

/-- Directives are no types. -/
theorem TypeRecord.not_isNamedType_of_isDirective {record : TypeRecord}
    (directive : record.isDirective = true)
    : record.isNamedType = false := by
  have known : record.definition.isDirective = true := directive
  rw [TypeRecord.isNamedType, Definition.isNamedType, known]
  rfl

/-- Records that are the same apart from their structure have the same key of their name. -/
theorem Registry.nameKey_congr {left right : TypeRecord}
    (same : left.definition.outline = right.definition.outline)
    : nameKey left = nameKey right := by
  have name : left.name = right.name := Definition.name_congr same
  have directive : left.isDirective = right.isDirective := Definition.isDirective_congr same
  have named : left.isNamedType = right.isNamedType := Definition.isNamedType_congr same
  rw [nameKey, nameKey, name, directive, named]

namespace Registry

variable {registry before after : Registry} {slot other : Slot} {record new : TypeRecord}

/-- The key of a named type is its name, that of a directive is set off by a sign. -/
theorem nameKey_eq_some_iff {key : String}
    : nameKey record = some key
      ↔ record.HasTypeName key ∨ ∃ name, key = "@" ++ name ∧ record.HasDirectiveName name := by
  simp only [nameKey, Option.bind_eq_some_iff, TypeRecord.HasTypeName, TypeRecord.HasDirectiveName]
  cases directive : record.isDirective with
  | true =>
      rw [TypeRecord.not_isNamedType_of_isDirective directive]
      constructor
      · rintro ⟨name, named, same⟩
        exact .inr ⟨name, (Option.some.inj same).symm, rfl, named⟩
      · rintro (⟨other, -⟩ | ⟨name, rfl, -, named⟩)
        · cases other
        · exact ⟨name, named, rfl⟩
  | false =>
      cases record.isNamedType <;> simp

/-- An extension has no key of its name. -/
theorem isExtension_of_nameKey {key : String} (keyed : nameKey record = some key)
    : record.isExtension = false := by
  obtain ⟨name, -, keyed⟩ := Option.bind_eq_some_iff.mp keyed
  unfold TypeRecord.isExtension
  cases body : record.definition with
  | extension body =>
      simp [TypeRecord.isDirective, TypeRecord.isNamedType, body, Definition.isDirective,
        Definition.isNamedType, Definition.isExtension] at keyed
  | _ => rfl

/-- Every key of a name leads to a type that has the key. -/
def NamesHold (registry : Registry) : Prop :=
  ∀ entry ∈ registry.byName, (registry.get? entry.2).bind nameKey = some entry.1

instance (registry : Registry) : Decidable registry.NamesHold :=
  inferInstanceAs (Decidable (∀ entry ∈ registry.byName, _))

/-- Rebuilding keeps just the names that their types still have. -/
theorem namesHold_rebuild (registry : Registry) : registry.rebuild.NamesHold := by
  intro entry member
  rw [get?_rebuild]
  simpa using (List.mem_filter.mp member).2

/-- Rebuilding the indexes drops no name that leads to its type. -/
theorem NamesHold.byName_rebuild (hold : registry.NamesHold)
    : registry.rebuild.byName = registry.byName := by
  have all
      : ∀ entry ∈ registry.byName,
          decide ((registry.get? entry.2).bind nameKey = some entry.1) = true := by
    intro entry member
    exact decide_eq_true (hold entry member)
  exact List.filter_eq_self.mpr all

/-- Where all names hold, rebuilding changes no look-up by a name. -/
theorem NamesHold.findByName_rebuild (hold : registry.NamesHold)
    : registry.rebuild.findByName = registry.findByName := by
  funext name
  rw [findByName, findByName, hold.byName_rebuild]

/-- What is found by a name has it. -/
theorem NamesHold.nameKey_of_findByName (hold : registry.NamesHold) {name : String}
    (leads : registry.findByName name = some slot)
    : (registry.get? slot).bind nameKey = some name :=
  hold (name, slot) (Entries.mem_of_get? leads)

/-- The type in the slot has a valid name, and the key of the name leads to the slot. -/
def NamedAt (registry : Registry) (slot : Slot) : Prop :=
  ∃ record name,
    registry.get? slot = some record
    ∧ record.name = some name
    ∧ Naming.isValidName name = true
    ∧ ∀ key, nameKey record = some key → Entries.get? registry.byName key = some slot

/-- All types are settled, and all of them are named. -/
structure Named (registry : Registry) : Prop where
  settled : registry.Settled
  namedAt : ∀ slot, slot < registry.size → registry.NamedAt slot

/-- A type that is stored again keeps its key where it has had one. -/
theorem NamesHold.store (hold : before.NamesHold) (stores : Stores before slot new after)
    (byName : after.byName = before.byName)
    (kept : ∀ key, (before.get? slot).bind nameKey = some key → nameKey new = some key)
    : after.NamesHold := by
  intro entry member
  rw [byName] at member
  have held := hold entry member
  by_cases own : slot = entry.2
  · subst own
    rw [stores.self]
    exact kept entry.1 held
  · rw [stores.others entry.2 own]
    exact held

/-- A name that is registered is the one that its type has, and no other name goes. -/
theorem NamesHold.registerName (hold : registry.NamesHold)
    (done : registry.registerName slot = .ok after)
    : after.NamesHold := by
  rcases registerName_cases done with rfl | ⟨record, key, found, keyed, -, rfl⟩
  · exact hold
  · intro entry member
    rcases Entries.mem_insert member with old | rfl
    · exact hold entry old
    · exact Option.bind_eq_some_iff.mpr ⟨record, found, keyed⟩

-----------------------------------------------------------------------------------------
-- Names of other types
-----------------------------------------------------------------------------------------

/-- A type stays named where it is stored as it was and the key of its name leads to it still. -/
theorem NamedAt.of_same (named : before.NamedAt slot)
    (stored : after.get? slot = before.get? slot)
    (kept
      : ∀ key,
          Entries.get? before.byName key = some slot
          → Entries.get? after.byName key = some slot)
    : after.NamedAt slot := by
  obtain ⟨record, name, found, named, valid, leads⟩ := named
  exact ⟨record, name, stored.trans found, named, valid, fun key same => kept key (leads key same)⟩

/-- Storing a type again leaves the names of the others. -/
theorem NamedAt.register_other (named : registry.NamedAt other) (settled : registry.Settled)
    (found : registry.get? slot = some record) (same : new.references = record.references)
    (different : slot ≠ other)
    : (registry.register new).1.NamedAt other := by
  apply named.of_same
  · exact (settled.anchored.stores found same).others other different
  · intro key leads
    rw [byName_register]
    exact leads

/-- Registering a name leaves those that are registered. -/
theorem NamedAt.registerName (named : registry.NamedAt other)
    (done : registry.registerName slot = .ok after)
    : after.NamedAt other := by
  rcases registerName_cases done with rfl | ⟨record, key, -, -, free, rfl⟩
  · exact named
  · apply named.of_same
    · rfl
    · intro held leads
      rw [Entries.get?_insert, if_neg]
      · exact leads
      · rintro rfl
        rw [free] at leads
        cases leads

/-- A name that is registered moves no type and no reference. -/
theorem Settled.registerName (settled : registry.Settled)
    (done : registry.registerName slot = .ok after)
    : after.Settled := by
  rcases registerName_cases done with rfl | ⟨record, key, -, -, -, rfl⟩
  · exact settled
  · exact ⟨settled.keyed, settled.owned, settled.apart, settled.indexed⟩

/-- A name that is registered changes no type. -/
theorem get?_registerName (done : registry.registerName slot = .ok after) (other : Slot)
    : after.get? other = registry.get? other := by
  rcases registerName_cases done with rfl | ⟨record, key, -, -, -, rfl⟩ <;> rfl

theorem size_registerName (done : registry.registerName slot = .ok after)
    : after.size = registry.size := by
  rcases registerName_cases done with rfl | ⟨record, key, -, -, -, rfl⟩ <;> rfl

-----------------------------------------------------------------------------------------
-- Updates
-----------------------------------------------------------------------------------------

/-- One update: a type is stored again with another structure or other dependencies, or the indexes
are rebuilt.
-/
inductive Update : Registry → Registry → Prop where
  | store {registry : Registry} {slot : Slot} {record new : TypeRecord}
      (found : registry.get? slot = some record)
      (references : new.references = record.references)
      (outline : new.definition.outline = record.definition.outline)
      : Update registry (registry.register new).1
  | rebuild (registry : Registry) : Update registry registry.rebuild

/-- Any number of updates. -/
abbrev Updates : Registry → Registry → Prop :=
  Relation.ReflTransGen Update

/-- What an update stores has the references of the type before, so nothing is claimed anew. -/
theorem Settled.update (settled : before.Settled) (update : Update before after)
    : after.Settled := by
  cases update with
  | store found references _ => exact settled.register found references
  | rebuild => exact settled.rebuild

/-- An update adds no type. -/
theorem Update.size (update : Update before after) (settled : before.Settled)
    : after.size = before.size := by
  cases update with
  | store found references _ =>
      exact (settled.anchored.stores found references).size_eq found
  | rebuild => exact size_rebuild before

/-- What each type is apart from its structure, in slot order. -/
def outlines (registry : Registry) : List Outline :=
  registry.records.map fun record => record.definition.outline

/-- The same outlines are in the same slots. -/
theorem map_outline_get? (same : after.outlines = before.outlines) (slot : Slot)
    : (after.get? slot).map (fun record => record.definition.outline)
      = (before.get? slot).map fun record => record.definition.outline := by
  simpa [outlines, get?] using congrArg (fun outlines => outlines[slot]?) same

/-- What each extension adds, in slot order. -/
def additions (registry : Registry) : List (Option Definition) :=
  registry.records.map fun record => record.definition.addition

/-- What extensions add is told by their outlines. -/
theorem additions_congr (same : after.outlines = before.outlines)
    : after.additions = before.additions := by
  have views (registry : Registry)
      : registry.additions = registry.outlines.map Outline.addition := by
    simp [additions, outlines, Definition.outline]
  rw [views, views, same]

/-- An update changes no outline. -/
theorem Update.outlines (update : Update before after) (settled : before.Settled)
    : after.outlines = before.outlines := by
  cases update with
  | store found references outline =>
      exact (settled.anchored.stores found references).map_records found outline
  | rebuild => rw [Registry.outlines, records_rebuild, Registry.outlines]

/-- A type that was named stays so.
Witness: the type that is stored over it has its name, and rebuilding keeps a name that holds.
-/
theorem NamedAt.update (named : before.NamedAt slot) (settled : before.Settled)
    (update : Update before after)
    : after.NamedAt slot := by
  obtain ⟨record, name, found, isNamed, valid, leads⟩ := named
  cases update with
  | rebuild =>
      refine ⟨record, name, by simpa using found, isNamed, valid, ?_⟩
      intro key same
      exact get?_byName_rebuild (leads key same) found same
  | @store changed earlier new here references outline =>
      by_cases own : changed = slot
      · subst own
        cases Option.some.inj (found.symm.trans here)
        have sameName : new.name = record.name := Definition.name_congr outline
        refine ⟨new, name, (settled.anchored.stores here references).self,
          sameName.trans isNamed, valid, ?_⟩
        intro key same
        rw [byName_register]
        exact leads key (nameKey_congr outline ▸ same)
      · refine NamedAt.register_other ?_ settled here references own
        exact ⟨record, name, found, isNamed, valid, leads⟩

/-- Where all types are named, they stay so. -/
theorem Named.update (named : before.Named) (update : Update before after) : after.Named := by
  refine ⟨named.settled.update update, ?_⟩
  intro slot inside
  rw [update.size named.settled] at inside
  exact (named.namedAt slot inside).update named.settled update

/-- One update after the other leaves the canonical references apart, by induction. -/
theorem Settled.updates (settled : before.Settled) (updates : Updates before after)
    : after.Settled := by
  induction updates with
  | refl => exact settled
  | tail _ update ih => exact ih.update update

/-- A name that is registered changes nothing that extensions add. -/
theorem additions_registerName (done : registry.registerName slot = .ok after)
    : after.additions = registry.additions := by
  rcases registerName_cases done with rfl | ⟨record, key, -, -, -, rfl⟩ <;> rfl

/-- One update after the other leaves the outlines, by induction. -/
theorem Updates.outlines (updates : Updates before after) (settled : before.Settled)
    : after.outlines = before.outlines := by
  induction updates with
  | refl => rfl
  | tail earlier update ih => exact (update.outlines (settled.updates earlier)).trans ih

/-- One update after the other leaves all types named, by induction. -/
theorem Named.updates (named : before.Named) (updates : Updates before after)
    : after.Named := by
  induction updates with
  | refl => exact named
  | tail _ update ih => exact ih.update update

-----------------------------------------------------------------------------------------
-- Names and slots
-----------------------------------------------------------------------------------------

/-- Two types with the same key of their names are the same type. -/
theorem Named.slot_eq (named : registry.Named) {left right : TypeRecord} {key : String}
    (foundLeft : registry.get? slot = some left) (foundRight : registry.get? other = some right)
    (keyLeft : nameKey left = some key) (keyRight : nameKey right = some key)
    : slot = other := by
  obtain ⟨_, _, hereLeft, -, -, leadsLeft⟩ := named.namedAt slot (lt_size_of_get? foundLeft)
  obtain ⟨_, _, hereRight, -, -, leadsRight⟩ := named.namedAt other (lt_size_of_get? foundRight)
  cases Option.some.inj (foundLeft.symm.trans hereLeft)
  cases Option.some.inj (foundRight.symm.trans hereRight)
  exact Option.some.inj ((leadsLeft key keyLeft).symm.trans (leadsRight key keyRight))

end Registry
end SchemaGraph
