import Mathlib
import SchemaGraph.Proofs.Construction.Stages

/-! What a published graph guarantees.
Each of its types is found by its name, and has everything that the graph needs to serve it.
-/

namespace SchemaGraph

-----------------------------------------------------------------------------------------
-- Keys of names
-----------------------------------------------------------------------------------------

namespace Registry

variable {registry : Registry} {slot : Slot} {record : TypeRecord} {name : String}

theorem nameKey_of_isNamedType (which : record.isNamedType = true)
    (named : record.name = some name)
    : nameKey record = some name :=
  nameKey_eq_some_iff.mpr (.inl ⟨which, named⟩)

theorem nameKey_of_isDirective (which : record.isDirective = true)
    (named : record.name = some name)
    : nameKey record = some ("@" ++ name) :=
  nameKey_eq_some_iff.mpr (.inr ⟨name, rfl, which, named⟩)

theorem Named.name_of_get? (named : registry.Named) (found : registry.get? slot = some record)
    : ∃ name,
        record.name = some name
        ∧ Naming.isValidName name = true
        ∧ ∀ key, nameKey record = some key → Entries.get? registry.byName key = some slot := by
  obtain ⟨other, name, here, isNamed, valid, leads⟩ :=
    named.namedAt slot (lt_size_of_get? found)
  cases Option.some.inj (found.symm.trans here)
  exact ⟨name, isNamed, valid, leads⟩

/-- Types of a sort whose keys differ only where their names do have distinct names.
Witness: the key of a name leads to one slot.
-/
theorem Named.nodup_names (named : registry.Named) {which : TypeRecord → Bool}
    {key : String → String}
    (keyed
      : ∀ record name,
          which record = true → record.name = some name → nameKey record = some (key name))
    : ((registry.records.filter which).map TypeRecord.name).Nodup := by
  rw [List.Nodup, List.pairwise_map, List.pairwise_filter, List.pairwise_iff_getElem]
  intro left right insideLeft insideRight before isLeft isRight same
  have foundLeft : registry.get? left = some registry.records[left] :=
    List.getElem?_eq_getElem insideLeft
  have foundRight : registry.get? right = some registry.records[right] :=
    List.getElem?_eq_getElem insideRight
  obtain ⟨name, isNamed, -, -⟩ := named.name_of_get? foundLeft
  have keyLeft := keyed _ name isLeft isNamed
  have keyRight := keyed _ name isRight (same ▸ isNamed)
  have equal := named.slot_eq foundLeft foundRight keyLeft keyRight
  exact absurd equal (Nat.ne_of_lt before)

end Registry

-----------------------------------------------------------------------------------------
-- A plan to look at
-----------------------------------------------------------------------------------------

namespace Greetings

def text : Reference :=
  .schema ⟨"Text"⟩

def greeting (name : String) : Field where
  name
  description := none
  type := ⟨text, [.nonNull]⟩
  arguments := [⟨"to", .bare text, none⟩]
  member := none
  resolvedType := none
  pipeline := none

/-- An object type that is to be called `Query`, with one greeting. -/
def query (id : String) (field : String) : Definition :=
  .object
    {
      header := ⟨⟨id⟩, some "Query", none, RuntimeType.object⟩
      fields := [greeting field]
      interfaces := []
      implemented := []
      isOfType := none
      isQueryType := false
    }

def polite : DirectiveType where
  header := ⟨⟨"Polite"⟩, some "polite", none, RuntimeType.object⟩
  arguments := [⟨"title", .bare text, none⟩]
  locations := Location.field.toLocations
  repeatable := false

/-- A query type, an extension of it, a scalar type and a directive. -/
def catalog : Catalog :=
  [
    .ofDefinition (query "Query" "hello"),
    .ofDefinition (.extension (query "MoreQuery" "goodbye")),
    .ofDefinition (.scalar ⟨⟨⟨"Text"⟩, some "Text", none, RuntimeType.object⟩⟩),
    .ofDefinition (.directive polite)
  ]

def plan : Plan where
  seeds := catalog.schemaReferences
  catalog
  inspector := RuntimeTable.empty.inspector
  providers := []
  middleware := []
  isOfType := hasTypename
  isQueryType := Definition.isStandardQuery
  validator := Validator.standard
  options := Options.standard

theorem catalog_distinct : catalog.Distinct where
  canonical := by decide
  aliases := by decide

def publication : plan.Publication :=
  plan.publish (by cbv)

theorem problems_plan : plan.progress.problems = [] :=
  publication.problems

end Greetings

namespace Plan

open Registry

variable {plan : Plan} {handle : Handle} {graph : TypeGraph}

-----------------------------------------------------------------------------------------
-- Names
-----------------------------------------------------------------------------------------

/-- In a published graph every type but an extension has a valid name. No two named types and no two
directives have the same one, and each is found by its name.
Witness: each key leads to one slot, and the type in it is the one that has the key.
-/
theorem run_names (distinct : plan.catalog.Distinct)
    (published : (plan.run handle).result = .ok graph)
    : (∀ record ∈ graph.registry.records,
        record.isExtension = false
        → ∃ name, record.name = some name ∧ Naming.isValidName name = true)
      ∧ (graph.namedTypes.map TypeRecord.name).Nodup
      ∧ ((graph.registry.records.filter TypeRecord.isDirective).map TypeRecord.name).Nodup
      ∧ (∀ record ∈ graph.registry.records,
          record.isNamedType = true
          → ∀ name, record.name = some name → graph.getType name = some record)
      ∧ ∀ record ∈ graph.registry.records,
          record.isDirective = true
          → ∀ name, record.name = some name → graph.getDirective name = some record := by
  obtain ⟨clean, same⟩ := run_ok published
  have named : graph.registry.Named := same ▸ (named_and_complete_of_problems distinct clean).1
  have byName {record : TypeRecord} {key : String} (member : record ∈ graph.registry.records)
      (keyed : nameKey record = some key)
      : ∃ slot,
          graph.registry.get? slot = some record
          ∧ Entries.get? graph.registry.byName key = some slot := by
    obtain ⟨slot, found⟩ := exists_get?_of_mem member
    obtain ⟨_, -, -, leads⟩ := named.name_of_get? found
    exact ⟨slot, found, leads key keyed⟩
  refine ⟨?_, ?_, ?_, ?_, ?_⟩
  · intro record member _
    obtain ⟨slot, found⟩ := exists_get?_of_mem member
    obtain ⟨name, isNamed, valid, -⟩ := named.name_of_get? found
    exact ⟨name, isNamed, valid⟩
  · exact named.nodup_names fun _ _ which isNamed => nameKey_of_isNamedType which isNamed
  · exact named.nodup_names fun _ _ which isNamed => nameKey_of_isDirective which isNamed
  · intro record member which name isNamed
    obtain ⟨slot, found, leads⟩ := byName member (nameKey_of_isNamedType which isNamed)
    simp only [TypeGraph.getType, findByName, leads, Option.some_or, Option.bind_some, found]
  · intro record member which name isNamed
    obtain ⟨slot, found, leads⟩ := byName member (nameKey_of_isDirective which isNamed)
    simp only [TypeGraph.getDirective, findDirective, leads, Option.bind_some, found]

/-- The names are those of the query type with its extension, the scalar type and the directive. -/
theorem greetings_names
    : let graph := Greetings.plan.progress.graph
      Greetings.plan.catalog.Distinct
      ∧ (Greetings.plan.run .unbound).result = .ok graph
      ∧ graph.namedTypes.map TypeRecord.name = [some "Query", some "Text"]
      ∧ (graph.namedTypes.map TypeRecord.name).Nodup
      ∧ ∀ record ∈ graph.registry.records,
          record.isDirective = true
          → ∀ name, record.name = some name → graph.getDirective name = some record := by
  intro graph
  have published := Greetings.plan.run_of_problems Greetings.problems_plan
  obtain ⟨-, distinct, -, -, directives⟩ := run_names Greetings.catalog_distinct published
  exact ⟨Greetings.catalog_distinct, published, by cbv, distinct, directives⟩

-----------------------------------------------------------------------------------------
-- Structures
-----------------------------------------------------------------------------------------

/-- In a published graph every type but an extension is complete, whatever was merged into it. -/
theorem run_complete (distinct : plan.catalog.Distinct)
    (published : (plan.run handle).result = .ok graph)
    : ∀ record ∈ graph.registry.records,
        record.isExtension = false → record.definition.IsComplete := by
  intro record member _
  obtain ⟨clean, same⟩ := run_ok published
  have complete := (named_and_complete_of_problems distinct clean).2
  rw [← same] at complete
  obtain ⟨slot, found⟩ := exists_get?_of_mem member
  obtain ⟨other, here, isComplete⟩ := complete slot (lt_size_of_get? found)
  cases Option.some.inj (found.symm.trans here)
  exact isComplete

theorem greetings_complete
    : let graph := Greetings.plan.progress.graph
      Greetings.plan.catalog.Distinct
      ∧ (Greetings.plan.run .unbound).result = .ok graph
      ∧ graph.registry.records.map TypeRecord.isExtension = [false, true, false, false]
      ∧ ∀ record ∈ graph.registry.records,
          record.isExtension = false → record.definition.IsComplete := by
  intro graph
  have published := Greetings.plan.run_of_problems Greetings.problems_plan
  have complete := run_complete Greetings.catalog_distinct published
  exact ⟨Greetings.catalog_distinct, published, by cbv, complete⟩

end Plan
end SchemaGraph
