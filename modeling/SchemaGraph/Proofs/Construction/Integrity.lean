import SchemaGraph.Proofs.Completion.Denotation
import SchemaGraph.Proofs.Completion.Members
import SchemaGraph.Proofs.Construction.Published

/-! What the names that a published graph writes denote.
Whatever a name was resolved from, it still leads to the type that was meant when the graph is
published.
-/

namespace SchemaGraph

-----------------------------------------------------------------------------------------
-- Names and the types of a graph
-----------------------------------------------------------------------------------------

/-- The name leads to a type of the graph that is no extension and of a usable kind. -/
def TypeGraph.HasType (graph : TypeGraph) (usable : Kind → Bool) (name : String) : Prop :=
  ∃ record,
    graph.getType name = some record
    ∧ record.isExtension = false
    ∧ usable record.kind = true

theorem TypeRecord.isNamedType_of_kind {record : TypeRecord} (kind : record.kind ≠ .directive)
    (base : record.isExtension = false)
    : record.isNamedType = true := by
  have other : record.definition.kind ≠ .directive := kind
  have directive : record.definition.isDirective = false := by
    rw [Definition.isDirective_eq, decide_eq_false other, Bool.false_and]
  rw [TypeRecord.isNamedType, Definition.isNamedType, directive]
  exact congrArg not base

/-- Where all types are named, each named type is found by its name. -/
theorem Registry.Named.getByName {registry : Registry} (named : registry.Named)
    {record : TypeRecord} (member : record ∈ registry.records)
    (which : record.isNamedType = true) {name : String} (isNamed : record.name = some name)
    : registry.getByName name = some record := by
  obtain ⟨slot, found⟩ := exists_get?_of_mem member
  obtain ⟨_, -, -, leads⟩ := named.name_of_get? found
  have byName : registry.findByName name = some slot :=
    leads name (nameKey_of_isNamedType which isNamed)
  rw [Registry.getByName, byName, Option.bind_some, found]

namespace TypeGraph

open Registry

variable {graph : TypeGraph} {name : String}

theorem getType_of_getByName {target : TypeRecord}
    (found : graph.registry.getByName name = some target)
    : graph.getType name = some target := by
  obtain ⟨slot, leads, here⟩ := Option.bind_eq_some_iff.mp found
  rw [TypeGraph.getType, leads, Option.some_or, Option.bind_some, here]

/-- Where all types are named, a graph finds each named type by its name. -/
theorem getType_of_name (named : graph.registry.Named) {record : TypeRecord}
    (member : record ∈ graph.registry.records) (which : record.isNamedType = true)
    (isNamed : record.name = some name)
    : graph.getType name = some record :=
  getType_of_getByName (named.getByName member which isNamed)

theorem hasType_of_offers (named : graph.registry.Named) {usable : Kind → Bool}
    (offers : graph.registry.Offers usable name)
    : graph.HasType usable name := by
  obtain ⟨outline, member, isNamed, kind, base, fits⟩ := offers
  obtain ⟨record, inGraph, rfl⟩ := List.mem_map.mp member
  have which := TypeRecord.isNamedType_of_kind kind base
  exact ⟨record, getType_of_name named inGraph which isNamed, base, fits⟩

end TypeGraph

-----------------------------------------------------------------------------------------
-- Fields, arguments and interfaces
-----------------------------------------------------------------------------------------

namespace Plan

open Registry

variable {plan : Plan} {handle : Handle} {graph : TypeGraph}

/-- What completion brings about holds of every type of a published graph. -/
theorem run_holds {holds : Registry → Definition → Prop} (brings : Brings holds)
    (distinct : plan.catalog.Distinct) (published : (plan.run handle).result = .ok graph)
    : graph.registry.Named
      ∧ ∀ record ∈ graph.registry.records, holds graph.registry record.definition := by
  obtain ⟨clean, same⟩ := run_ok published
  obtain ⟨named, -, done⟩ := named_and_holds_of_problems brings distinct clean
  rw [← same] at named done
  refine ⟨named, ?_⟩
  intro record member
  obtain ⟨slot, found⟩ := exists_get?_of_mem member
  obtain ⟨other, here, isDone⟩ := done slot (lt_size_of_get? found)
  cases Option.some.inj (found.symm.trans here)
  exact isDone

/-- What an extension adds in a published graph is what a descriptor of the catalogue says. -/
theorem exists_addition_eq (distinct : plan.catalog.Distinct)
    (published : (plan.run handle).result = .ok graph)
    : ∀ record ∈ graph.registry.records,
        ∃ descriptor ∈ plan.catalog,
          record.definition.addition = descriptor.definition.addition := by
  intro record member
  obtain ⟨clean, same⟩ := run_ok published
  have additions := (named_and_holds_of_problems brings_isComplete distinct clean).2.1
  rw [← same] at additions
  have inGraph : record.definition.addition ∈ graph.registry.additions :=
    List.mem_map_of_mem member
  rw [additions] at inGraph
  obtain ⟨discovered, there, alike⟩ := List.mem_map.mp inGraph
  obtain ⟨descriptor, inCatalog, described⟩ :=
    ((discover_discoveredFrom distinct plan.seeds).standsIn discovered there).definition
  exact ⟨descriptor, inCatalog, by rw [← alike, described]⟩

/-- Completion writes names that the registry offers, and no update takes an offer back. -/
theorem brings_denotes
    : Brings fun registry definition => definition.Denotes registry.Offers where
  extension := Definition.denotes_of_isExtension
  completed named fine := Completion.complete_denotes named fine
  kept named update denotes := by
    refine denotes.mono ?_
    intro usable name offers
    rw [Offers, update.outlines named.settled]
    exact offers

/-- In a published graph every type but an extension writes only names that lead to types of the
graph: fields of objects and interfaces are of output types, arguments and fields of input objects
of input types, and implemented interfaces are distinct interfaces. An extension, which completion
leaves alone, adds what it does in the catalogue.
-/
theorem run_denotes (distinct : plan.catalog.Distinct)
    (published : (plan.run handle).result = .ok graph)
    : ∀ record ∈ graph.registry.records,
        (record.isExtension = false → record.definition.Denotes graph.HasType)
        ∧ (record.isExtension = true
          → ∃ descriptor ∈ plan.catalog,
              record.definition.addition = descriptor.definition.addition) := by
  intro record member
  obtain ⟨named, written⟩ := run_holds brings_denotes distinct published
  refine ⟨fun _ => ?_, fun _ => exists_addition_eq distinct published record member⟩
  exact (written record member).mono fun _ _ offers => TypeGraph.hasType_of_offers named offers

end Plan

-----------------------------------------------------------------------------------------
-- A plan with references of several sorts
-----------------------------------------------------------------------------------------

namespace Shelf

def text : Reference :=
  .schema ⟨"Text"⟩

def header (name : String) : Header :=
  ⟨⟨name⟩, some name, none, RuntimeType.object⟩

def field (name : String) (type : WrappedType) (arguments : List Argument) : Field where
  name
  description := none
  type
  arguments
  member := none
  resolvedType := none
  pipeline := none

/-- An interface that the query type implements by its identity as well as by its name, and an input
object for an argument.
-/
def catalog : Catalog :=
  [
    .ofDefinition
      (.object
        {
          header := header "Query"
          fields :=
            [
              field "title" (.bare text) [],
              field "items" ⟨.named "Item" .output, [.list, .nonNull]⟩
                [⟨"filter", .bare (.schema ⟨"Filter"⟩), none⟩]
            ]
          interfaces := [.schema ⟨"Item"⟩, .named "Item" .output]
          implemented := []
          isOfType := none
          isQueryType := false
        }),
    .ofDefinition (.interface ⟨header "Item", [field "title" (.bare text) []], [], []⟩),
    .ofDefinition (.inputObject ⟨header "Filter", [field "title" ⟨text, [.nonNull]⟩ []]⟩),
    .ofDefinition (.scalar ⟨header "Text"⟩)
  ]

def plan : Plan :=
  { Greetings.plan with seeds := catalog.schemaReferences, catalog }

theorem catalog_distinct : catalog.Distinct where
  canonical := by decide
  aliases := by decide

def publication : plan.Publication :=
  plan.publish (by cbv)

theorem problems_plan : plan.progress.problems = [] :=
  publication.problems

end Shelf

namespace Plan

theorem shelf_denotes
    : let graph := Shelf.plan.progress.graph
      Shelf.plan.catalog.Distinct
      ∧ (Shelf.plan.run .unbound).result = .ok graph
      ∧ graph.queryType.map ObjectType.implemented = some ["Item"]
      ∧ (graph.field ⟨"Query", "items"⟩).map Field.resolvedType = some (some "[Item!]")
      ∧ ∀ record ∈ graph.registry.records,
          record.isExtension = false → record.definition.Denotes graph.HasType := by
  intro graph
  have published := Shelf.plan.run_of_problems Shelf.problems_plan
  refine ⟨Shelf.catalog_distinct, published, by cbv, by cbv, ?_⟩
  intro record member
  exact (run_denotes Shelf.catalog_distinct published record member).1

end Plan

-----------------------------------------------------------------------------------------
-- A plan with an extension whose base does not exist
-----------------------------------------------------------------------------------------

namespace Strays

def union : UnionType :=
  ⟨Shelf.header "Result", [.schema ⟨"MoreGhost"⟩], []⟩

/-- A union whose only member is an extension of an object type that there is not. -/
def catalog : Catalog :=
  [
    .ofDefinition (.union union),
    .ofDefinition
      (.extension
        (.object
          {
            header := ⟨⟨"MoreGhost"⟩, some "Ghost", none, RuntimeType.object⟩
            fields := []
            interfaces := []
            implemented := []
            isOfType := none
            isQueryType := false
          }))
  ]

def plan : Plan :=
  { Greetings.plan with seeds := catalog.schemaReferences, catalog }

theorem catalog_distinct : catalog.Distinct where
  canonical := by decide
  aliases := by decide

def publication : plan.Publication :=
  plan.publish (by cbv)

theorem problems_plan : plan.progress.problems = [] :=
  publication.problems

end Strays

namespace Plan

open Registry

-----------------------------------------------------------------------------------------
-- Members of unions
-----------------------------------------------------------------------------------------

/-- Completion resolves members to names of objects, and no update takes these names away.
Witness: the members resolve in the registry in which the union is completed, and updates keep all
outlines.
-/
theorem brings_memberNames
    : Brings fun registry definition =>
        ∀ name ∈ definition.memberNames,
          ∃ outline ∈ registry.outlines, outline.kind = .object ∧ outline.name = some name where
  extension {_ definition} extension name member := by
    cases definition with
    | extension body => cases member
    | _ => cases extension
  completed {completion definition} named fine name member := by
    cases definition with
    | union type =>
        have done : completion.complete (.union type)
            = (.union (Completion.completeUnion completion.registry type).1, []) :=
          Prod.ext rfl fine
        obtain ⟨reference, -, target, resolved, kind, shown⟩ :=
          (Completion.mem_resolvedMembers_iff done).mp member
        obtain ⟨isNamed, inRegistry⟩ := named.name_of_resolve resolved
        exact ⟨target.definition.outline, inRegistry, kind, shown ▸ isNamed⟩
    | _ => cases member
  kept named update resolved := by
    rw [update.outlines named.settled]
    exact resolved

/-- A union that is completed without a problem resolves to the names of its members, all of the
kind of objects. They are object types but for extensions whose place no other member takes; and in
a published graph each one that is no extension is found by its name.
Witness: the resolved names are told by the completion of the union, and that each is found by the
naming of all types.
-/
theorem members_objects (completion : Completion) (type completed : UnionType) (plan : Plan)
    (handle : Handle) (graph : TypeGraph)
    : (completion.complete (.union type) = (.union completed, [])
        → (∀ name,
            name ∈ completed.resolvedMembers
            ↔ ∃ reference ∈ type.members,
                ∃ target,
                  completion.registry.resolve reference = some target
                  ∧ target.kind = .object
                  ∧ target.displayName = name)
          ∧ (completed.HasObjects completion.registry
            ↔ ∀ reference ∈ type.members,
                ∀ target,
                  completion.registry.resolve reference = some target
                  → target.isExtension = true ∨ target.name = none
                  → ∃ other ∈ type.members,
                      ∃ base,
                        completion.registry.resolve other = some base
                        ∧ base.isExtension = false
                        ∧ base.name = some target.displayName))
      ∧ (plan.catalog.Distinct
        → (plan.run handle).result = .ok graph
        → ∀ record ∈ graph.registry.records,
            ∀ name ∈ record.definition.memberNames,
              ∃ target ∈ graph.registry.records,
                target.kind = .object
                ∧ target.name = some name
                ∧ (target.isExtension = false → graph.getType name = some target)) := by
  refine ⟨?_, ?_⟩
  · intro done
    exact ⟨fun name => Completion.mem_resolvedMembers_iff done, Completion.hasObjects_iff done⟩
  · intro distinct published record inGraph name member
    obtain ⟨named, resolved⟩ := run_holds brings_memberNames distinct published
    obtain ⟨outline, isType, kind, isNamed⟩ := resolved record inGraph name member
    obtain ⟨target, there, rfl⟩ := List.mem_map.mp isType
    have isObject : target.kind = .object := kind
    refine ⟨target, there, isObject, isNamed, ?_⟩
    intro base
    have which := TypeRecord.isNamedType_of_kind (by simp [isObject]) base
    exact TypeGraph.getType_of_name named there which isNamed

/-- The union is completed without a problem and has no object: its member is the name of a type
that the graph has as an extension only.
-/
theorem strays_members
    : let graph := Strays.plan.progress.graph
      let completion := Strays.plan.completion Strays.plan.progress (.union Strays.union)
      let completed : UnionType := { Strays.union with resolvedMembers := ["Ghost"] }
      completion.complete (.union Strays.union) = (.union completed, [])
      ∧ ¬completed.HasObjects completion.registry
      ∧ Strays.plan.catalog.Distinct
      ∧ (Strays.plan.run .unbound).result = .ok graph
      ∧ ∃ target ∈ graph.registry.records,
          target.kind = .object
          ∧ target.name = some "Ghost"
          ∧ (target.isExtension = false → graph.getType "Ghost" = some target) := by
  intro graph completion completed
  have done : completion.complete (.union Strays.union) = (.union completed, []) := by cbv
  have published := Strays.plan.run_of_problems Strays.problems_plan
  obtain ⟨whole, found⟩ :=
    members_objects completion Strays.union completed Strays.plan .unbound graph
  refine ⟨done, ?_, Strays.catalog_distinct, published, ?_⟩
  · intro objects
    have stray
        : (completion.registry.resolve (.schema ⟨"MoreGhost"⟩)).map TypeRecord.isExtension
          = some true := by
      cbv
    obtain ⟨target, resolved, extension⟩ := Option.map_eq_some_iff.mp stray
    obtain ⟨other, member, base, here, isBase, -⟩ :=
      (whole done).2.mp objects _ List.mem_cons_self target resolved (Or.inl extension)
    cases List.mem_singleton.mp member
    cases Option.some.inj (resolved.symm.trans here)
    rw [extension] at isBase
    cases isBase
  · have names
        : graph.registry.records.map (fun record => record.definition.memberNames)
          = [["Ghost"], []] := by
      cbv
    have first
        : ["Ghost"] ∈ graph.registry.records.map fun record => record.definition.memberNames :=
      names ▸ List.mem_cons_self
    obtain ⟨record, inGraph, same⟩ := List.mem_map.mp first
    have member : "Ghost" ∈ record.definition.memberNames := same ▸ List.mem_cons_self
    exact found Strays.catalog_distinct published record inGraph "Ghost" member

/-- The graph is published, but only an extension has the name of the member of its union, and no
type is found by it.
-/
theorem strays_not_found
    : let graph := Strays.plan.progress.graph
      (Strays.plan.run .unbound).result = .ok graph
      ∧ graph.registry.records.map (fun record => record.definition.memberNames)
        = [["Ghost"], []]
      ∧ graph.registry.records.map (fun record => (record.name, record.isExtension))
        = [(some "Result", false), (some "Ghost", true)]
      ∧ graph.getType "Ghost" = none :=
  ⟨Strays.plan.run_of_problems Strays.problems_plan, by cbv, by cbv, by cbv⟩

end Plan
end SchemaGraph
