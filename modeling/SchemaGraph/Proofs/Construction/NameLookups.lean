import SchemaGraph.Proofs.Completion.CleanMerges
import SchemaGraph.Proofs.Construction.AlternateNames
import SchemaGraph.Proofs.Data.FirstMatch

/-! Looking up types by name in a published graph.
A name leads to the named type that has it. Where no type has it, it leads to the first named type
with that alternate name, be it the type's own or that of an extension merged into it.
-/

namespace SchemaGraph

open Registry

-----------------------------------------------------------------------------------------
-- The alternate names of a graph
-----------------------------------------------------------------------------------------

namespace TypeGraph

variable {registry : Registry} {states : TypeStates} {bindings : Bindings} {name : String}
  {slot : Slot}

/-- The entry is a named type with the alternate name in its state. -/
def answers (states : TypeStates) (name : String) (entry : TypeRecord × Slot) : Bool :=
  entry.1.isNamedType && decide (name ∈ (states.alternates? entry.2).getD [])

/-- The slot holds a named type with the alternate name in its state. -/
def AnswersAt (registry : Registry) (states : TypeStates) (name : String) (slot : Slot) : Prop :=
  ∃ record, registry.get? slot = some record ∧ answers states name (record, slot) = true

/-- Names that all lead to one slot lead there or nowhere. -/
theorem get?_sameValue (names : List String) (slot : Slot) (name : String)
    : Entries.get? (names.map fun other => (other, slot)) name
      = if name ∈ names then some slot else none := by
  induction names with
  | nil => rfl
  | cons first rest ih =>
      rw [List.map_cons, Entries.get?_cons, ih]
      by_cases own : first = name
      · simp [own]
      · simp [own, Ne.symm own]

/-- The entries are those of the named types, in the order of the slots. -/
theorem alternateEntries_eq (registry : Registry) (states : TypeStates)
    : alternateEntries registry states
      = (registry.records.zipIdx.filter fun entry => entry.1.isNamedType).flatMap fun entry =>
          ((states.alternates? entry.2).getD []).map fun other => (other, entry.2) := by
  unfold alternateEntries
  congr 1
  funext entry
  unfold TypeStates.alternates?
  cases Entries.get? states entry.2 <;> rfl

/-- An alternate name leads to the first named type that has it.
Witness: the entries of each type all lead to its slot, so the first entry with the name is one of
the first such type.
-/
theorem get?_alternateNames (registry : Registry) (bindings : Bindings) (states : TypeStates)
    (name : String)
    : Entries.get? (build registry bindings states).alternateNames name
      = (registry.records.zipIdx.find? (answers states name)).map Prod.snd := by
  let has (entry : TypeRecord × Slot) : Bool :=
    decide (name ∈ (states.alternates? entry.2).getD [])
  let types := registry.records.zipIdx.filter fun entry => entry.1.isNamedType
  have built
      : (build registry bindings states).alternateNames
        = Entries.insertAllNew [] (alternateEntries registry states) :=
    rfl
  calc
    Entries.get? (build registry bindings states).alternateNames name
        = Entries.get? (alternateEntries registry states) name := by
      rw [built, Entries.get?_insertAllNew]
      rfl
    _ = types.findSome? fun entry => if has entry then some entry.2 else none := by
      rw [alternateEntries_eq, Entries.get?_flatMap]
      simp only [get?_sameValue, types, has, decide_eq_true_eq]
    _ = (types.find? has).map Prod.snd := by
      rw [findSome?_eq_find? has (fun entry => by cases has entry <;> rfl)]
      cases first : types.find? has with
      | none => rfl
      | some entry => simp [List.find?_some first]
    _ = (registry.records.zipIdx.find? (answers states name)).map Prod.snd := by
      rw [List.find?_filter]
      congr 2
      funext entry
      simp [answers, has]

/-- An alternate name leads to the first slot that answers to it. -/
theorem get?_alternateNames_eq_some_iff
    : Entries.get? (build registry bindings states).alternateNames name = some slot
      ↔ AnswersAt registry states name slot
        ∧ ∀ lower, lower < slot → ¬ AnswersAt registry states name lower := by
  rw [get?_alternateNames, find?_zipIdx_eq_some_iff]
  simp only [AnswersAt, Registry.get?, not_exists, not_and, Bool.not_eq_true]
  exact and_congr_right fun _ => forall_congr' fun lower => forall_comm

/-- It leads nowhere if no type has it. -/
theorem get?_alternateNames_eq_none_iff
    : Entries.get? (build registry bindings states).alternateNames name = none
      ↔ ∀ slot, ¬ AnswersAt registry states name slot := by
  rw [get?_alternateNames, find?_zipIdx_eq_none_iff]
  simp only [AnswersAt, Registry.get?, not_exists, not_and, Bool.not_eq_true]

/-- A name that no type has leads to the first slot that answers to it. -/
theorem getType_build_of_first (unnamed : registry.findByName name = none)
    (answered : AnswersAt registry states name slot)
    (first : ∀ lower, lower < slot → ¬ AnswersAt registry states name lower)
    : (build registry bindings states).getType name = registry.get? slot := by
  have nothing : (build registry bindings states).registry.findByName name = none := unnamed
  rw [getType, nothing, Option.none_or, get?_alternateNames_eq_some_iff.mpr ⟨answered, first⟩]
  rfl

/-- No type of the graph goes by a name that none has, as its own or as an alternate one. -/
theorem getType_build_of_nowhere (unnamed : registry.findByName name = none)
    (nowhere : ∀ slot, ¬ AnswersAt registry states name slot)
    : (build registry bindings states).getType name = none := by
  have nothing : (build registry bindings states).registry.findByName name = none := unnamed
  rw [getType, nothing, Option.none_or, get?_alternateNames_eq_none_iff.mpr nowhere]
  rfl

-----------------------------------------------------------------------------------------
-- Types and the extensions merged into them
-----------------------------------------------------------------------------------------

/-- The slot of the graph holds a named type with the alternate name, be it the type's own or that
of an extension merged into it.
-/
def HasAlternate (graph : TypeGraph) (merges : List Merging.Merge) (name : String)
    (slot : Slot) : Prop :=
  ∃ record,
    graph.registry.get? slot = some record
    ∧ record.isNamedType = true
    ∧ Merging.IsAlternate merges name slot record

/-- The merges are those of the graph's extensions, each into the named type that has its name. -/
structure MergedBy (graph : TypeGraph) (merges : List Merging.Merge) : Prop where
  extension
    : ∀ merge ∈ merges,
        graph.registry.get? merge.slot = some merge.extension
        ∧ merge.extension.isExtension = true
  merged
    : ∀ slot extension baseSlot base,
        graph.registry.get? slot = some extension
        → extension.isExtension = true
        → graph.registry.get? baseSlot = some base
        → ((∃ merge ∈ merges, merge.slot = slot ∧ merge.baseSlot = baseSlot)
            ↔ base.isNamedType = true ∧ base.name = extension.name)

end TypeGraph

-----------------------------------------------------------------------------------------
-- The types of a run that publishes
-----------------------------------------------------------------------------------------

namespace Registry

variable {registry : Registry} {slot : Slot} {record : TypeRecord} {name : String}

/-- A key that does not start with the sign of directives is the name of a named type. -/
theorem isNamedType_of_nameKey (plain : ∀ rest, name ≠ "@" ++ rest)
    (keyed : nameKey record = some name)
    : record.isNamedType = true ∧ record.name = some name := by
  rcases nameKey_eq_some_iff.mp keyed with own | ⟨own, same, -⟩
  · exact own
  · exact absurd same (plain own)

/-- Where names hold and all types are named, a name leads to the type that has it. -/
theorem Named.findByName_eq_some_iff (named : registry.Named) (hold : registry.NamesHold)
    (plain : ∀ rest, name ≠ "@" ++ rest) (found : registry.get? slot = some record)
    : registry.findByName name = some slot
      ↔ record.isNamedType = true ∧ record.name = some name := by
  constructor
  · intro leads
    have keyed := hold.nameKey_of_findByName leads
    rw [found] at keyed
    exact isNamedType_of_nameKey plain keyed
  · rintro ⟨isType, isNamed⟩
    obtain ⟨_, -, -, leads⟩ := named.name_of_get? found
    exact leads name (nameKey_of_isNamedType isType isNamed)

/-- A name that no type has is not found.
Witness: what is found by a name has it for its key, and without the mark it is no directive.
-/
theorem NamesHold.findByName_eq_none (hold : registry.NamesHold)
    (plain : ∀ rest, name ≠ "@" ++ rest)
    (unnamed : ∀ record ∈ registry.records, record.isNamedType = true → record.name ≠ some name)
    : registry.findByName name = none := by
  rw [Option.eq_none_iff_forall_ne_some]
  intro slot leads
  obtain ⟨record, found, keyed⟩ :=
    Option.bind_eq_some_iff.mp (hold.nameKey_of_findByName leads)
  obtain ⟨isType, isNamed⟩ := isNamedType_of_nameKey plain keyed
  exact unnamed record (mem_records_of_get? found) isType isNamed

end Registry

namespace Plan

variable {plan : Plan} {slot baseSlot : Slot} {record : TypeRecord} {name : String}

/-- From the naming to the end of a run in which nothing is wrong, a reference may lead to the same
slots, and the types there have the standing that they had.
-/
theorem unshifted_progress (distinct : plan.catalog.Distinct)
    (clean : plan.progress.problems = [])
    : Unshifted plan.namedProgress.registry plan.progress.registry := by
  obtain ⟨whole, -⟩ := progress_eq_of_problems clean
  obtain ⟨settled, current⟩ := plan.nameTypes_settled (discoverTypes_settled distinct)
  have merged := plan.later_revisions plan.mergeExtensions (by simp) plan.namedProgress
  have completed := plan.later_revisions plan.completeTypes (by simp) plan.compiledProgress
  have revisions : Revisions plan.namedProgress.registry plan.progress.registry := by
    rw [whole, registry_validateTypes]
    exact merged.trans completed
  exact (revisions.unshifted settled current).1

/-- The merging of such a run reports nothing. -/
theorem errors_merging (clean : plan.compiledProgress.errors = [])
    : (Merging.run plan.options.unmatchedExtensions plan.namedProgress.merging).errors
      = plan.namedProgress.merging.errors := by
  obtain ⟨merged, -⟩ := List.append_eq_nil_iff.mp clean
  have nothing
      : (Merging.run plan.options.unmatchedExtensions plan.namedProgress.merging).errors = [] :=
    merged
  have before := Merging.errors_run plan.options.unmatchedExtensions plan.namedProgress.merging
  rw [nothing] at before ⊢
  exact (List.prefix_nil.mp before).symm

/-- In the end, every type is completed as it was when the bindings were compiled. -/
theorem get?_progress (distinct : plan.catalog.Distinct) (clean : plan.progress.problems = [])
    (slot : Slot)
    : plan.progress.registry.get? slot
      = (plan.compiledProgress.registry.get? slot).map
          (plan.withCompletion plan.compiledProgress) :=
  (graph_get? distinct (plan.run_of_problems clean)).1 slot

/-- When the extensions are merged, every type is named and found. -/
theorem poised_merging (distinct : plan.catalog.Distinct)
    (clean : plan.namedProgress.errors = [])
    : plan.namedProgress.merging.registry.Poised :=
  (namedProgress_entered distinct clean).1

/-- Merging leaves the outlines that the naming has made. -/
theorem outlines_compiledProgress (distinct : plan.catalog.Distinct)
    (clean : plan.namedProgress.errors = [])
    : plan.compiledProgress.registry.outlines = plan.namedProgress.registry.outlines :=
  Merging.outlines_run (poised_merging distinct clean) plan.options.unmatchedExtensions

/-- So does completing, which changes no outline. -/
theorem outlines_progress (distinct : plan.catalog.Distinct)
    (clean : plan.progress.problems = [])
    : plan.progress.registry.outlines = plan.compiledProgress.registry.outlines := by
  apply List.ext_getElem?
  intro slot
  have here := congrArg (Option.map fun record => record.definition.outline)
    (get?_progress distinct clean slot)
  rw [Option.map_map] at here
  rw [outlines, outlines, List.getElem?_map, List.getElem?_map]
  refine here.trans ?_
  congr 1
  funext record
  exact Completion.outline_complete _ _

/-- Behind the merging, the index of names is left alone. -/
theorem byName_progress (clean : plan.progress.problems = [])
    : plan.progress.registry.byName = plan.compiledProgress.registry.byName := by
  rw [(progress_eq_of_problems clean).1, registry_validateTypes, byName_completeTypes]

/-- At the end of such a run, the key of every name leads to a type that has it. -/
theorem namesHold_progress (distinct : plan.catalog.Distinct)
    (clean : plan.progress.problems = [])
    : plan.progress.registry.NamesHold := by
  have compiled : plan.compiledProgress.registry.NamesHold := namesHold_rebuild _
  intro entry member
  rw [byName_progress clean] at member
  rw [Merging.bind_nameKey_congr (outlines_progress distinct clean)]
  exact compiled entry member

-----------------------------------------------------------------------------------------
-- Looking up names
-----------------------------------------------------------------------------------------

/-- Witness: what the state of a type has in the end was taken on at its naming and its merges. -/
theorem answersAt_progress_iff (distinct : plan.catalog.Distinct)
    (clean : plan.progress.problems = [])
    : TypeGraph.AnswersAt plan.progress.registry plan.progress.state.states name slot
      ↔ plan.progress.graph.HasAlternate (Merging.merges plan.namedProgress.registry) name slot
    := by
  have unshifted := unshifted_progress distinct clean
  have answers {record : TypeRecord} (found : plan.progress.registry.get? slot = some record)
      : name ∈ (plan.progress.alternates? slot).getD []
        ↔ Merging.IsAlternate (Merging.merges plan.namedProgress.registry) name slot record := by
    obtain ⟨earlier, there, same⟩ := unshifted.symm.exists_get? found
    obtain ⟨names, here, members⟩ := exists_alternates_progress distinct clean there
    rw [here, Option.getD_some, members]
    exact Merging.IsAlternate.congr (congrArg Standing.discovered same)
  refine exists_congr fun record => and_congr_right fun found => ?_
  rw [TypeGraph.answers, Bool.and_eq_true, decide_eq_true_eq]
  exact and_congr_right fun _ => answers found

/-- Extensions that were merged are what they were when they were named. -/
theorem get?_progress_of_mem_merges (distinct : plan.catalog.Distinct)
    (clean : plan.progress.problems = []) {merge : Merging.Merge}
    (member : merge ∈ Merging.merges plan.namedProgress.registry)
    : plan.progress.registry.get? merge.slot = some merge.extension
      ∧ merge.extension.isExtension = true := by
  obtain ⟨-, errors, -, -⟩ := progress_eq_of_problems clean
  have poised := poised_merging distinct errors
  have listed := Merging.mem_planned_of_mem_merges poised member
  obtain ⟨-, found, extension⟩ := Merging.isBase_of_mem_planned poised listed
  have compiled : plan.compiledProgress.registry.get? merge.slot = some merge.extension :=
    Merging.get?_run_of_isExtension poised plan.options.unmatchedExtensions found extension
  refine ⟨?_, extension⟩
  rw [get?_progress distinct clean, compiled, Option.map_some,
    (plan.completed_of_isExtension _ extension).1]

/-- So the names lead where they led when all types were named. -/
theorem findByName_progress (distinct : plan.catalog.Distinct)
    (clean : plan.progress.problems = [])
    : plan.progress.registry.findByName = plan.namedProgress.registry.findByName := by
  obtain ⟨-, errors, -, -⟩ := progress_eq_of_problems clean
  have compiled : plan.compiledProgress.registry.findByName = _ :=
    Merging.findByName_run (poised_merging distinct errors) plan.options.unmatchedExtensions
  refine Eq.trans ?_ compiled
  funext name
  rw [findByName, findByName, byName_progress clean]

/-- Witness: the run is free of errors, and the names have led to the same types since the naming.
-/
theorem mergedBy_progress (distinct : plan.catalog.Distinct)
    (clean : plan.progress.problems = [])
    : plan.progress.graph.MergedBy (Merging.merges plan.namedProgress.registry) := by
  refine ⟨fun merge => get?_progress_of_mem_merges distinct clean, ?_⟩
  intro slot extension baseSlot base found isExtension foundBase
  obtain ⟨-, errors, compiled, -⟩ := progress_eq_of_problems clean
  obtain ⟨-, hold, -⟩ := namedProgress_entered distinct errors
  have named : plan.progress.registry.Named := (named_and_complete_of_problems distinct clean).1
  obtain ⟨name, isNamed, valid, -⟩ := named.name_of_get? found
  -- The extension had the name when it was named.
  have views :=
    map_outline_get?
      ((outlines_progress distinct clean).trans (outlines_compiledProgress distinct errors))
      slot
  rw [show plan.progress.registry.get? slot = some extension from found, Option.map_some] at views
  obtain ⟨earlier, there, outline⟩ := Option.map_eq_some_iff.mp views.symm
  have sameName : earlier.name = some name := (Definition.name_congr outline).trans isNamed
  rw [isNamed, ← named.findByName_eq_some_iff (namesHold_progress distinct clean)
      (Naming.ne_at_append valid) foundBase,
    findByName_progress distinct clean]
  refine (Merging.exists_merge_iff hold (errors_merging compiled)).trans ?_
  constructor
  · rintro ⟨other, own, here, -, isOwn, leads⟩
    cases Option.some.inj (there.symm.trans here)
    cases Option.some.inj (sameName.symm.trans isOwn)
    exact leads
  · intro leads
    exact ⟨earlier, name, there, (Definition.isExtension_congr outline).trans isExtension,
      sameName, leads⟩

/-- What a type of the graph was found out to be, a descriptor of the catalogue says.
Witness: no stage behind the discovery changes the standing of a type.
-/
theorem exists_descriptor (distinct : plan.catalog.Distinct)
    (clean : plan.progress.problems = []) (found : plan.progress.registry.get? slot = some record)
    : ∃ descriptor ∈ plan.catalog,
        record.primary = descriptor.schemaReference ∧ record.discovered = descriptor.discovered
    := by
  obtain ⟨-, errors, -, -⟩ := progress_eq_of_problems clean
  obtain ⟨-, -, linked, -⟩ := namedProgress_entered distinct errors
  have unshifted := linked.toUnshifted.trans (unshifted_progress distinct clean)
  obtain ⟨earlier, there, same⟩ := unshifted.symm.exists_get? found
  have settled : plan.discoveredProgress.registry.Settled := discoverTypes_settled distinct
  rw [linkInterfaces_get? settled.anchored] at there
  obtain ⟨origin, here, rfl⟩ := Option.map_eq_some_iff.mp there
  have recordsOf : plan.discoveredProgress.registry.RecordsOf plan.catalog := by
    refine recordsOf_discoverFrom gathered_empty ?_ [] plan.seeds
    exact fun record member => absurd member List.not_mem_nil
  obtain ⟨descriptor, member, isOf⟩ := recordsOf origin (mem_records_of_get? here)
  have standing : origin.standing = record.standing :=
    (TypeRecord.standing_linked _ _ origin).symm.trans same
  refine ⟨descriptor, member, ?_, ?_⟩
  · exact (TypeRecord.primary_congr (references_congr standing)).symm.trans isOf.primary
  · exact (congrArg Standing.discovered standing).symm.trans isOf.discovered

/-- In a published graph a name that does not start with the sign of directives leads to the named
type that has it. Where there is none, it leads to the lowest slot whose type has the alternate
name, as its descriptor or that of an extension merged into it declares, and where there is no such
slot, to nothing.
Witness: the names lead where they led when all types were named, and the alternate names are those
of the discovery and of the merges.
-/
theorem run_getType {handle : Handle} {graph : TypeGraph} (distinct : plan.catalog.Distinct)
    (published : (plan.run handle).result = .ok graph)
    : let merges := Merging.merges plan.namedProgress.registry
      graph.MergedBy merges
      ∧ (∀ record ∈ graph.registry.records,
          ∃ descriptor ∈ plan.catalog,
            record.primary = descriptor.schemaReference
            ∧ record.discovered = descriptor.discovered)
      ∧ ∀ name,
          (∀ rest, name ≠ "@" ++ rest)
          → (∀ record ∈ graph.namedTypes,
              record.name = some name → graph.getType name = some record)
            ∧ ((∀ record ∈ graph.namedTypes, record.name ≠ some name)
              → (∀ slot,
                  graph.HasAlternate merges name slot
                  → (∀ lower, lower < slot → ¬ graph.HasAlternate merges name lower)
                  → graph.getType name = graph.registry.get? slot)
                ∧ ((∀ slot, ¬ graph.HasAlternate merges name slot)
                  → graph.getType name = none)) := by
  obtain ⟨clean, rfl⟩ := graph_of_run published
  intro merges
  have answers (name : String) (slot : Slot)
      : TypeGraph.AnswersAt plan.progress.registry plan.progress.state.states name slot
        ↔ plan.progress.graph.HasAlternate merges name slot :=
    answersAt_progress_iff distinct clean
  refine ⟨mergedBy_progress distinct clean, ?_, ?_⟩
  · intro record member
    obtain ⟨slot, found⟩ := exists_get?_of_mem member
    exact exists_descriptor distinct clean found
  · intro name plain
    constructor
    · intro record member isNamed
      obtain ⟨stored, isType⟩ := List.mem_filter.mp member
      have named := (named_and_complete_of_problems distinct clean).1
      exact TypeGraph.getType_of_name named stored isType isNamed
    · intro unnamed
      have nothing : plan.progress.registry.findByName name = none :=
        (namesHold_progress distinct clean).findByName_eq_none plain fun record member isType =>
          unnamed record (List.mem_filter.mpr ⟨member, isType⟩)
      constructor
      · intro slot has first
        exact TypeGraph.getType_build_of_first nothing ((answers name slot).mpr has)
          fun lower below answered => first lower below ((answers name lower).mp answered)
      · intro nowhere
        exact TypeGraph.getType_build_of_nowhere nothing fun slot answered =>
          nowhere slot ((answers name slot).mp answered)

end Plan

-----------------------------------------------------------------------------------------
-- A plan with alternate names
-----------------------------------------------------------------------------------------

namespace Greetings

/-- The type with these alternate names. -/
def alsoCalled (descriptor : Descriptor) (alternateNames : List String) : Descriptor :=
  { descriptor with discovered := { descriptor.discovered with alternateNames } }

/-- The greetings, in which the extension and the scalar type have alternate names. One of the
extension's is the name of the scalar type.
-/
def renamed : Plan :=
  { plan with
    catalog :=
      [
        .ofDefinition (query "Query" "hello"),
        alsoCalled (.ofDefinition (.extension (query "MoreQuery" "goodbye"))) ["Start", "Text"],
        alsoCalled (.ofDefinition (.scalar ⟨⟨⟨"Text"⟩, some "Text", none, RuntimeType.object⟩⟩))
          ["Start"],
        .ofDefinition (.directive polite)
      ] }

theorem renamed_distinct : renamed.catalog.Distinct where
  canonical := by decide
  aliases := by decide

def renamedPublication : renamed.Publication :=
  renamed.publish (by cbv)

end Greetings

namespace Plan

/-- The extension passes its alternate names on to the query type, which comes before the scalar
type. It does not take the scalar type's name.
-/
theorem renamed_getType
    : let graph := Greetings.renamed.progress.graph
      Greetings.renamed.catalog.Distinct
      ∧ (Greetings.renamed.run .unbound).result = .ok graph
      ∧ graph.namedTypes.map TypeRecord.name = [some "Query", some "Text"]
      ∧ graph.getType "Start" = graph.registry.get? 0
      ∧ ∀ record ∈ graph.namedTypes,
          record.name = some "Text" → graph.getType "Text" = some record := by
  intro graph
  have published : (Greetings.renamed.run .unbound).result = .ok graph :=
    Greetings.renamedPublication.published
  obtain ⟨merged, -, leads⟩ := run_getType Greetings.renamed_distinct published
  have names : graph.namedTypes.map TypeRecord.name = [some "Query", some "Text"] := by cbv
  let view (record : TypeRecord) :=
    (record.isExtension, record.isNamedType, record.name, record.discovered.alternateNames)
  have views
      : [graph.registry.get? 0, graph.registry.get? 1].map (Option.map view)
        = [some (false, true, some "Query", []),
            some (true, false, some "Query", ["Start", "Text"])] := by
    cbv
  obtain ⟨first, second⟩ := List.cons.inj views
  obtain ⟨base, foundBase, baseView⟩ := Option.map_eq_some_iff.mp first
  obtain ⟨extension, found, extensionView⟩ :=
    Option.map_eq_some_iff.mp (List.cons.inj second).1
  simp only [view, Prod.mk.injEq] at baseView extensionView
  obtain ⟨-, isType, baseName, -⟩ := baseView
  obtain ⟨isExtension, -, extensionName, declared⟩ := extensionView
  refine ⟨Greetings.renamed_distinct, published, names, ?_,
    (leads "Text" (Naming.ne_at_append (by decide))).1⟩
  · obtain ⟨merge, member, same, into⟩ :=
      (merged.merged 1 extension 0 base found isExtension foundBase).mpr
        ⟨isType, baseName.trans extensionName.symm⟩
    have own : merge.extension = extension := by
      have here := (merged.extension merge member).1
      rw [same, found] at here
      exact (Option.some.inj here).symm
    have has : graph.HasAlternate _ "Start" 0 :=
      ⟨base, foundBase, isType, .inr ⟨merge, member, into, by rw [own, declared]; decide⟩⟩
    have unnamed : ∀ record ∈ graph.namedTypes, record.name ≠ some "Start" := by
      intro record listed isNamed
      have among : record.name ∈ graph.namedTypes.map TypeRecord.name := List.mem_map_of_mem listed
      rw [names, isNamed] at among
      revert among
      decide
    have first := (leads "Start" (Naming.ne_at_append (by decide))).2 unnamed
    exact first.1 0 has fun lower below => absurd below (Nat.not_lt_zero lower)

end Plan
end SchemaGraph
