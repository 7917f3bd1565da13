import Mathlib.Data.List.Basic
import SchemaGraph.Proofs.Completion.Planned
import SchemaGraph.Proofs.Definition.Merging
import SchemaGraph.Proofs.Registry.Permanence
import SchemaGraph.Proofs.Registry.References

/-! Merging a second time.
A second run merges the same extensions in the same order. Meanwhile the bases take on what they
had before, and at its end they are what they were after the first run, as are bindings, states and
names. The references of the types are the keys again. If the first run has put them into more
buckets than there were, the second one may do so in another order, and a reference on which keys of
several types agree may lead to another one of these.
-/

namespace SchemaGraph

open Registry

namespace Merging

variable {registry before after : Registry} {slot : Slot} {record : TypeRecord}

-----------------------------------------------------------------------------------------
-- The extensions of one base
-----------------------------------------------------------------------------------------

/-- The dependencies with those of the extension that lead to something new. -/
def mergedDependencies (registry : Registry) (dependencies : List Dependency)
    (extension : TypeRecord) : List Dependency :=
  Dependency.addAll dependencies
    (extension.dependencies.filter fun dependency =>
      !(canonicalDependency registry dependency).isIn
        (dependencies.map (canonicalDependency registry)))

/-- Each dependency of the extension is there, by itself or by what it leads to. -/
def DependsAs (registry : Registry) (dependencies : List Dependency) (extension : TypeRecord)
    : Prop :=
  ∀ dependency ∈ extension.dependencies,
    (canonicalDependency registry dependency).isIn
        (dependencies.map (canonicalDependency registry)) = true
    ∨ dependency.isIn dependencies = true

/-- Dependencies that are merged stay, and those that are there bring nothing when they are merged
again.
Witness: each is there by itself, or by one that leads to the same type.
-/
theorem absorbing_mergedDependencies (registry : Registry)
    : Absorbing (mergedDependencies registry) (DependsAs registry) where
  gains dependencies extension := by
    intro dependency declared
    by_cases known
      : (canonicalDependency registry dependency).isIn
          (dependencies.map (canonicalDependency registry)) = true
    · refine Or.inl (Dependency.isIn_mono ?_ known)
      exact List.map_subset _ (Dependency.subset_addAll _ _)
    · refine Or.inr (Dependency.absorbing_addTo.gains_foldl dependencies ?_)
      exact List.mem_filter.mpr ⟨declared, by simp [known]⟩
  stays {dependencies extension} other here := by
    intro dependency declared
    rcases here dependency declared with known | own
    · exact Or.inl (Dependency.isIn_mono (List.map_subset _ (Dependency.subset_addAll _ _)) known)
    · exact Or.inr (Dependency.isIn_mono (Dependency.subset_addAll _ _) own)
  keeps {dependencies extension} here := by
    apply Dependency.absorbing_addTo.foldl_of_has
    intro dependency member
    obtain ⟨declared, unknown⟩ := List.mem_filter.mp member
    rcases here dependency declared with known | own
    · simp [known] at unknown
    · exact own

/-- Extensions merge their definitions and their dependencies, each apart from the other. -/
theorem foldl_mergedRecord (registry : Registry) (extensions : List TypeRecord)
    (record : TypeRecord)
    : extensions.foldl (mergedRecord registry) record
      = { record with
          definition :=
            (extensions.filterMap fun extension => extension.definition.extensionBody?).foldl
              Definition.merge record.definition
          dependencies := extensions.foldl (mergedDependencies registry) record.dependencies } := by
  induction extensions generalizing record with
  | nil => rfl
  | cons extension rest ih =>
      rw [List.foldl_cons, ih, List.filterMap_cons]
      unfold mergedRecord
      cases extension.definition.extensionBody? <;> rfl

/-- Merging the same extensions again changes nothing, in the definition or the dependencies. -/
theorem foldl_mergedRecord_twice (registry : Registry) (extensions : List TypeRecord)
    (record : TypeRecord)
    : extensions.foldl (mergedRecord registry) (extensions.foldl (mergedRecord registry) record)
      = extensions.foldl (mergedRecord registry) record := by
  rw [foldl_mergedRecord, foldl_mergedRecord]
  simp only [Definition.foldl_merge_twice,
    (absorbing_mergedDependencies registry).foldl_twice]

-----------------------------------------------------------------------------------------
-- The bases
-----------------------------------------------------------------------------------------

/-- A reference stands for the same canonical reference in a registry that tracks another one. -/
theorem canonicalOrSelf_congr (tracks : Tracks before after)
    : after.canonicalOrSelf = before.canonicalOrSelf := by
  funext reference
  have located : after.locate reference = before.locate reference := by
    unfold locate
    rw [tracks.find, tracks.findByName]
  unfold canonicalOrSelf resolve
  rw [located]
  cases before.locate reference with
  | none => rfl
  | some slot =>
      rw [Option.bind_some, Option.bind_some]
      cases found : before.get? slot with
      | none => rw [tracks.toUnmoved.get?_eq_none found]
      | some record =>
          obtain ⟨later, there, same⟩ := tracks.toUnmoved.exists_get? found
          rw [there]
          exact TypeRecord.primary_congr (references_congr same)

/-- So an extension adds the same to a base there. -/
theorem mergedRecord_congr (tracks : Tracks before after)
    : mergedRecord after = mergedRecord before := by
  have canonical : canonicalDependency after = canonicalDependency before := by
    funext dependency
    rw [canonicalDependency, canonicalDependency, canonicalOrSelf_congr tracks]
  funext base extension
  simp only [mergedRecord, newDependencies, canonical]

/-- The type in the slot with all that is added to it. -/
def extended (registry : Registry) (additions : List Addition) (slot : Slot)
    (record : TypeRecord) : TypeRecord :=
  ((additions.filter fun addition => addition.baseSlot = slot).map Addition.extension).foldl
    (mergedRecord registry) record

/-- What is added to a type is added in the order of the plan, and what is added to others does not
matter.
-/
theorem extended_cons (registry : Registry) (addition : Addition) (rest : List Addition)
    (slot : Slot)
    : extended registry (addition :: rest) slot
      = if addition.baseSlot = slot then
          fun record =>
            extended registry rest slot (mergedRecord registry record addition.extension)
        else
          extended registry rest slot := by
  funext record
  by_cases own : addition.baseSlot = slot <;> simp [extended, own]

/-- A type that has all that is added to it takes on nothing more. -/
theorem extended_twice (registry : Registry) (additions : List Addition) (slot : Slot)
    (record : TypeRecord)
    : extended registry additions slot (extended registry additions slot record)
      = extended registry additions slot record :=
  foldl_mergedRecord_twice registry _ record

/-- At the end of the merges every type has what is added to it, whatever was merged in between.
Witness: induction on the merges; each adds to its own base what it would add at the start.
-/
theorem get?_foldl_store (anchored : before.Anchored) (covered : before.Covered)
    {merges : List Merge} (tracks : Tracks before after) (traced : Traced after merges)
    (slot : Slot)
    : (merges.foldl store after).get? slot
      = (after.get? slot).map (extended before (merges.map Merge.toAddition) slot) := by
  induction merges generalizing after with
  | nil => exact Option.map_id'.symm
  | cons merge rest ih =>
      obtain ⟨found, -, -, later⟩ := traced
      have stores :=
        (anchored.unmoved tracks.toUnmoved).stores found
          (references_congr (standing_mergedRecord after merge.base merge.extension))
      rw [List.foldl_cons, ih (tracks.store anchored covered found) later]
      by_cases own : merge.baseSlot = slot
      · subst own
        have stored : (store after merge).get? merge.baseSlot = some _ := stores.self
        rw [stored, found, mergedRecord_congr tracks, List.map_cons, extended_cons, if_pos rfl]
        rfl
      · have kept : (store after merge).get? slot = after.get? slot := stores.others slot own
        rw [kept, List.map_cons, extended_cons, if_neg own]

/-- At the end of a run every type has what was merged into it. -/
theorem get?_run_merges {merging : Merging} (anchored : merging.registry.Anchored)
    (covered : merging.registry.Covered) (policy : UnmatchedPolicy) (slot : Slot)
    : (run policy merging).registry.get? slot
      = (merging.registry.get? slot).map
          (extended merging.registry ((merges merging.registry).map Merge.toAddition) slot) := by
  rw [registry_run, get?_rebuild]
  exact get?_foldl_store anchored covered (.refl _) (traced_merges _) slot

-----------------------------------------------------------------------------------------
-- The states
-----------------------------------------------------------------------------------------

/-- Passes the alternate names of the extension on to the state of the base. The names are those
that the extension has at the start.
-/
def addNames (start : Merging) (states : TypeStates) (addition : Addition) : TypeStates :=
  let state := (Entries.get? states addition.baseSlot).getD (TypeState.new [])
  Entries.insert states addition.baseSlot
    (state.addNames (alternateNames start.registry start.states addition.slot))

/-- Names that are passed on stay, and those that are there bring nothing when they are passed on
again.
-/
theorem absorbing_addNames (start : Merging)
    : Absorbing (addNames start) fun states addition =>
        ∃ state,
          Entries.get? states addition.baseSlot = some state
          ∧ ∀ name ∈ alternateNames start.registry start.states addition.slot,
              name ∈ state.alternateNames where
  gains states addition := by
    refine ⟨_, by rw [addNames, Entries.get?_insert, if_pos rfl], ?_⟩
    intro name member
    exact absorbing_mem.gains_foldl _ member
  stays {states addition} other := by
    rintro ⟨state, found, all⟩
    by_cases own : other.baseSlot = addition.baseSlot
    · refine ⟨_, by rw [addNames, own, Entries.get?_insert, if_pos rfl], ?_⟩
      intro name member
      rw [found]
      exact absorbing_mem.stays_foldl (all name member) _
    · exact ⟨state, by rw [addNames, Entries.get?_insert, if_neg own, found], all⟩
  keeps {states addition} := by
    rintro ⟨state, found, all⟩
    have same
        : state.addNames (alternateNames start.registry start.states addition.slot) = state := by
      unfold TypeState.addNames
      rw [absorbing_mem.foldl_of_has all]
    rw [addNames, found, Option.getD_some, same, Entries.insert_of_get? found]

/-- The extensions have the states that they have at the start. -/
def SameStates (start : Merging) (states : TypeStates) : Prop :=
  ∀ ⦃slot record⦄,
    start.registry.get? slot = some record
    → record.isExtension = true
    → Entries.get? states slot = Entries.get? start.states slot

/-- A base is no extension, so its state is none of those that must stay. -/
theorem SameStates.addNames {start : Merging} {states : TypeStates}
    (same : SameStates start states) {addition : Addition}
    (isBase : IsBase start.registry addition.baseSlot)
    : SameStates start (addNames start states addition) := by
  intro slot record found extension
  rw [Merging.addNames, Entries.get?_insert, if_neg]
  · exact same found extension
  · rintro rfl
    rw [isBase record found] at extension
    cases extension

/-- Passing on the names of one extension after the other leaves the extensions their states. -/
theorem SameStates.foldl_addNames {start : Merging} {states : TypeStates}
    (same : SameStates start states) {additions : List Addition}
    (bases : ∀ addition ∈ additions, IsBase start.registry addition.baseSlot)
    : SameStates start (additions.foldl (Merging.addNames start) states) := by
  induction additions generalizing states with
  | nil => exact same
  | cons addition rest ih =>
      exact ih (same.addNames (bases addition List.mem_cons_self)) fun other member =>
        bases other (List.mem_cons_of_mem addition member)

/-- An extension has the alternate names that it has at the start. -/
theorem alternateNames_congr {start : Merging} {states : TypeStates}
    (keeps : Keeps start.registry after) (same : SameStates start states)
    (found : start.registry.get? slot = some record) (extension : record.isExtension = true)
    : alternateNames after states slot = alternateNames start.registry start.states slot := by
  rw [alternateNames, alternateNames, same found extension, found, keeps.extensions found extension]

/-- The states after the merges are those after passing on the names.
Witness: induction on the trace; until an extension has its turn, it has the state that it had at
the start.
-/
theorem states_foldl_apply {start merging : Merging} (poised : start.registry.Poised)
    {merges : List Merge} (keeps : Keeps start.registry merging.registry)
    (same : SameStates start merging.states) (traced : Traced merging.registry merges)
    (listed : ∀ merge ∈ merges, merge.toAddition ∈ planned start.registry)
    : (merges.foldl apply merging).states
      = (merges.map Merge.toAddition).foldl (addNames start) merging.states := by
  induction merges generalizing merging with
  | nil => rfl
  | cons merge rest ih =>
      obtain ⟨found, -, -, later⟩ := traced
      obtain ⟨isBase, foundExtension, extension⟩ :=
        isBase_of_mem_planned poised (listed merge List.mem_cons_self)
      have stored := keeps.store poised found isBase
      have here
          : (merging.apply merge).states = addNames start merging.states merge.toAddition := by
        rw [addNames, ← alternateNames_congr stored same foundExtension extension]
        rfl
      rw [List.foldl_cons, List.map_cons, List.foldl_cons, ← here]
      refine ih stored ?_ later fun other member => listed other (List.mem_cons_of_mem merge member)
      rw [here]
      exact same.addNames isBase

-----------------------------------------------------------------------------------------
-- Runs
-----------------------------------------------------------------------------------------

section

variable {merging : Merging} (poised : merging.registry.Poised) (policy : UnmatchedPolicy)
include poised

/-- At the end of a run every type has what was planned for it. -/
theorem get?_run (slot : Slot)
    : (run policy merging).registry.get? slot
      = (merging.registry.get? slot).map
          (extended merging.registry (planned merging.registry) slot) := by
  rw [get?_run_merges poised.anchored poised.covered, additions_merges poised (.refl _)]

/-- The names are passed on in the order of the plan. -/
theorem states_run_planned
    : (run policy merging).states
      = (planned merging.registry).foldl (addNames merging) merging.states := by
  rw [states_run, ← additions_merges poised (.refl _)]
  apply states_foldl_apply poised (.refl _) (fun _ _ _ _ => rfl) (traced_merges _)
  intro merge member
  exact mem_planned_of_mem_merges poised member

/-- Rebuilt indexes may find what they found, if perhaps in other buckets. -/
theorem unshifted_run (current : merging.registry.Current)
    : Unshifted merging.registry (run policy merging).registry := by
  rw [registry_run]
  have kept := (keeps_merges poised).toUnshifted
  exact kept.trans (current.unshifted kept).unshifted_rebuild

end

section

variable {merging again : Merging} {first : UnmatchedPolicy} (steady : merging.registry.Steady)
  (sameRegistry : again.registry = (run first merging).registry) (second : UnmatchedPolicy)
include steady sameRegistry

/-- The bases take on what they have already. -/
theorem records_run_again : (run second again).registry.records = again.registry.records := by
  have keeps : Keeps merging.registry again.registry := sameRegistry ▸ keeps_run steady first
  have poisedAgain : again.registry.Poised := sameRegistry ▸ poised_run steady first
  have same
      : extended again.registry (planned again.registry)
        = extended merging.registry (planned merging.registry) := by
    funext slot record
    rw [extended, extended, mergedRecord_congr keeps.tracks, sameRegistry, planned_run steady]
  apply List.ext_getElem?
  intro slot
  change (run second again).registry.get? slot = again.registry.get? slot
  rw [get?_run poisedAgain, same, sameRegistry, get?_run steady.poised, Option.map_map]
  congr 1
  funext record
  exact extended_twice _ _ _ _

/-- The second run stores the bindings that the first one stored, in the same order. -/
theorem bindings_run_again (sameBindings : again.bindings = (run first merging).bindings)
    : (run second again).bindings = again.bindings := by
  have keeps : Keeps merging.registry again.registry := sameRegistry ▸ keeps_run steady first
  have poisedAgain : again.registry.Poised := sameRegistry ▸ poised_run steady first
  rw [bindings_run_planned poisedAgain, plannedBindings_congr keeps, sameRegistry,
    planned_run steady, sameBindings, bindings_run_planned steady.poised, Entries.insertAll_twice]

/-- Witness: the extensions still have the states that they had, and so pass on the same names. -/
theorem states_run_again (sameStates : again.states = (run first merging).states)
    : (run second again).states = again.states := by
  have keeps : Keeps merging.registry again.registry := sameRegistry ▸ keeps_run steady first
  have poisedAgain : again.registry.Poised := sameRegistry ▸ poised_run steady first
  have unchanged : SameStates merging again.states := by
    rw [sameStates, states_run_planned steady.poised]
    exact SameStates.foldl_addNames (fun _ _ _ _ => rfl) fun addition member =>
      (isBase_of_mem_planned steady.poised member).1
  have same (states : TypeStates) (addition : Addition)
      (member : addition ∈ planned merging.registry)
      : addNames again states addition = addNames merging states addition := by
    obtain ⟨-, found, extension⟩ := isBase_of_mem_planned steady.poised member
    rw [addNames, addNames, alternateNames_congr keeps unchanged found extension]
  rw [states_run_planned poisedAgain, sameRegistry, planned_run steady,
    List.foldl_ext _ _ _ same, sameStates, states_run_planned steady.poised,
    (absorbing_addNames merging).foldl_twice]

/-- Two runs that rebuild the indexes in as many buckets leave the same look-ups.
Witness: neither run changes what the types are found by before it rebuilds the indexes.
-/
theorem find_run_again
    (buckets : again.registry.byReference.buckets = merging.registry.byReference.buckets)
    : (run second again).registry.find = again.registry.find := by
  have poisedAgain : again.registry.Poised := sameRegistry ▸ poised_run steady first
  have standings : again.registry.standings = merging.registry.standings :=
    sameRegistry ▸ (keeps_run steady first).standings
  rw [registry_run, sameRegistry.trans (registry_run first merging)]
  refine find_rebuild_congr ?_ ?_ <;> rw [← registry_run, ← sameRegistry]
  · rw [(keeps_merges poisedAgain).standings, (keeps_merges steady.poised).standings, standings]
  · rw [byReference_merges poisedAgain, byReference_merges steady.poised, buckets]

end

/-- Merging twice is merging once, whatever the policies are, in a registry in which every type is
found by its canonical reference and that rebuilding would not change. A look-up by a reference may
lead to the slots that it might lead to. It leads to the same one, unless keys of several types
agree with the reference and the first run has put the keys into more buckets.
Witness: the first run keeps all that the second one plans its merges by, and each of these brings
what is there already.
-/
theorem run_twice {merging : Merging} (steady : merging.registry.Steady)
    (first second : UnmatchedPolicy) (errors : List SchemaError) (merged dropped : Nat)
    : let once := run first merging
      let twice := run second { once with errors, merged, dropped }
      twice.registry.records = once.registry.records
      ∧ twice.bindings = once.bindings
      ∧ twice.states = once.states
      ∧ (∀ reference slot,
        twice.registry.MayFind reference slot ↔ once.registry.MayFind reference slot)
      ∧ (∀ reference,
        once.registry.Decides reference
          ∨ once.registry.byReference.buckets = merging.registry.byReference.buckets
        → twice.registry.find reference = once.registry.find reference)
      ∧ (∀ type position scope,
        twice.registry.findRuntime type position scope
        = once.registry.findRuntime type position scope)
      ∧ (∀ name, twice.registry.findByName name = once.registry.findByName name)
      ∧ ∀ name, twice.registry.findDirective name = once.registry.findDirective name := by
  intro once twice
  let again : Merging := { once with errors, merged, dropped }
  have poisedAgain : again.registry.Poised := poised_run steady first
  have sameRegistry : again.registry = (run first merging).registry := rfl
  have current : again.registry.Current := by
    rw [sameRegistry, registry_run]
    exact current_rebuild _
  have unshifted : Unshifted again.registry twice.registry :=
    unshifted_run poisedAgain second current
  have names : twice.registry.findByName = once.registry.findByName :=
    findByName_run poisedAgain second
  refine ⟨records_run_again steady sameRegistry second,
    bindings_run_again steady sameRegistry second rfl,
    states_run_again steady sameRegistry second rfl, unshifted.mayFind, ?_, ?_, congrFun names, ?_⟩
  · rintro reference (decides | buckets)
    · exact unshifted.find_eq decides
    · exact congrFun (find_run_again steady sameRegistry second buckets) reference
  · exact unshifted.findRuntime_eq
  · intro name
    exact congrFun names ("@" ++ name)

end Merging

namespace Albums

/-- An object type that is to be called `Album`, with one field. -/
def album (id field : String) (type : Reference) : Definition :=
  .object
    {
      header := ⟨⟨id⟩, some "Album", none, .generic id []⟩
      fields := [⟨field, none, .bare type, [], none, none, none⟩]
      interfaces := []
      implemented := []
      isOfType := none
      isQueryType := false
    }

def artist : Member :=
  ⟨"artist", .generic "Credits" [], .property, none⟩

/-- What was discovered about the extension that adds the artist. -/
def credits : Discovered where
  errors := []
  bindings :=
    [(⟨"Album", "artist"⟩,
      ⟨none, .generic "Credits" [], .member ⟨⟨"Album", "artist"⟩, artist⟩⟩)]
  alternateNames := ["Record"]
  scope := none

/-- A type and two extensions: one gives the field of the type another type, the other one adds a
further field.
-/
def registry : Registry :=
  (Registry.empty.applyAll
    [
      .register (TypeRecord.new (album "Album" "title" (.schema ⟨"Text"⟩)) [] [] .nothing),
      .register
        (TypeRecord.new (.extension (album "Titles" "title" (.schema ⟨"Title"⟩))) []
          [⟨.schema ⟨"Title"⟩, .completed⟩] .nothing),
      .register
        (TypeRecord.new (.extension (album "Credits" "artist" (.schema ⟨"Text"⟩))) [] [] credits),
      .registerName 0
    ]).rebuild

def merging : Merging :=
  ⟨registry, [], [], [], 0, 0⟩

theorem steady : merging.registry.Steady :=
  Merging.steady_rebuild ⟨by decide, by decide +kernel, by decide +kernel⟩ (by decide +kernel)

end Albums

namespace Merging

theorem albums_twice
    : let once := run .report Albums.merging
      let twice := run .drop { once with errors := [], merged := 0, dropped := 0 }
      Albums.merging.registry.Steady
      ∧ once.merged = 2
      ∧ twice.merged = 2
      ∧ once.registry.records.map (fun record => record.definition.fields.map Field.name)
        = [["title", "artist"], ["title"], ["artist"]]
      ∧ once.states.map (fun entry => (entry.1, entry.2.alternateNames)) = [(0, ["Record"])]
      ∧ twice.registry.records = once.registry.records
      ∧ twice.bindings = once.bindings
      ∧ twice.states = once.states := by
  intro once twice
  obtain ⟨records, bindings, states, -⟩ := run_twice Albums.steady .report .drop [] 0 0
  exact ⟨Albums.steady, rfl, rfl, rfl, rfl, records, bindings, states⟩

end Merging

namespace Namesakes

/-- Two types that were known by one identity, the one as an input, the other one as an output. -/
def registry : Registry :=
  Registry.empty.applyAll
    [
      .register (scalarType "Alpha" []),
      .register (scalarType "Beta" []),
      .register (scalarType "Gamma" [⟨.schema ⟨"Z"⟩, .output, none⟩]),
      .register (scalarType "Beta" [⟨.schema ⟨"Z"⟩, .input, none⟩]),
      .register (scalarType "Delta" [.schema ⟨"Yard"⟩]),
      .register
        (scalarType "Delta"
          [⟨.schema ⟨"Yard"⟩, .input, none⟩, ⟨.schema ⟨"Yard"⟩, .output, none⟩])
    ]

def merging : Merging :=
  ⟨registry, [], [], [], 0, 0⟩

/-- The rebuilt table has more buckets, and the two keys change places on the way into them. So they
lie as they do in the registry, in which the output was the first of them.
-/
theorem steady : merging.registry.Steady where
  anchored := ⟨by decide +kernel, by decide +kernel, by decide +kernel⟩
  find := by
    have keys (reference : Reference)
        : merging.registry.rebuild.findKey reference = merging.registry.findKey reference := by
      refine KeyTable.find_congr ?_ reference
      intro key member position
      cases position <;> revert key <;> decide +kernel
    have entries : merging.registry.rebuild.byRuntime = merging.registry.byRuntime := by
      decide +kernel
    funext reference
    simp only [Registry.find, keys, findRuntime, entries]
  findByName := by
    have unnamed : merging.registry.rebuild.byName = merging.registry.byName := by decide +kernel
    funext name
    rw [findByName, unnamed, findByName]

end Namesakes

namespace Merging

/-- The first run enlarges the table, which keeps the look-up. The second run finds it large enough,
and the keys stay in the order of the slots.
-/
theorem namesakes_move
    : let once := run .report Namesakes.merging
      let twice := run .report once
      Namesakes.merging.registry.Steady
      ∧ once.registry.find (.schema ⟨"Z"⟩) = some 2
      ∧ twice.registry.find (.schema ⟨"Z"⟩) = some 1
      ∧ ¬∀ reference, twice.registry.find reference = once.registry.find reference := by
  intro once twice
  have first : once.registry.find (.schema ⟨"Z"⟩) = some 2 := by decide +kernel
  have second : twice.registry.find (.schema ⟨"Z"⟩) = some 1 := by decide +kernel
  refine ⟨Namesakes.steady, first, second, fun same => ?_⟩
  exact absurd (first.symm.trans ((same _).symm.trans second)) (by decide)

end Merging
end SchemaGraph
