import SchemaGraph.Proofs.Completion.Idempotence
import SchemaGraph.Proofs.Construction.Linking
import SchemaGraph.Proofs.Construction.Resolving
import SchemaGraph.Proofs.Discovery.Registrations
import SchemaGraph.Proofs.Registry.FinalNames
import SchemaGraph.Proofs.Schedule.Flags

/-! Alternate names from their discovery to the graph.
A type takes the alternate names that it was discovered with into its state when it is named,
merging passes on those of the extensions, and completion keeps them all.
-/

namespace SchemaGraph

open Registry Schedule

-----------------------------------------------------------------------------------------
-- The alternate names in the states
-----------------------------------------------------------------------------------------

/-- The alternate names of the slot, once it has a state. -/
def TypeStates.alternates? (states : TypeStates) (slot : Slot) : Option (List String) :=
  (Entries.get? states slot).map TypeState.alternateNames

/-- A state that is stored changes the alternate names of its slot only. -/
theorem TypeStates.alternates?_insert (states : TypeStates) (slot other : Slot)
    (state : TypeState)
    : TypeStates.alternates? (Entries.insert states slot state) other
      = if slot = other then some state.alternateNames else states.alternates? other := by
  rw [alternates?, Entries.get?_insert]
  split <;> rfl

namespace Progress

variable {progress : Progress} {slot other : Slot} {state : TypeState}

abbrev alternates? (progress : Progress) (slot : Slot) : Option (List String) :=
  progress.state.states.alternates? slot

/-- So does a state that is set. -/
theorem alternates?_setState
    : (progress.setState slot state).alternates? other
      = if slot = other then some state.alternateNames else progress.alternates? other :=
  TypeStates.alternates?_insert _ _ _ _

/-- So does one that is advanced, which keeps its own alternate names. -/
theorem alternates?_advance {status : Status} {event : Definition → TypeState → Event}
    : (progress.advance slot state status event).alternates? other
      = if slot = other then some state.alternateNames else progress.alternates? other := by
  have same : (state.advance status).1.alternateNames = state.alternateNames := by
    unfold TypeState.advance
    split <;> rfl
  rw [← same, ← alternates?_setState]
  unfold advance
  dsimp only
  split <;> rfl

/-- A type without a state has the alternate names of the initial one. -/
theorem alternateNames_stateOr (progress : Progress) (slot : Slot) (initial : TypeState)
    : (progress.stateOr slot initial).alternateNames
      = (progress.alternates? slot).getD initial.alternateNames := by
  unfold stateOr alternates? TypeStates.alternates?
  cases Entries.get? progress.state.states slot <;> rfl

end Progress

namespace Plan

variable {plan : Plan} {start progress : Progress} {slot other : Slot} {record : TypeRecord}
  {done : List Slot} {names : List String}

/-- A type without a state gets the alternate names that it was discovered with. -/
theorem alternates?_nameType (found : progress.registry.get? slot = some record)
    : (plan.nameType slot progress).2.alternates? other
      = if slot = other then
          some ((progress.alternates? slot).getD record.discovered.alternateNames)
        else
          progress.alternates? other := by
  have own :=
    progress.alternateNames_stateOr slot (TypeState.new record.discovered.alternateNames)
  unfold nameType
  rw [found]
  dsimp only
  split
  · exact Progress.alternates?_setState.trans (by rw [own]; rfl)
  · unfold Progress.registerNamed
    dsimp only
    split
    · exact Progress.alternates?_setState.trans (by rw [own]; rfl)
    · rw [Progress.alternates?_advance, own]
      split
      · rfl
      · next different => exact Progress.alternates?_setState.trans (if_neg different)

/-- A state keeps its alternate names when types are completed. -/
theorem alternates?_completeType (here : progress.alternates? other = some names)
    : (plan.completeType slot progress).2.alternates? other = some names := by
  unfold completeType
  split
  · exact here
  · split
    · exact here
    · have settled
          : (if slot = other then some (progress.stateOr slot (.new [])).alternateNames
              else progress.alternates? other)
            = some names := by
        rw [Progress.alternateNames_stateOr]
        split
        · next same => rw [same, here, Option.getD_some]
        · exact here
      dsimp only
      split
      · rw [Progress.alternates?_advance]
        split
        · next same => rwa [if_pos same] at settled
        · exact Progress.alternates?_setState.trans settled
      · exact Progress.alternates?_setState.trans settled

-----------------------------------------------------------------------------------------
-- Naming
-----------------------------------------------------------------------------------------

/-- A type keeps the key of its name when it is named. -/
theorem nameKey_withName {naming : Naming} {name key : String}
    (chosen : record.definition.chooseName naming = .ok name)
    (keyed : nameKey record = some key)
    : nameKey (record.withDefinition (record.definition.withName name)) = some key := by
  obtain ⟨own, named, -⟩ := Option.bind_eq_some_iff.mp keyed
  have explicit : record.definition.name = some own := named
  have same : own = name := by
    rw [Definition.chooseName, explicit] at chosen
    exact Except.ok.inj chosen
  let new := record.withDefinition (record.definition.withName name)
  have isNamed : new.name = record.name :=
    (record.definition.name_withName name).trans (explicit.trans (congrArg some same)).symm
  have directive : new.isDirective = record.isDirective :=
    record.definition.isDirective_withName name
  have isType : new.isNamedType = record.isNamedType := record.definition.isNamedType_withName name
  rw [nameKey, isNamed, directive, isType]
  exact keyed

/-- Naming a type leaves all names true.
Witness: the type is stored with its name before that is registered.
-/
theorem namesHold_nameType (anchored : progress.registry.Anchored)
    (hold : progress.registry.NamesHold) (slot : Slot)
    : (plan.nameType slot progress).2.registry.NamesHold := by
  cases found : progress.registry.get? slot with
  | none =>
      unfold nameType
      rw [found]
      exact hold
  | some record =>
      rcases plan.nameType_outcome found with ⟨-, -, -, -, same, -⟩ | ⟨name, chosen, -, outcome⟩
      · exact same ▸ hold
      · let new := record.withDefinition (record.definition.withName name)
        have stored : (progress.registry.register new).1.NamesHold := by
          refine hold.store (anchored.stores found rfl) (byName_register _ _) ?_
          intro key keyed
          rw [found] at keyed
          exact nameKey_withName chosen keyed
        rcases outcome with ⟨-, -, -, same, -⟩ | ⟨-, registered, -⟩
        · exact same ▸ stored
        · exact stored.registerName registered

/-- When the turn of the slots has been, just these have taken on the alternate names that their
types were discovered with.
-/
structure EnteredSoFar (start : Progress) (done : List Slot) (progress : Progress) : Prop where
  unmoved : Unmoved start.registry progress.registry
  hold : progress.registry.NamesHold
  alternates
    : ∀ slot,
        progress.alternates? slot
        = if slot ∈ done then
            (start.registry.get? slot).map fun record => record.discovered.alternateNames
          else
            none

/-- A call moves nothing, and enters the name of its type. -/
theorem EnteredSoFar.nameType (sofar : EnteredSoFar start done progress) (plan : Plan)
    (anchored : start.registry.Anchored) (covered : start.registry.Covered)
    (inside : slot < start.registry.size)
    : EnteredSoFar start (done ++ [slot]) (plan.nameType slot progress).2 := by
  have anchoredHere := anchored.unmoved sofar.unmoved
  obtain ⟨unmoved, -⟩ :=
    (plan.nameType_edits progress slot).unmoved anchoredHere
      (covered.unshifted sofar.unmoved.toUnshifted)
  refine ⟨sofar.unmoved.trans unmoved, namesHold_nameType anchoredHere sofar.hold slot, ?_⟩
  intro other
  obtain ⟨record, found⟩ := exists_get?_of_lt inside
  obtain ⟨later, here, same⟩ := sofar.unmoved.exists_get? found
  have discovered : later.discovered = record.discovered := congrArg Standing.discovered same
  rw [alternates?_nameType here, sofar.alternates, sofar.alternates, discovered]
  by_cases own : slot = other
  · subst own
    rw [if_pos rfl, found]
    split <;> simp
  · simp [own, Ne.symm own]

/-- So do the calls for all slots, by induction on those that remain. -/
theorem EnteredSoFar.afterAllCalls {order : List Slot} (sofar : EnteredSoFar start done progress)
    (anchored : start.registry.Anchored) (covered : start.registry.Covered)
    (inside : ∀ slot ∈ order, slot < start.registry.size)
    : EnteredSoFar start (done ++ order) (afterCalls plan.nameType order progress) := by
  induction order generalizing done progress with
  | nil => simpa using sofar
  | cons slot rest ih =>
      have step := sofar.nameType plan anchored covered (inside slot List.mem_cons_self)
      rw [List.append_cons]
      exact ih step fun other member => inside other (List.mem_cons_of_mem slot member)

/-- When all slots have had their turn, every type has its alternate names. -/
theorem EnteredSoFar.alternates_of_all (sofar : EnteredSoFar start done progress)
    (all : ∀ slot, slot < start.registry.size → slot ∈ done) (slot : Slot)
    : progress.alternates? slot
      = (progress.registry.get? slot).map fun record => record.discovered.alternateNames := by
  have own := sofar.unmoved.map_get? (fun standing => standing.discovered.alternateNames) slot
  refine (sofar.alternates slot).trans (Eq.trans ?_ own.symm)
  cases found : start.registry.get? slot with
  | none => exact ite_self none
  | some record => exact if_pos (all slot (lt_size_of_get? found))

/-- A naming without errors gives every type its alternate names. Behind it, names lead to their
types and rebuilding the indexes changes no look-up by a name.
Witness: without an error every slot has had its turn, and each turn enters the names of its type.
-/
theorem nameTypes_entered (settled : progress.registry.Settled)
    (stateless : progress.state.states = []) (clean : (plan.nameTypes progress).errors = [])
    : let after := plan.nameTypes progress
      after.registry.Poised
      ∧ after.registry.NamesHold
      ∧ Unmoved (progress.registry.linkInterfaces plan.inspector).1 after.registry
      ∧ ∀ slot,
          after.alternates? slot
          = (after.registry.get? slot).map fun record => record.discovered.alternateNames := by
  intro after
  let prepared := plan.prepared progress
  let order := (Schedule.run .named plan.nameType prepared).1.batches.flatten
  have linked : prepared.registry.Anchored :=
    (settled.updates (progress.registry.linkInterfaces_updates plan.inspector)).anchored
  have covered : prepared.registry.Covered := covered_rebuild _
  have perm : order.Perm prepared.registry.slots :=
    perm_of_errors (plan.naming_addsErrors progress) clean
  have start : EnteredSoFar prepared [] prepared := by
    refine ⟨.refl _, namesHold_rebuild _, ?_⟩
    intro slot
    have states : prepared.state.states = [] := stateless
    simp [Progress.alternates?, TypeStates.alternates?, states]
  have entered : EnteredSoFar prepared order (afterCalls plan.nameType order prepared) :=
    start.afterAllCalls linked covered fun slot member => mem_slots.mp (perm.mem_iff.mp member)
  have registry : after.registry = (afterCalls plan.nameType order prepared).registry :=
    run_registry .named plan.nameType prepared
  have state : after.state = (afterCalls plan.nameType order prepared).state :=
    run_state .named plan.nameType prepared
  have unmoved : Unmoved prepared.registry after.registry := registry ▸ entered.unmoved
  have hold : after.registry.NamesHold := registry ▸ entered.hold
  refine ⟨⟨linked.unmoved unmoved, covered.unshifted unmoved.toUnshifted,
    hold.findByName_rebuild⟩, hold, unmoved, ?_⟩
  intro slot
  rw [registry, Progress.alternates?, state]
  exact entered.alternates_of_all
    (fun slot inside => perm.mem_iff.mpr (mem_slots.mpr inside)) slot

end Plan

-----------------------------------------------------------------------------------------
-- Merging
-----------------------------------------------------------------------------------------

namespace Merging

variable {merging start : Merging} {slot : Slot} {record : TypeRecord} {states : TypeStates}
  {names : List String} {name : String}

/-- The name is an alternate name of the type in the slot, be it one of its own or one of an
extension that is merged into it.
-/
def IsAlternate (merges : List Merge) (name : String) (slot : Slot) (record : TypeRecord)
    : Prop :=
  name ∈ record.discovered.alternateNames
  ∨ ∃ merge ∈ merges,
      merge.baseSlot = slot ∧ name ∈ merge.extension.discovered.alternateNames

/-- Names that are passed on stand beside those that are there. -/
theorem mem_addNames {state : TypeState}
    : name ∈ (state.addNames names).alternateNames ↔ name ∈ state.alternateNames ∨ name ∈ names
    := by
  unfold TypeState.addNames
  rw [foldl_append_unless_mem]
  exact mem_append_newItems

/-- A slot has the names in the end that it has at first, and those of the additions to it.
Witness: induction on the additions; those to other slots change nothing here.
-/
theorem alternates?_foldl_addNames (start : Merging) (additions : List Addition)
    (here : states.alternates? slot = some names)
    : ∃ final,
        TypeStates.alternates? (additions.foldl (addNames start) states) slot = some final
        ∧ ∀ name,
            name ∈ final
            ↔ name ∈ names
              ∨ ∃ addition ∈ additions,
                  addition.baseSlot = slot
                  ∧ name ∈ alternateNames start.registry start.states addition.slot := by
  induction additions generalizing states names with
  | nil => exact ⟨names, here, by simp⟩
  | cons addition rest ih =>
      obtain ⟨state, found, rfl⟩ := Option.map_eq_some_iff.mp here
      by_cases own : addition.baseSlot = slot
      · subst own
        have next
            : TypeStates.alternates? (addNames start states addition) addition.baseSlot
              = some (state.addNames
                  (alternateNames start.registry start.states addition.slot)).alternateNames := by
          rw [addNames, TypeStates.alternates?_insert, if_pos rfl, found, Option.getD_some]
        obtain ⟨final, last, members⟩ := ih next
        refine ⟨final, last, fun name => ?_⟩
        rw [members, mem_addNames, or_assoc]
        simp
      · have next
            : TypeStates.alternates? (addNames start states addition) slot
              = some state.alternateNames := by
          rw [addNames, TypeStates.alternates?_insert, if_neg own]
          exact here
        obtain ⟨final, last, members⟩ := ih next
        exact ⟨final, last, fun name => by simp [members, own]⟩

/-- After a run, a slot has the names that its type and the extensions merged into it were
discovered with, if each slot has those of its own type before the run.
Witness: the names are passed on in the order of the plan, and an extension has those of its
discovery.
-/
theorem exists_alternates_run (poised : merging.registry.Poised)
    (discovered
      : ∀ slot,
          merging.states.alternates? slot
          = (merging.registry.get? slot).map fun record => record.discovered.alternateNames)
    (policy : UnmatchedPolicy) (found : merging.registry.get? slot = some record)
    : ∃ names,
        (run policy merging).states.alternates? slot = some names
        ∧ ∀ name, name ∈ names ↔ IsAlternate (merges merging.registry) name slot record := by
  have own : merging.states.alternates? slot = some record.discovered.alternateNames := by
    rw [discovered, found, Option.map_some]
  have added (addition : Addition) (member : addition ∈ planned merging.registry)
      : alternateNames merging.registry merging.states addition.slot
        = addition.extension.discovered.alternateNames := by
    obtain ⟨-, there, -⟩ := isBase_of_mem_planned poised member
    have entered := discovered addition.slot
    rw [there] at entered
    obtain ⟨state, has, same⟩ := Option.map_eq_some_iff.mp entered
    rw [alternateNames, has]
    exact same
  obtain ⟨names, last, members⟩ :=
    alternates?_foldl_addNames merging (planned merging.registry) own
  refine ⟨names, by rw [states_run_planned poised, last], fun name => ?_⟩
  rw [members, IsAlternate]
  refine or_congr_right ⟨?_, ?_⟩
  · rintro ⟨addition, member, based, declared⟩
    rw [added addition member] at declared
    rw [← additions_merges poised (.refl _)] at member
    obtain ⟨merge, merged, rfl⟩ := List.mem_map.mp member
    exact ⟨merge, merged, based, declared⟩
  · rintro ⟨merge, merged, based, declared⟩
    have member := mem_planned_of_mem_merges poised merged
    exact ⟨merge.toAddition, member, based, by rw [added _ member]; exact declared⟩

/-- A type has the alternate names that another one of the same discovery has in the slot. -/
theorem IsAlternate.congr {merges : List Merge} {later : TypeRecord}
    (same : later.discovered = record.discovered)
    : IsAlternate merges name slot later ↔ IsAlternate merges name slot record := by
  rw [IsAlternate, IsAlternate, same]

end Merging

-----------------------------------------------------------------------------------------
-- A whole run
-----------------------------------------------------------------------------------------

/-- What each call keeps of the registry and the state, a run keeps. -/
theorem Schedule.run_keeps {σ : Type} {phase : Phase} {action : Action σ}
    {workspace : Workspace σ} (keeps : Registry → σ → Prop)
    (each
      : ∀ slot (found : Workspace σ),
          keeps found.registry found.state
          → keeps (action slot found).2.registry (action slot found).2.state)
    (start : keeps workspace.registry workspace.state)
    : keeps (run phase action workspace).2.registry (run phase action workspace).2.state := by
  have inside
      : ∀ slot ∈ (run phase action workspace).1.batches.flatten,
          slot < workspace.registry.size := by
    intro slot member
    exact lt_size_of_mem_run phase action workspace (List.mem_append_left _ member)
  have calls :=
    eachCall_of_keeps (fun found => keeps found.registry found.state)
      (fun slot found _ => each slot found) inside start
  rw [run_registry, run_state]
  exact calls.2

namespace Plan

variable {plan : Plan} {progress : Progress} {slot : Slot} {record : TypeRecord}
  {names : List String}

/-- Completing registers no name. -/
theorem byName_completeTypes (plan : Plan) (progress : Progress)
    : (plan.completeTypes progress).registry.byName = progress.registry.byName := by
  refine Schedule.run_keeps (fun registry _ => registry.byName = progress.registry.byName) ?_ rfl
  intro slot sofar same
  cases found : sofar.registry.get? slot with
  | none =>
      unfold completeType
      rw [found]
      exact same
  | some record =>
      rcases plan.completeType_cases found with ⟨-, done⟩ | ⟨stored, -, -⟩
      · rw [done]
        exact same
      · rw [stored, byName_register]
        exact same

/-- Completing keeps the alternate names of each slot that has a state. -/
theorem alternates?_completeTypes (here : progress.alternates? slot = some names)
    : (plan.completeTypes progress).alternates? slot = some names :=
  Schedule.run_keeps (fun _ (state : Journal) => state.states.alternates? slot = some names)
    (fun _ _ => plan.alternates?_completeType) here

/-- Validating changes no state. -/
theorem states_validateTypes (plan : Plan) (progress : Progress)
    : (plan.validateTypes progress).state.states = progress.state.states := by
  unfold validateTypes
  dsimp only
  split <;> rfl

/-- The naming of a plan without errors gives every type its alternate names. -/
theorem namedProgress_entered (distinct : plan.catalog.Distinct)
    (clean : plan.namedProgress.errors = [])
    : plan.namedProgress.registry.Poised
      ∧ plan.namedProgress.registry.NamesHold
      ∧ Unmoved (plan.discoveredProgress.registry.linkInterfaces plan.inspector).1
          plan.namedProgress.registry
      ∧ ∀ slot,
          plan.namedProgress.alternates? slot
          = (plan.namedProgress.registry.get? slot).map fun record =>
              record.discovered.alternateNames :=
  nameTypes_entered (discoverTypes_settled distinct) rfl clean

/-- At the end of a run in which nothing is wrong, a type has its own alternate names and those of
the extensions that were merged into it.
-/
theorem exists_alternates_progress (distinct : plan.catalog.Distinct)
    (clean : plan.progress.problems = [])
    (found : plan.namedProgress.registry.get? slot = some record)
    : ∃ names,
        plan.progress.alternates? slot = some names
        ∧ ∀ name,
            name ∈ names
            ↔ Merging.IsAlternate (Merging.merges plan.namedProgress.registry) name slot record
    := by
  obtain ⟨whole, named, -, -⟩ := progress_eq_of_problems clean
  obtain ⟨poised, -, -, discovered⟩ := namedProgress_entered distinct named
  have poised : plan.namedProgress.merging.registry.Poised := poised
  obtain ⟨names, merged, members⟩ :=
    Merging.exists_alternates_run poised discovered plan.options.unmatchedExtensions found
  refine ⟨names, ?_, members⟩
  have compiled : plan.compiledProgress.alternates? slot = some names := merged
  rw [whole, Progress.alternates?, states_validateTypes]
  exact alternates?_completeTypes compiled

end Plan
end SchemaGraph
