import SchemaGraph.Proofs.Completion.Pipelines
import SchemaGraph.Proofs.Completion.Planned
import SchemaGraph.Proofs.Completion.Precedence

/-! Which bindings stem from extensions without a base.
The bindings of all types are collected before extensions are merged. An extension whose base does
not exist is not merged, yet its bindings were collected, and they stay wherever no type came before
it and no merged extension comes after it.
-/

namespace SchemaGraph

/-- The type in the slot is an extension, and its name leads to no type. -/
def Registry.IsUnmatched (registry : Registry) (slot : Slot) : Prop :=
  ∃ record,
    registry.get? slot = some record
    ∧ record.isExtension = true
    ∧ record.name.bind registry.findByName = none

/-- Whether a binding for the field was discovered with the type. -/
def TypeRecord.binds (record : TypeRecord) (key : FieldKey) : Bool :=
  Entries.contains record.discovered.bindings key

/-- The first slot whose type binds the field. -/
def Registry.firstBinder? (registry : Registry) (key : FieldKey) : Option Slot :=
  registry.records.findIdx? fun record => record.binds key

-----------------------------------------------------------------------------------------
-- Finding the type that a binding stems from
-----------------------------------------------------------------------------------------

theorem findSome?_eq_find? {α β : Type} {view : α → Option β} (has : α → Bool)
    (same : ∀ item, (view item).isSome = has item) (items : List α)
    : items.findSome? view = (items.find? has).bind view := by
  induction items with
  | nil => rfl
  | cons item rest ih =>
      rw [List.findSome?_cons, List.find?_cons, ← same item, ih]
      cases here : view item with
      | none => rfl
      | some value => simp [here]

theorem Entries.isSome_last? {κ α : Type} [DecidableEq κ] (entries : Entries κ α) (key : κ)
    : (last? entries key).isSome = contains entries key := by
  rw [Bool.eq_iff_iff, last?, contains, ← mem_keys_iff, ← mem_keys_iff, keys, keys,
    List.map_reverse, List.mem_reverse]

theorem Registry.discoveredBinding?_eq (registry : Registry) (key : FieldKey)
    : registry.discoveredBinding? key
      = (registry.firstBinder? key).bind fun slot =>
          (registry.get? slot).bind fun record =>
            Entries.get? record.discovered.bindings key := by
  rw [discoveredBinding?, findSome?_eq_find? (fun record => record.binds key) fun _ => rfl,
    List.find?_eq_bind_findIdx?_getElem?, Option.bind_assoc]
  rfl

namespace Merging

/-- The last merge of an extension that binds the field. -/
def lastBinder? (merges : List Merge) (key : FieldKey) : Option Merge :=
  merges.reverse.find? fun merge => merge.extension.binds key

theorem extendedBinding?_eq (merges : List Merge) (key : FieldKey)
    : extendedBinding? merges key
      = (lastBinder? merges key).bind fun merge =>
          (Entries.last? merge.extension.discovered.bindings key).map
            (retarget merge.base.runtime) := by
  refine findSome?_eq_find? (fun merge => merge.extension.binds key) ?_ merges.reverse
  intro merge
  rw [Option.isSome_map, Entries.isSome_last?]
  rfl

/-- The slot of the type whose binding for the field is kept: the last extension that is merged, or
else the first type.
-/
def origin? (registry : Registry) (key : FieldKey) : Option Slot :=
  ((lastBinder? (merges registry) key).map fun merge => merge.slot).or
    (registry.firstBinder? key)

/-- The binding for the field of that type, on the host type of the base that it was merged into. -/
def originBinding? (registry : Registry) (key : FieldKey) : Option Binding :=
  match lastBinder? (merges registry) key with
  | some merge =>
      (Entries.last? merge.extension.discovered.bindings key).map
        (retarget merge.base.runtime)
  | none =>
      (registry.firstBinder? key).bind fun slot =>
        (registry.get? slot).bind fun record => Entries.get? record.discovered.bindings key

/-- An extension without a base is the first type that binds the field, and no merged extension
binds it.
-/
structure IsOrphan (registry : Registry) (key : FieldKey) : Prop where
  unmerged : ∀ merge ∈ merges registry, merge.extension.binds key = false
  first : ∃ slot, registry.firstBinder? key = some slot ∧ registry.IsUnmatched slot

variable {registry : Registry} {key : FieldKey} {slot : Slot}

theorem isSome_of_lastBinder? {merges : List Merge} {merge : Merge}
    (last : lastBinder? merges key = some merge)
    : merge ∈ merges
      ∧ ((Entries.last? merge.extension.discovered.bindings key).map
          (retarget merge.base.runtime)).isSome = true := by
  refine ⟨List.mem_reverse.mp (List.mem_of_find?_eq_some last), ?_⟩
  rw [Option.isSome_map, Entries.isSome_last?]
  exact List.find?_some (p := fun merge : Merge => merge.extension.binds key) last

theorem exists_of_firstBinder? (first : registry.firstBinder? key = some slot)
    : ∃ record, registry.get? slot = some record ∧ record.binds key = true := by
  obtain ⟨inside, binds, -⟩ := List.findIdx?_eq_some_iff_getElem.mp first
  exact ⟨_, List.getElem?_eq_getElem inside, binds⟩

theorem isSome_originBinding? (registry : Registry) (key : FieldKey)
    : (originBinding? registry key).isSome = (origin? registry key).isSome := by
  unfold originBinding? origin?
  cases last : lastBinder? (merges registry) key with
  | some merge => exact (isSome_of_lastBinder? last).2
  | none =>
      cases first : registry.firstBinder? key with
      | none => rfl
      | some slot =>
          obtain ⟨record, here, binds⟩ := exists_of_firstBinder? first
          have bound : (Entries.get? record.discovered.bindings key).isSome = true := binds
          simpa [here] using bound

theorem lastBinder?_eq_none_iff {merges : List Merge}
    : lastBinder? merges key = none
      ↔ ∀ merge ∈ merges, merge.extension.binds key = false := by
  simp [lastBinder?]

-----------------------------------------------------------------------------------------
-- Extensions that are merged
-----------------------------------------------------------------------------------------

/-- An extension is merged into the type that the name of its group leads to. -/
theorem exists_group_of_mem_mergesInto {baseSlot : Slot} {slots : List Slot} {merge : Merge}
    (member : merge ∈ mergesInto baseSlot registry slots)
    : merge.slot ∈ slots ∧ merge.baseSlot = baseSlot := by
  induction slots generalizing registry with
  | nil => cases member
  | cons first rest ih =>
      unfold mergesInto at member
      split at member
      · split at member
        · cases member
        · rcases List.mem_cons.mp member with rfl | later
          · exact ⟨List.mem_cons_self, rfl⟩
          · exact (ih later).imp_left (List.mem_cons_of_mem first)
      · exact (ih member).imp_left (List.mem_cons_of_mem first)

theorem exists_group_of_mem_mergesAlong {groups : List (String × List Slot)} {merge : Merge}
    (member : merge ∈ mergesAlong registry groups)
    : ∃ group ∈ groups,
        merge.slot ∈ group.2 ∧ registry.findByName group.1 = some merge.baseSlot := by
  induction groups generalizing registry with
  | nil => cases member
  | cons group rest ih =>
      rcases List.mem_append.mp member with here | later
      · refine ⟨group, List.mem_cons_self, ?_⟩
        unfold mergesOf at here
        split at here
        · next baseSlot leads =>
            obtain ⟨listed, rfl⟩ := exists_group_of_mem_mergesInto here
            exact ⟨listed, leads⟩
        · cases here
      · obtain ⟨other, among, listed, leads⟩ := ih later
        rw [Registry.findByName, byName_foldl_store] at leads
        exact ⟨other, List.mem_cons_of_mem group among, listed, leads⟩

/-- No extension without a base is merged. -/
theorem not_isUnmatched_of_mem_merges {merge : Merge} (member : merge ∈ merges registry)
    : ¬registry.IsUnmatched merge.slot := by
  rintro ⟨record, found, -, nowhere⟩
  obtain ⟨group, formed, listed, leads⟩ := exists_group_of_mem_mergesAlong member
  obtain ⟨extension, here, -, named⟩ := exists_extension_of_mem_groups formed listed
  cases Option.some.inj (found.symm.trans here)
  rw [named, Option.bind_some, leads] at nowhere
  cases nowhere

/-- The binding that is kept stems from an extension without a base just where the field is an
orphan.
-/
theorem isUnmatched_origin_iff (origin : origin? registry key = some slot)
    : registry.IsUnmatched slot ↔ IsOrphan registry key := by
  unfold origin? at origin
  cases last : lastBinder? (merges registry) key with
  | some merge =>
      rw [last] at origin
      cases origin
      obtain ⟨member, -⟩ := isSome_of_lastBinder? last
      refine iff_of_false (not_isUnmatched_of_mem_merges member) ?_
      intro orphan
      rw [lastBinder?_eq_none_iff.mpr orphan.unmerged] at last
      cases last
  | none =>
      rw [last] at origin
      have first : registry.firstBinder? key = some slot := origin
      refine ⟨fun unmatched => ⟨lastBinder?_eq_none_iff.mp last, slot, first, unmatched⟩, ?_⟩
      rintro ⟨-, other, same, unmatched⟩
      cases Option.some.inj (first.symm.trans same)
      exact unmatched

-----------------------------------------------------------------------------------------
-- What becomes of the bindings
-----------------------------------------------------------------------------------------

theorem get?_run_collected (policy : UnmatchedPolicy) (registry : Registry) (states : TypeStates)
    (errors : List SchemaError) (key : FieldKey)
    : let merging : Merging := ⟨registry, registry.collectBindings [], states, errors, 0, 0⟩
      Entries.get? (run policy merging).bindings key = originBinding? registry key := by
  intro merging
  rw [bindings_run, Entries.get?_insertAll, last?_bindings, get?_collectBindings,
    extendedBinding?_eq, Registry.discoveredBinding?_eq, originBinding?]
  cases last : lastBinder? (merges registry) key with
  | none => rfl
  | some merge =>
      obtain ⟨-, bound⟩ := isSome_of_lastBinder? last
      obtain ⟨binding, same⟩ := Option.isSome_iff_exists.mp bound
      simp [same]

/-- The problems of a compilation are about fields that are bound. -/
theorem mem_keys_of_uncompilable {inspector : Inspector} {bindings : Bindings}
    {fault : BindingFault}
    (refused : Problem.uncompilable key fault ∈ (Binding.compileAll inspector bindings).2.1)
    : key ∈ Entries.keys bindings := by
  obtain ⟨entry, bound, made⟩ := List.mem_filterMap.mp refused
  obtain ⟨other, -, same⟩ := Option.map_eq_some_iff.mp made
  cases same
  exact List.mem_map_of_mem bound

/-- A graph has no resolver for a field that is not bound. -/
theorem mem_keys_of_resolver {inspector : Inspector} {bindings : Bindings}
    {states : TypeStates}
    (resolved
      : ((TypeGraph.build registry (Binding.compileAll inspector bindings).1 states).resolver
          key).isSome
        = true)
    : key ∈ Entries.keys bindings := by
  rw [TypeGraph.resolver, ← Entries.mem_keys_iff] at resolved
  obtain ⟨entry, listed, rfl⟩ := List.mem_map.mp resolved
  obtain ⟨compiled, among, made⟩ := List.mem_filterMap.mp listed
  obtain ⟨resolver, -, rfl⟩ := Option.map_eq_some_iff.mp made
  obtain ⟨bound, there, rfl⟩ := List.mem_map.mp among
  exact List.mem_map_of_mem there

/-- After the bindings of the types were collected and the extensions merged, each field has the
binding of its origin. No extension without a base is the origin of a field that is no orphan; such
a field fails to compile, or gets a resolver in the graph, only by a provider or by a type that has
its place. An orphan keeps the binding of the extension without a base.
Witness: the origin is told by the same precedence as the binding; what compiles or resolves is
among the keys that were bound.
-/
theorem run_origins (policy : UnmatchedPolicy) (registry : Registry) (states : TypeStates)
    (errors : List SchemaError) (providers : List Provider) (inspector : Inspector)
    (naming : Naming)
    : let merging : Merging := ⟨registry, registry.collectBindings [], states, errors, 0, 0⟩
      let final := run policy merging
      let bound :=
        (Provider.bindAll providers final.registry inspector naming final.bindings).1
      let compiled := Binding.compileAll inspector bound
      let graph := TypeGraph.build final.registry compiled.1 final.states
      let provides (key : FieldKey) :=
        (Provider.providedBinding? providers final.registry inspector naming key).isSome = true
      let hasOrigin (key : FieldKey) :=
        ∃ slot, origin? registry key = some slot ∧ ¬registry.IsUnmatched slot
      (∀ key, Entries.get? final.bindings key = originBinding? registry key)
      ∧ (∀ key,
          key ∈ Entries.keys final.bindings ↔ ∃ slot, origin? registry key = some slot)
      ∧ (∀ key,
          ¬IsOrphan registry key
          → (key ∈ Entries.keys final.bindings → hasOrigin key)
            ∧ (∀ fault, .uncompilable key fault ∈ compiled.2.1 → provides key ∨ hasOrigin key)
            ∧ ((graph.resolver key).isSome = true → provides key ∨ hasOrigin key))
      ∧ ∀ key,
          IsOrphan registry key
          → key ∈ Entries.keys final.bindings
            ∧ ∃ slot, origin? registry key = some slot ∧ registry.IsUnmatched slot := by
  intro merging final bound compiled graph provides hasOrigin
  have stems (key : FieldKey) : Entries.get? final.bindings key = originBinding? registry key :=
    get?_run_collected policy registry states errors key
  have kept (key : FieldKey)
      : key ∈ Entries.keys final.bindings ↔ ∃ slot, origin? registry key = some slot := by
    rw [Entries.mem_keys_iff, stems, isSome_originBinding?, Option.isSome_iff_exists]
  have placed (key : FieldKey) (calm : ¬IsOrphan registry key)
      (member : key ∈ Entries.keys final.bindings)
      : hasOrigin key := by
    obtain ⟨slot, origin⟩ := (kept key).mp member
    exact ⟨slot, origin, fun unmatched => calm ((isUnmatched_origin_iff origin).mp unmatched)⟩
  have given (key : FieldKey) (calm : ¬IsOrphan registry key)
      (member : key ∈ Entries.keys bound)
      : provides key ∨ hasOrigin key := by
    have stored
        : bound
          = Entries.insertAll final.bindings
              (Provider.allBindings providers final.registry inspector naming) :=
      rfl
    rw [Entries.mem_keys_iff, stored, Entries.get?_insertAll, Provider.last?_allBindings,
      Option.isSome_or, Bool.or_eq_true, ← Entries.mem_keys_iff] at member
    exact member.imp_right (placed key calm)
  refine ⟨stems, kept, ?_, ?_⟩
  · intro key calm
    exact ⟨placed key calm, fun fault refused => given key calm (mem_keys_of_uncompilable refused),
      fun resolved => given key calm (mem_keys_of_resolver resolved)⟩
  · intro key orphan
    obtain ⟨slot, first, unmatched⟩ := orphan.first
    have origin : origin? registry key = some slot := by
      rw [origin?, lastBinder?_eq_none_iff.mpr orphan.unmerged]
      exact first
    exact ⟨(kept key).mpr ⟨slot, origin⟩, slot, origin, unmatched⟩

end Merging

-----------------------------------------------------------------------------------------
-- An extension that is dropped, and its binding that is not
-----------------------------------------------------------------------------------------

namespace Haunting

def boo : FieldKey :=
  ⟨"Ghost", "boo"⟩

/-- A method that cannot be called. -/
def method : Member :=
  ⟨"boo", RuntimeType.object, .method [], none⟩

/-- An extension of `Ghost` that binds the field to the method. -/
def ghost : TypeRecord :=
  TypeRecord.new
    (.extension
      (.object
        {
          header := ⟨⟨"MoreGhost"⟩, some "Ghost", none, RuntimeType.object⟩
          fields := []
          interfaces := []
          implemented := []
          isOfType := none
          isQueryType := false
        }))
    [] []
    { Discovered.nothing with
      bindings := [(boo, ⟨none, RuntimeType.object, .member ⟨boo, method⟩⟩)] }

/-- Nothing but the extension. -/
def registry : Registry :=
  (Registry.empty.register ghost).1

end Haunting

namespace Merging

/-- The only type that binds the field is dropped, and yet the field stays bound and cannot be
compiled.
-/
theorem haunting_stays_bound
    : let registry := Haunting.registry
      let final := run .drop ⟨registry, registry.collectBindings [], [], [], 0, 0⟩
      let inspector := RuntimeTable.empty.inspector
      registry.records.map (fun record => record.binds Haunting.boo) = [true]
      ∧ registry.IsUnmatched 0
      ∧ final.merged = 0
      ∧ final.dropped = 1
      ∧ Entries.keys final.bindings = [Haunting.boo]
      ∧ (Binding.compileAll inspector final.bindings).2.1
        = [.uncompilable Haunting.boo (.noInvoker "boo")] := by
  intro registry final inspector
  exact ⟨rfl, ⟨Haunting.ghost, rfl, rfl, rfl⟩, rfl, rfl, rfl, rfl⟩

end Merging
end SchemaGraph
