import SchemaGraph.Completion.Bindings
import SchemaGraph.Proofs.Completion.Merges

/-! Which binding of a field wins.
Three phases store bindings: discovery keeps the first one of a field, merging lets the last
extension win, and providers override both, the last relevant member again. So the winner can be
told without a look at the bindings in between.
-/

namespace SchemaGraph

/-- The binding that the first type with one discovered for the field. -/
def Registry.discoveredBinding? (registry : Registry) (key : FieldKey) : Option Binding :=
  registry.records.findSome? fun record => Entries.get? record.discovered.bindings key

/-- The binding of the last extension with one for the field, on the host type of its base. -/
def Merging.extendedBinding? (merges : List Merging.Merge) (key : FieldKey) : Option Binding :=
  merges.reverse.findSome? fun merge =>
    (Entries.last? merge.extension.discovered.bindings key).map
      (Merging.retarget merge.base.runtime)

namespace Provider

/-- The binding of the last relevant member that is named like the field, where the target is an
object type that is named like the type of the field.
-/
def memberBinding? (inspector : Inspector) (naming : Naming) (key : FieldKey)
    (provider : RuntimeType) (target : String × RuntimeType) : Option Binding :=
  ((inspector.members provider).reverse.find? fun member =>
      isRelevant inspector target.2 member && key = ⟨target.1, naming.memberName member.name⟩).map
    fun member => ⟨some provider, target.2, .member ⟨key, member⟩⟩

/-- The binding of the last provider with one for the field, and there of the last target. -/
def providedBinding? (providers : List Provider) (registry : Registry) (inspector : Inspector)
    (naming : Naming) (key : FieldKey) : Option Binding :=
  providers.reverse.findSome? fun provider =>
    provider.targets.reverse.findSome? fun target =>
      (objectTarget? registry target).bind
        (memberBinding? inspector naming key provider.runtime)

variable (registry : Registry) (inspector : Inspector) (naming : Naming)

theorem last?_targetBindings (provider : Provider) (target : Target) (key : FieldKey)
    : Entries.last? (provider.targetBindings registry inspector naming target) key
      = (objectTarget? registry target).bind
          (memberBinding? inspector naming key provider.runtime) := by
  unfold targetBindings
  cases objectTarget? registry target with
  | none => rfl
  | some object =>
      obtain ⟨typeName, type⟩ := object
      rw [Option.bind_some, memberBinding?, Entries.last?, ← List.map_reverse,
        ← List.filter_reverse]
      induction (inspector.members provider.runtime).reverse with
      | nil => rfl
      | cons member rest ih =>
          by_cases relevant : isRelevant inspector type member = true
          · by_cases same : key = ⟨typeName, naming.memberName member.name⟩
            · simp [relevant, same]
            · simpa [relevant, same, Ne.symm same, Entries.get?_cons] using ih
          · simpa [relevant] using ih

theorem last?_allBindings (providers : List Provider) (key : FieldKey)
    : Entries.last? (allBindings providers registry inspector naming) key
      = providedBinding? providers registry inspector naming key := by
  simp only [allBindings, Entries.last?_flatMap, last?_targetBindings, providedBinding?]

end Provider

namespace Merging

theorem last?_bindings (merges : List Merge) (key : FieldKey)
    : Entries.last? (merges.flatMap Merge.bindings) key = extendedBinding? merges key := by
  simp only [Entries.last?_flatMap, Merge.bindings, Entries.last?_map, extendedBinding?]

theorem get?_collectBindings (registry : Registry) (key : FieldKey)
    : Entries.get? (registry.collectBindings []) key = registry.discoveredBinding? key := by
  have collected
      : registry.collectBindings []
        = Entries.insertAllNew [] (registry.records.flatMap fun record =>
            record.discovered.bindings) :=
    rfl
  rw [collected, Entries.get?_insertAllNew, Entries.get?, List.lookup_nil, Option.none_or,
    Entries.get?_flatMap, Registry.discoveredBinding?]

/-- After the bindings of the types were collected, extensions merged and providers bound, a field
has the binding of the last provider member for it, or else of the last merged extension, or else of
the first type. Fields without any of these have none. The merges are the counted ones, in the order
of groups and slots, and each has the base and the extension that are stored at its time.
Witness: each stage stores its bindings over or under those of the one before, and of stored
bindings the last one stays.
-/
theorem bindAll_winner (providers : List Provider) (inspector : Inspector) (naming : Naming)
    (policy : UnmatchedPolicy) (registry : Registry) (states : TypeStates)
    (errors : List SchemaError)
    : let merging : Merging := ⟨registry, registry.collectBindings [], states, errors, 0, 0⟩
      let final := run policy merging
      let bound :=
        (Provider.bindAll providers final.registry inspector naming final.bindings).1
      let winner (key : FieldKey) :=
        ((Provider.providedBinding? providers final.registry inspector naming key).or
            (extendedBinding? (merges registry) key)).or
          (registry.discoveredBinding? key)
      (∀ key, Entries.get? bound key = winner key)
      ∧ (∀ key, key ∈ Entries.keys bound ↔ (winner key).isSome = true)
      ∧ final.merged = (merges registry).length
      ∧ ((merges registry).map fun merge => merge.slot).Sublist
          ((groups registry).flatMap Prod.snd)
      ∧ Traced registry (merges registry) := by
  intro merging final bound winner
  have wins (key : FieldKey) : Entries.get? bound key = winner key := by
    have stored
        : bound
          = Entries.insertAll final.bindings
              (Provider.allBindings providers final.registry inspector naming) :=
      rfl
    rw [stored, Entries.get?_insertAll, Provider.last?_allBindings, bindings_run,
      Entries.get?_insertAll, last?_bindings, get?_collectBindings, ← Option.or_assoc]
  refine ⟨wins, ?_, ?_, slots_merges registry, traced_merges registry⟩
  · intro key
    rw [Entries.mem_keys_iff, wins]
  · have counted : final.merged = 0 + (merges registry).length := merged_run policy merging
    omega

end Merging
end SchemaGraph
