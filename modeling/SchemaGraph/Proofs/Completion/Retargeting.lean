import SchemaGraph.Proofs.Completion.Compilation
import SchemaGraph.Proofs.Completion.Targets
import SchemaGraph.Proofs.Completion.Unmatched

/-! Whether a binding of an extension still compiles once the extension is merged.
Merging makes the extension's host type the provider of the binding. A member only has to be one of
the parent, be it inherited, but a provider has to declare the member itself. So a member that the
extension's host type declares goes on to compile, and one that it inherits does not.
-/

namespace SchemaGraph

namespace Binding

variable {inspector : Inspector} {binding : Binding} {base : RuntimeType}

/-- The member is declared where compilation looks for it after a merge into the base. -/
def StaysDeclared (inspector : Inspector) (base : RuntimeType) (binding : Binding)
    (member : Member)
    : Prop :=
  (binding.source = base → inspector.accepts member.declaringType base = true)
  ∧ (binding.source ≠ base → member.declaringType = binding.source)

/-- Without a provider, the host type that the members are looked up on becomes one, unless it is
that of the base.
-/
theorem provider_retarget (base : RuntimeType) (free : binding.provider = none)
    : (Merging.retarget base binding).provider
      = if binding.source = base then none else some binding.source := by
  unfold Merging.retarget
  by_cases same : binding.source = base <;> simp [free, same]

/-- Of the demands on a member, a merge changes where it has to be declared and what the parent is.
Witness: the source has become the base, and a former source that differs from it has become the
provider.
-/
theorem compilable_retarget_iff {member : Member} (free : binding.provider = none)
    : Compilable inspector (Merging.retarget base binding) member
      ↔ StaysDeclared inspector base binding member
        ∧ (member.parentParameters = []
          ∨ ∃ parent,
              member.parentParameters = [parent] ∧ inspector.accepts parent.type base = true)
        ∧ (member.invoker.isSome = true ∨ member.isProperty = true) := by
  have provider := provider_retarget base free
  constructor
  · intro met
    refine ⟨⟨fun same => met.own ?_, fun different => met.provided binding.source ?_ different⟩,
      met.parent, met.callable⟩
    · simp [provider, same]
    · simp [provider, different]
  · rintro ⟨⟨own, provided⟩, parent, callable⟩
    refine ⟨?_, ?_, parent, callable⟩
    · intro other isProvider different
      rw [provider] at isProvider
      split at isProvider
      · cases isProvider
      · next apart => exact (provided apart).trans (Option.some.inj isProvider)
    · intro same
      by_cases inPlace : binding.source = base
      · exact own inPlace
      · exact absurd (same binding.source (by rw [provider, if_neg inPlace])) inPlace

end Binding

namespace Merging

open Binding

variable {inspector : Inspector} {binding : Binding} {bound : FieldMember}

/-- A member that compiles on the host type of an extension compiles on the base as well, if it
stays declared and its parent parameter accepts the base.
Witness: of the demands that the member meets on the extension, the others do not speak of the host
type.
-/
theorem compiles_retarget_iff {base extension : RuntimeType} (free : binding.provider = none)
    (form : binding.form = .member bound)
    (accepted : (binding.withSource extension).compiles inspector = true)
    (parents
      : ∀ parent ∈ bound.member.parentParameters, inspector.accepts parent.type base = true)
    : (retarget base binding).compiles inspector = true
      ↔ StaysDeclared inspector base binding bound.member := by
  have bound_of {other : FieldMember} (same : binding.form = .member other) : other = bound := by
    rw [form] at same
    exact (BindingForm.member.inj same).symm
  obtain ⟨_, same, met⟩ := compiles_iff.mp accepted
  cases bound_of same
  rw [compiles_iff]
  constructor
  · rintro ⟨_, same, met⟩
    cases bound_of same
    exact ((compilable_retarget_iff free).mp met).1
  · intro stays
    refine ⟨bound, form, (compilable_retarget_iff free).mpr ⟨stays, ?_, met.callable⟩⟩
    rcases met.parent with none | ⟨parent, single, -⟩
    · exact .inl none
    · exact .inr ⟨parent, single, parents parent (single ▸ List.mem_singleton_self parent)⟩

/-- Where the provider does not declare the member, compilation says so. -/
theorem fault?_retarget {base : RuntimeType} (free : binding.provider = none)
    (form : binding.form = .member bound) (different : binding.source ≠ base)
    (inherited : bound.member.declaringType ≠ binding.source)
    : (retarget base binding).fault? inspector
      = some (.notDeclaredOnProvider bound.member.name binding.source) := by
  have provider : (retarget base binding).provider = some binding.source := by
    rw [provider_retarget base free, if_neg different]
  have source : (retarget base binding).source = base := rfl
  have member : (retarget base binding).form = .member bound := form
  have origin
      : originFault? inspector (retarget base binding) bound.member
        = some (.notDeclaredOnProvider bound.member.name binding.source) := by
    simp [originFault?, isOwn, provider, source, different, inherited]
  simp [fault?, compile?, member, compileMember, origin]

/-- A run stores each binding of a merged extension for the host type of the base, and keeps the one
of the last extension that binds the field. A member that compiles on the extension's host type, and
whose parent parameter accepts the base, goes on to compile if the two host types are the same or
the extension's host type declares it. Otherwise it is refused, as the extension's host type has
become a provider that does not declare the member.
Witness: the host types are all that the binding is changed in, so only the condition on the
declaring type is in question.
-/
theorem run_retargets (inspector : Inspector) (policy : UnmatchedPolicy) {merging : Merging}
    {merge : Merge} {key : FieldKey} (merged : merge ∈ merges merging.registry)
    (discovered : Entries.last? merge.extension.discovered.bindings key = some binding)
    (free : binding.provider = none) (form : binding.form = .member bound)
    (accepted : (binding.withSource merge.extension.runtime).compiles inspector = true)
    (parents
      : ∀ parent ∈ bound.member.parentParameters,
          inspector.accepts parent.type merge.base.runtime = true)
    : let put := retarget merge.base.runtime binding
      (key, put) ∈ (merges merging.registry).flatMap Merge.bindings
      ∧ (lastBinder? (merges merging.registry) key = some merge
        → Entries.get? (run policy merging).bindings key = some put)
      ∧ (put.compiles inspector = true
        ↔ StaysDeclared inspector merge.base.runtime binding bound.member)
      ∧ (binding.source = merge.extension.runtime
        → (put.compiles inspector = true
            ↔ merge.extension.runtime = merge.base.runtime
              ∨ bound.member.declaringType = merge.extension.runtime)
          ∧ (put.compiles inspector = false
            → put.fault? inspector
              = some (.notDeclaredOnProvider bound.member.name merge.extension.runtime))) := by
  intro put
  have compiles := compiles_retarget_iff free form accepted parents
  refine ⟨?_, ?_, compiles, ?_⟩
  · have own := List.mem_reverse.mp (Entries.mem_of_get? discovered)
    exact List.mem_flatMap.mpr ⟨merge, merged, List.mem_map_of_mem own⟩
  · intro last
    rw [bindings_run, Entries.get?_insertAll, last?_bindings, extendedBinding?_eq, last,
      Option.bind_some, discovered]
    rfl
  · intro onExtension
    have here
        : put.compiles inspector = true
          ↔ merge.extension.runtime = merge.base.runtime
            ∨ bound.member.declaringType = merge.extension.runtime := by
      rw [compiles, StaysDeclared, onExtension]
      by_cases same : merge.extension.runtime = merge.base.runtime
      · obtain ⟨other, alsoForm, met⟩ := compiles_iff.mp accepted
        cases form.symm.trans alsoForm
        have own := met.own (by simp [withSource, free])
        simpa [same, withSource] using own
      · simp [same]
    refine ⟨here, fun refused => ?_⟩
    have neither := mt here.mpr (Bool.eq_false_iff.mp refused)
    rw [not_or, ← onExtension] at neither
    rw [← onExtension]
    exact fault?_retarget free form neither.1 neither.2

end Merging

-----------------------------------------------------------------------------------------
-- A member that the extension's host type declares or inherits
-----------------------------------------------------------------------------------------

namespace Entities

def name : FieldKey :=
  ⟨"User", "name"⟩

/-- A property that the host type declares, for the field on the host type of the extension. -/
def binding (declaringType : RuntimeType) : Binding :=
  ⟨none, .named "UserExtension", .member ⟨name, ⟨"name", declaringType, .property, none⟩⟩⟩

def user : TypeRecord :=
  TypeRecord.new Greeters.user [] [] .nothing

/-- The extension of the type, with the binding. -/
def more (declaringType : RuntimeType) : TypeRecord :=
  TypeRecord.new Greeters.more [] []
    { Discovered.nothing with bindings := [(name, binding declaringType)] }

def merging (declaringType : RuntimeType) : Merging where
  registry :=
    Registry.empty.applyAll [.register user, .register (more declaringType), .registerName 0]
  bindings := []
  states := []
  errors := []
  merged := 0
  dropped := 0

/-- The extension's host type is an entity. -/
def inspector : Inspector :=
  (RuntimeTable.empty.implement (.named "UserExtension") (.named "Entity")).inspector

def merge (declaringType : RuntimeType) : Merging.Merge where
  baseSlot := 0
  slot := 1
  extension := more declaringType
  base := user

theorem merges_merging (declaringType : RuntimeType)
    : Merging.merges (merging declaringType).registry = [merge declaringType] :=
  rfl

end Entities

namespace Merging

open Entities

theorem entities_recompiled
    : let declared := RuntimeType.named "UserExtension"
      let put := retarget (.named "User") (binding declared)
      Entries.get? (run .drop (merging declared)).bindings name = some put
      ∧ put.compiles inspector = true := by
  intro declared put
  have merged : merge declared ∈ merges (merging declared).registry := by
    rw [merges_merging]
    exact List.mem_singleton_self _
  have discovered
      : Entries.last? (merge declared).extension.discovered.bindings name
        = some (binding declared) :=
    rfl
  obtain ⟨-, stored, -, compiles⟩ :=
    run_retargets inspector .drop merged discovered rfl rfl (by decide) fun parent takes =>
      absurd takes List.not_mem_nil
  exact ⟨stored rfl, (compiles rfl).1.mpr (.inr rfl)⟩

/-- A property of entities compiles on the extension's host type, which inherits it, and no longer
once the extension is merged.
-/
theorem entities_not_recompiled
    : ¬∀ (inspector : Inspector) (policy : UnmatchedPolicy) (merging : Merging),
        ∀ merge ∈ merges merging.registry,
          ∀ key binding bound,
            Entries.last? merge.extension.discovered.bindings key = some binding
            → binding.provider = none
            → binding.form = .member bound
            → (binding.withSource merge.extension.runtime).compiles inspector = true
            → (∀ parent ∈ bound.member.parentParameters,
                inspector.accepts parent.type merge.base.runtime = true)
            → ∀ put,
                Entries.get? (run policy merging).bindings key = some put
                → put.compiles inspector = true := by
  intro all
  let entity := RuntimeType.named "Entity"
  have merged : merge entity ∈ merges (merging entity).registry := by
    rw [merges_merging]
    exact List.mem_singleton_self _
  have accepted
      : ((binding entity).withSource (.named "UserExtension")).compiles inspector = true := by
    decide +kernel
  have compiles :=
    all inspector .drop (merging entity) (merge entity) merged name (binding entity) _ rfl rfl rfl
      accepted (fun parent takes => absurd takes List.not_mem_nil) _ rfl
  have refused : (retarget (.named "User") (binding entity)).compiles inspector = false := by
    decide +kernel
  exact absurd (refused.symm.trans compiles) Bool.false_ne_true

end Merging
end SchemaGraph
