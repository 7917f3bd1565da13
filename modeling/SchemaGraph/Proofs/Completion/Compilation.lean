import SchemaGraph.Completion.Bindings
import Mathlib.Data.List.Forall2

/-! Which bindings are compiled.
A bound member is compiled where it lives on the right host type, takes the parent at most once, and
can be called or read. Compilation leaves everything else as it is and reports it, so that compiling
again changes nothing more.
-/

namespace SchemaGraph.Binding

variable {inspector : Inspector} {binding : Binding} {member : Member}

/-- What compilation demands of the member of a binding. -/
structure Compilable (inspector : Inspector) (binding : Binding) (member : Member) : Prop where
  /-- A provider of its own declares the member itself. -/
  provided
    : ∀ provider, binding.provider = some provider → provider ≠ binding.source →
        member.declaringType = provider
  /-- Otherwise the member is one of the parent. -/
  own
    : (∀ provider, binding.provider = some provider → provider = binding.source) →
        inspector.accepts member.declaringType binding.source = true
  parent
    : member.parentParameters = []
      ∨ ∃ parent,
          member.parentParameters = [parent]
          ∧ inspector.accepts parent.type binding.source = true
  callable : member.invoker.isSome = true ∨ member.isProperty = true

/-- What runs for a member that can be called or read. -/
def runs (member : Member) : Resolver :=
  member.invoker.getD (parentProperty member.name)

/-- What compilation makes of a binding: a compiled one and a refused one stay, and an accepted
member gives way to its resolver.
-/
structure CompiledTo (inspector : Inspector) (before after : Binding) : Prop where
  untouched : ∀ resolver, before.form = .compiled resolver → after = before
  accepted
    : ∀ bound, before.form = .member bound → Compilable inspector before bound.member →
        after = { before with form := .compiled (runs bound.member) }
  refused
    : ∀ bound, before.form = .member bound → ¬ Compilable inspector before bound.member →
        after = before

-----------------------------------------------------------------------------------------
-- One binding
-----------------------------------------------------------------------------------------

theorem originFault?_eq_none_iff
    : originFault? inspector binding member = none
      ↔ (∀ provider, binding.provider = some provider → provider ≠ binding.source →
            member.declaringType = provider)
        ∧ ((∀ provider, binding.provider = some provider → provider = binding.source) →
            inspector.accepts member.declaringType binding.source = true) := by
  unfold originFault? isOwn
  cases binding.provider with
  | none => simp
  | some provider =>
      by_cases same : provider = binding.source
      · simp [same]
      · simp [same]

theorem parentFault?_eq_none_iff
    : parentFault? inspector binding member = none
      ↔ member.parentParameters = []
        ∨ ∃ parent,
            member.parentParameters = [parent]
            ∧ inspector.accepts parent.type binding.source = true := by
  unfold parentFault?
  rcases member.parentParameters with _ | ⟨parent, _ | ⟨second, rest⟩⟩ <;> simp

theorem memberResolver_eq_ok_iff {resolver : Resolver}
    : memberResolver member = .ok resolver
      ↔ (member.invoker.isSome = true ∨ member.isProperty = true) ∧ resolver = runs member := by
  unfold memberResolver runs
  cases member.invoker with
  | some invoker => simpa using eq_comm
  | none => cases member.isProperty <;> simp [@eq_comm _ resolver]

/-- A member is compiled just where all demands on it are met. -/
theorem compileMember_eq_ok_iff {resolver : Resolver}
    : compileMember inspector binding member = .ok resolver
      ↔ Compilable inspector binding member ∧ resolver = runs member := by
  have demands
      : Compilable inspector binding member
        ↔ originFault? inspector binding member = none
          ∧ parentFault? inspector binding member = none
          ∧ (member.invoker.isSome = true ∨ member.isProperty = true) := by
    rw [originFault?_eq_none_iff, parentFault?_eq_none_iff, and_assoc]
    exact ⟨fun met => ⟨met.provided, met.own, met.parent, met.callable⟩,
      fun ⟨provided, own, parent, callable⟩ => ⟨provided, own, parent, callable⟩⟩
  rw [demands, and_assoc, and_assoc, ← memberResolver_eq_ok_iff]
  unfold compileMember
  cases originFault? inspector binding member with
  | some fault => simp
  | none => cases parentFault? inspector binding member <;> simp

/-- A compiled binding has nothing to compile, a member that meets the demands comes to what runs
for it, and any other one to a fault.
Witness: the form of the binding, and for a member whether compiling it is refused.
-/
theorem compile?_cases (inspector : Inspector) (binding : Binding)
    : (∃ resolver, binding.form = .compiled resolver ∧ binding.compile? inspector = none)
      ∨ (∃ bound,
          binding.form = .member bound
          ∧ Compilable inspector binding bound.member
          ∧ binding.compile? inspector = some (.ok (runs bound.member)))
      ∨ ∃ bound fault,
          binding.form = .member bound
          ∧ ¬ Compilable inspector binding bound.member
          ∧ binding.compile? inspector = some (.error fault) := by
  unfold compile?
  cases binding.form with
  | compiled resolver => exact .inl ⟨resolver, rfl, rfl⟩
  | member bound =>
      refine .inr ?_
      cases result : compileMember inspector binding bound.member with
      | ok resolver =>
          obtain ⟨met, rfl⟩ := compileMember_eq_ok_iff.mp result
          exact .inl ⟨bound, rfl, met, congrArg some result⟩
      | error fault =>
          refine .inr ⟨bound, fault, rfl, ?_, congrArg some result⟩
          intro met
          cases result.symm.trans (compileMember_eq_ok_iff.mpr ⟨met, rfl⟩)

/-- Compiling a binding leaves one that was compiled already, compiles a member that meets the
demands, and leaves any other one as it is.
-/
theorem compiledTo_compiled (inspector : Inspector) (binding : Binding)
    : CompiledTo inspector binding (binding.compiled inspector) := by
  unfold compiled
  rcases compile?_cases inspector binding with
    ⟨resolver, form, outcome⟩ | ⟨bound, form, met, outcome⟩ | ⟨bound, fault, form, unmet, outcome⟩
  · rw [outcome]
    refine ⟨fun _ _ => rfl, ?_, fun _ _ _ => rfl⟩
    intro other isMember
    cases form.symm.trans isMember
  · rw [outcome]
    refine ⟨?_, ?_, ?_⟩
    · intro resolver isCompiled
      cases form.symm.trans isCompiled
    · intro other isMember _
      cases form.symm.trans isMember
      rfl
    · intro other isMember unmet
      cases form.symm.trans isMember
      exact absurd met unmet
  · rw [outcome]
    refine ⟨fun _ _ => rfl, ?_, fun _ _ _ => rfl⟩
    intro other isMember met
    cases form.symm.trans isMember
    exact absurd met unmet

/-- A member binding is compiled if it meets the demands. -/
theorem compiles_iff
    : binding.compiles inspector = true
      ↔ ∃ bound, binding.form = .member bound ∧ Compilable inspector binding bound.member := by
  unfold compiles
  rcases compile?_cases inspector binding with
    ⟨resolver, form, outcome⟩ | ⟨bound, form, met, outcome⟩ | ⟨bound, fault, form, unmet, outcome⟩
  · simp [form, outcome]
  · simp [form, outcome, met]
  · simp [form, outcome, unmet]

/-- A binding is compiled in the end unless it has a fault. -/
theorem isCompiled_compiled (inspector : Inspector) (binding : Binding)
    : (binding.compiled inspector).form.isCompiled = (binding.fault? inspector).isNone := by
  unfold compiled fault?
  rcases compile?_cases inspector binding with
    ⟨resolver, form, outcome⟩ | ⟨bound, form, met, outcome⟩ | ⟨bound, fault, form, unmet, outcome⟩
  · rw [outcome, form]; rfl
  · rw [outcome]; rfl
  · rw [outcome, form]; rfl

/-- What was compiled stays, and what was refused is refused for the same reason. -/
theorem compile?_compiled (inspector : Inspector) (binding : Binding)
    : (binding.compiled inspector).compile? inspector
      = (binding.fault? inspector).map Except.error := by
  unfold compiled fault?
  rcases compile?_cases inspector binding with
    ⟨resolver, form, outcome⟩ | ⟨bound, form, met, outcome⟩ | ⟨bound, fault, form, unmet, outcome⟩
  · simp [outcome]
  · rw [outcome]; rfl
  · simp [outcome]

theorem compiled_compiled (inspector : Inspector) (binding : Binding)
    : (binding.compiled inspector).compiled inspector = binding.compiled inspector := by
  rw [compiled, compile?_compiled]
  cases binding.fault? inspector <;> rfl

theorem fault?_compiled (inspector : Inspector) (binding : Binding)
    : (binding.compiled inspector).fault? inspector = binding.fault? inspector := by
  rw [fault?, compile?_compiled]
  cases binding.fault? inspector <;> rfl

theorem compiles_compiled (inspector : Inspector) (binding : Binding)
    : (binding.compiled inspector).compiles inspector = false := by
  rw [compiles, compile?_compiled]
  cases binding.fault? inspector <;> rfl

-----------------------------------------------------------------------------------------
-- All bindings
-----------------------------------------------------------------------------------------

/-- The problem of a refused binding: it is a compilation error of the field. -/
structure Blames (inspector : Inspector) (entry : FieldKey × Binding) (problem : Problem)
    : Prop where
  fault
    : ∃ fault,
        entry.2.compile? inspector = some (.error fault)
        ∧ problem = .uncompilable entry.1 fault
  code : problem.toError.code = .resolverCompilation
  field : problem.toError.field = some entry.1

/-- The bindings that are members still have one problem each, in their order. -/
theorem blames_compileAll (inspector : Inspector) (bindings : Bindings)
    : List.Forall₂ (Blames inspector)
        ((compileAll inspector bindings).1.filter fun entry => !entry.2.form.isCompiled)
        (compileAll inspector bindings).2.1 := by
  unfold compileAll
  dsimp only
  induction bindings with
  | nil => exact .nil
  | cons entry rest ih =>
      obtain ⟨key, binding⟩ := entry
      rw [List.map_cons, List.filterMap_cons, List.filter_cons, isCompiled_compiled]
      cases refused : binding.fault? inspector with
      | none => exact ih
      | some fault =>
          have same : (binding.compiled inspector).compile? inspector = some (.error fault) := by
            rw [compile?_compiled, refused, Option.map_some]
          exact .cons ⟨⟨fault, same, rfl⟩, rfl, rfl⟩ ih

/-- The number of compiled bindings grows by what is counted. -/
theorem countP_isCompiled_compileAll (inspector : Inspector) (bindings : Bindings)
    : (compileAll inspector bindings).1.countP (fun entry => entry.2.form.isCompiled)
      = bindings.countP (fun entry => entry.2.form.isCompiled)
        + (compileAll inspector bindings).2.2 := by
  unfold compileAll
  dsimp only
  induction bindings with
  | nil => rfl
  | cons entry rest ih =>
      obtain ⟨key, binding⟩ := entry
      simp only [List.map_cons, List.countP_cons, ih, isCompiled_compiled]
      unfold compiles fault?
      rcases compile?_cases inspector binding with
        ⟨resolver, form, outcome⟩ | ⟨bound, form, met, outcome⟩
        | ⟨bound, fault, form, unmet, outcome⟩
      all_goals
        simp only [outcome, form, BindingForm.isCompiled, Option.isNone_none, Option.isNone_some,
          Bool.false_eq_true, if_true, if_false]
        omega

/-- Compiling again compiles nothing and finds the same problems. -/
theorem compileAll_again (inspector : Inspector) (bindings : Bindings)
    : compileAll inspector (compileAll inspector bindings).1
      = ((compileAll inspector bindings).1, (compileAll inspector bindings).2.1, 0) := by
  simp [compileAll, List.filterMap_map, Function.comp_def, compiled_compiled, fault?_compiled,
    compiles_compiled]

/-- Compilation keeps the fields and their order and compiles the members that meet the demands on
them, and no others. Each binding that is still a member then has one problem, of its field and in
its order, and the count tells how many bindings were compiled. A second compilation compiles
nothing and finds the same problems again.
-/
theorem compileAll_exact (inspector : Inspector) (bindings : Bindings)
    : let after := (compileAll inspector bindings).1
      let problems := (compileAll inspector bindings).2.1
      let count := (compileAll inspector bindings).2.2
      Entries.keys after = Entries.keys bindings
      ∧ List.Forall₂ (fun entry final => CompiledTo inspector entry.2 final.2) bindings after
      ∧ List.Forall₂ (Blames inspector) (after.filter fun entry => !entry.2.form.isCompiled)
          problems
      ∧ after.countP (fun entry => entry.2.form.isCompiled)
        = bindings.countP (fun entry => entry.2.form.isCompiled) + count
      ∧ compileAll inspector after = (after, problems, 0) := by
  intro after problems count
  refine ⟨?_, ?_, blames_compileAll inspector bindings,
    countP_isCompiled_compileAll inspector bindings, compileAll_again inspector bindings⟩
  · simp [after, compileAll, Entries.keys]
  · simp only [after, compileAll, List.forall₂_map_right_iff, List.forall₂_same]
    exact fun entry member => compiledTo_compiled inspector entry.2

end SchemaGraph.Binding
