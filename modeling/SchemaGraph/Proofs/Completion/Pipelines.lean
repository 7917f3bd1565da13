import SchemaGraph.Completion.Bindings
import SchemaGraph.Completion.Structure
import SchemaGraph.Graph.Basic

/-! What a pipeline runs.
The pipeline of a completed field is the field's resolver inside all middleware. Where every binding
could be compiled, a graph built from the bindings has just the resolvers that the pipelines were
built from.
-/

namespace SchemaGraph

/-- The name under which a field is read from the parent, as long as no resolver is bound to it. -/
def Field.parentKey (field : Field) : String :=
  match field.member with
  | some member => if member.isProperty then member.name else field.name
  | none => field.name

namespace Completion

theorem fieldResolver_eq (bindings : Bindings) (owner : String) (field : Field)
    : fieldResolver bindings owner field
      = ((Entries.get? bindings ⟨owner, field.name⟩).bind fun binding =>
            binding.form.resolver?).getD (parentProperty field.parentKey) := by
  unfold fieldResolver
  cases (Entries.get? bindings ⟨owner, field.name⟩).bind fun binding =>
      binding.form.resolver? with
  | some resolver => rfl
  | none =>
      unfold Field.parentKey
      cases field.member <;> rfl

/-- Also of two fields with one name, each runs the resolver that it would have alone. -/
theorem pipeline_of_mem_completeObject {completion : Completion} {type : ObjectType}
    {field : Field} (member : field ∈ (completion.completeObject type).1.fields)
    : field.pipeline
      = some
          (wrapAll completion.middleware
            (fieldResolver completion.bindings (ownerName type.header) field)) := by
  obtain ⟨plain, -, rfl⟩ := List.mem_map.mp member
  rfl

end Completion

-----------------------------------------------------------------------------------------
-- Compiled bindings
-----------------------------------------------------------------------------------------

namespace Binding

variable {inspector : Inspector}

theorem isSome_resolver?_compiled {binding : Binding} (fine : binding.fault? inspector = none)
    : (binding.compiled inspector).form.resolver?.isSome = true := by
  unfold fault? at fine
  unfold compiled
  cases result : binding.compile? inspector with
  | none =>
      unfold compile? at result
      split at result
      · next resolver form => simp [form, BindingForm.resolver?]
      · cases result
  | some outcome =>
      cases outcome with
      | ok resolver => rfl
      | error fault =>
          rw [result] at fine
          cases fine

/-- Where compilation has no problem, every binding has a resolver. -/
theorem isSome_resolver?_of_compileAll {bindings : Bindings}
    (fine : (compileAll inspector bindings).2.1 = [])
    : ∀ entry ∈ (compileAll inspector bindings).1, entry.2.form.resolver?.isSome = true := by
  simp only [compileAll, List.filterMap_eq_nil_iff, Option.map_eq_none_iff] at fine
  simp only [compileAll, List.forall_mem_map]
  exact fun entry member => isSome_resolver?_compiled (fine entry member)

end Binding

namespace TypeGraph

/-- Where every binding has a resolver, the graph has that of the first binding for the field. -/
theorem resolver_build {bindings : Bindings}
    (all : ∀ entry ∈ bindings, entry.2.form.resolver?.isSome = true) (registry : Registry)
    (states : TypeStates) (key : FieldKey)
    : (build registry bindings states).resolver key
      = (Entries.get? bindings key).bind fun binding => binding.form.resolver? := by
  unfold resolver build
  dsimp only
  induction bindings with
  | nil => rfl
  | cons entry rest ih =>
      obtain ⟨first, binding⟩ := entry
      obtain ⟨here, later⟩ := List.forall_mem_cons.mp all
      obtain ⟨resolver, has⟩ := Option.isSome_iff_exists.mp here
      simp only [List.filterMap_cons, has, Option.map_some, Entries.get?_cons, ih later]
      split
      · exact has.symm
      · rfl

end TypeGraph
end SchemaGraph
