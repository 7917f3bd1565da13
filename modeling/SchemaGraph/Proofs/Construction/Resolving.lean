import SchemaGraph.Proofs.Completion.Pipelines
import SchemaGraph.Proofs.Construction.CompletionOrder
import SchemaGraph.Proofs.Construction.Integrity
import SchemaGraph.Proofs.Construction.Problems

/-! Resolving the fields of a published graph.
A run that publishes a graph has completed every type in the registry that the merging left, with
bindings that were all compiled. So a field's pipeline runs the very resolver that the graph has for
the field, or else reads the parent, inside the middleware of the plan.
-/

namespace SchemaGraph

open Registry Schedule

-----------------------------------------------------------------------------------------
-- Completing all types
-----------------------------------------------------------------------------------------

/-- A run that reports nothing has called the action for every slot, once. -/
theorem Schedule.perm_of_errors {σ : Type} {phase : Phase} {action : Action σ}
    {workspace : Workspace σ}
    (adds
      : AddsErrors workspace (run phase action workspace).2
          ((run phase action workspace).1.success = true))
    (clean : (run phase action workspace).2.errors = [])
    : (run phase action workspace).1.batches.flatten.Perm workspace.registry.slots := by
  obtain ⟨more, added, fine⟩ := adds
  rw [added] at clean
  have succeeded := fine.mpr (List.append_eq_nil_iff.mp clean).2
  have perm := run_perm phase action workspace
  rwa [(run_success_iff phase action workspace |>.mp succeeded).2, List.append_nil] at perm

namespace Plan

variable {plan : Plan} {start progress : Progress} {slot : Slot} {record : TypeRecord}
  {done : List Slot}

theorem completed_of_isExtension (plan : Plan) (progress : Progress)
    (extension : record.isExtension = true)
    : plan.withCompletion progress record = record
      ∧ (plan.completed progress record).2 = [] := by
  obtain ⟨synonyms, definition, dependencies, discovered⟩ := record
  cases definition with
  | extension body => exact ⟨rfl, rfl⟩
  | _ => cases extension

/-- The turn of an extension changes nothing, just as its completion would. -/
theorem CompletedSoFar.completeExtension (sofar : CompletedSoFar plan start done progress)
    (found : start.registry.get? slot = some record) (extension : record.isExtension = true)
    : CompletedSoFar plan start (done ++ [slot]) (plan.completeType slot progress).2 := by
  obtain ⟨same, fine⟩ := plan.completed_of_isExtension start extension
  have here : progress.registry.get? slot = some record := by
    rw [sofar.get?, found, Option.map_some, same, ite_self]
  have unchanged : (plan.completeType slot progress).2 = progress := by
    unfold Plan.completeType
    simp [here, extension]
  rw [unchanged]
  refine ⟨sofar.unmoved, sofar.byName, sofar.bindings, ?_, ?_⟩
  · intro other
    rw [sofar.get?]
    by_cases own : other = slot
    · subst own
      rw [found, Option.map_some, Option.map_some, same, ite_self, ite_self]
    · simp [own]
  · rw [sofar.errors, List.flatMap_append]
    simp [completionErrors, found, fine]

/-- Each type is completed as at the start, whatever the order of the calls is.
Witness: induction on the slots that remain, each of which has not been done before.
-/
theorem CompletedSoFar.afterAllCalls {order : List Slot}
    (sofar : CompletedSoFar plan start done progress) (anchored : start.registry.Anchored)
    (covered : start.registry.Covered) (inside : ∀ slot ∈ order, slot < start.registry.size)
    (once : (done ++ order).Nodup)
    : CompletedSoFar plan start (done ++ order)
        (Schedule.afterCalls plan.completeType order progress) := by
  induction order generalizing done progress with
  | nil => simpa using sofar
  | cons slot rest ih =>
      obtain ⟨record, found⟩ := exists_get?_of_lt (inside slot List.mem_cons_self)
      have undone : slot ∉ done := by
        intro member
        exact List.disjoint_of_nodup_append once member List.mem_cons_self
      have step
          : CompletedSoFar plan start (done ++ [slot])
              (plan.completeType slot progress).2 := by
        cases extension : record.isExtension with
        | true => exact sofar.completeExtension found extension
        | false => exact sofar.completeType anchored covered found extension undone
      rw [List.append_cons] at once ⊢
      exact ih step (fun other member => inside other (List.mem_cons_of_mem slot member)) once

/-- A completing without errors leaves every type as its completion at the start is.
Witness: without an error every slot has had its call.
-/
theorem completeTypes_get? (anchored : progress.registry.Anchored)
    (covered : progress.registry.Covered) (clean : (plan.completeTypes progress).errors = [])
    : let after := plan.completeTypes progress
      after.state.bindings = progress.state.bindings
      ∧ ∀ slot,
          after.registry.get? slot
          = (progress.registry.get? slot).map (plan.withCompletion progress) := by
  have perm := perm_of_errors (plan.completing_addsErrors progress) clean
  have calls :=
    (completedSoFar_nil plan progress).afterAllCalls anchored covered
      (fun _ member => mem_slots.mp (perm.mem_iff.mp member))
      (perm.nodup_iff.mpr List.nodup_range)
  constructor
  · rw [← calls.bindings]
    exact congrArg Journal.bindings (run_state .completed plan.completeType progress)
  · intro slot
    have registry := run_registry .completed plan.completeType progress
    rw [show (plan.completeTypes progress).registry = _ from registry, calls.get?]
    cases found : progress.registry.get? slot with
    | none => rfl
    | some record =>
        have member := perm.mem_iff.mpr (mem_slots.mpr (lt_size_of_get? found))
        rw [Option.map_some, Option.map_some, if_pos (List.mem_append_right [] member)]

-----------------------------------------------------------------------------------------
-- The progress of a run that publishes
-----------------------------------------------------------------------------------------

/-- Behind the merging, no type claims the canonical reference of another one, and rebuilding the
indexes would not change what may be found.
-/
theorem compiledProgress_settled (distinct : plan.catalog.Distinct)
    : plan.compiledProgress.registry.Settled ∧ plan.compiledProgress.registry.Current := by
  obtain ⟨settled, current⟩ := plan.nameTypes_settled (discoverTypes_settled distinct)
  have merged : Revisions plan.namedProgress.registry plan.compiledProgress.registry :=
    plan.later_revisions plan.mergeExtensions List.mem_cons_self plan.namedProgress
  obtain ⟨unshifted, still⟩ := merged.unshifted settled current
  exact ⟨still, current.unshifted unshifted⟩

/-- Every binding of a clean run was compiled. -/
theorem isSome_resolver?_of_errors (clean : plan.compiledProgress.errors = [])
    : ∀ entry ∈ plan.compiledProgress.state.bindings,
        entry.2.form.resolver?.isSome = true := by
  obtain ⟨-, reported⟩ := List.append_eq_nil_iff.mp clean
  exact Binding.isSome_resolver?_of_compileAll (List.map_eq_nil_iff.mp reported)

theorem bindings_validateTypes (plan : Plan) (progress : Progress)
    : (plan.validateTypes progress).state.bindings = progress.state.bindings := by
  unfold validateTypes
  dsimp only
  split <;> rfl

/-- The graph of a run has the types as they were completed, and the resolvers of the compiled
bindings.
Witness: the validation behind the completing changes neither types nor bindings.
-/
theorem graph_get? {handle : Handle} {graph : TypeGraph} (distinct : plan.catalog.Distinct)
    (published : (plan.run handle).result = .ok graph)
    : (∀ slot,
        graph.registry.get? slot
        = (plan.compiledProgress.registry.get? slot).map
            (plan.withCompletion plan.compiledProgress))
      ∧ ∀ key,
          graph.resolver key
          = (Entries.get? plan.compiledProgress.state.bindings key).bind fun binding =>
              binding.form.resolver? := by
  obtain ⟨clean, rfl⟩ := graph_of_run published
  obtain ⟨whole, -, compiled, fine⟩ := progress_eq_of_problems clean
  obtain ⟨settled, current⟩ := compiledProgress_settled distinct
  obtain ⟨bindings, types⟩ := completeTypes_get? settled.anchored current.covered fine
  rw [whole]
  constructor
  · intro slot
    rw [← types]
    exact congrArg (Registry.get? · slot) (plan.registry_validateTypes _)
  · intro key
    unfold Progress.graph
    rw [bindings_validateTypes, bindings]
    exact TypeGraph.resolver_build (isSome_resolver?_of_errors compiled) _ _ key

-----------------------------------------------------------------------------------------
-- Resolving a field
-----------------------------------------------------------------------------------------

/-- An object type that was completed was completed as one. -/
theorem exists_of_withCompletion {type : ObjectType}
    (same : (plan.withCompletion progress record).definition = .object type)
    : ∃ completion plain,
        completion.middleware = plan.middleware
        ∧ completion.bindings = progress.state.bindings
        ∧ type = (Completion.completeObject completion plain).1 := by
  have completed
      : ((plan.completion progress record.definition).complete record.definition).1
        = .object type :=
    same
  refine ⟨plan.completion progress record.definition, ?_⟩
  cases before : record.definition with
  | object plain =>
      rw [before] at completed
      exact ⟨plain, rfl, rfl, (Definition.object.inj completed).symm⟩
  | _ =>
      rw [before] at completed
      cases completed

/-- Resolving a field that an object type of a published graph declares runs the resolver that the
graph has for the field, or else reads the parent, inside all middleware, the first outermost. Of
several fields with the name, the first counts.
-/
theorem run_resolveField {handle : Handle} {graph : TypeGraph}
    (distinct : plan.catalog.Distinct) (published : (plan.run handle).result = .ok graph)
    : ∀ type ∈ graph.objectTypes,
        ∀ typeName,
          type.header.name = some typeName
          → ∀ field fieldName,
              type.fields.find? (fun field => field.name = fieldName) = some field
              → ∀ parent arguments,
                  graph.resolveField ⟨typeName, fieldName⟩ parent arguments
                  = plan.middleware.foldr (fun wrap next => wrap next)
                      ((graph.resolver ⟨typeName, fieldName⟩).getD
                        (parentProperty field.parentKey))
                      parent arguments := by
  intro type member typeName named field fieldName first parent arguments
  obtain ⟨record, isType, isObject⟩ := List.mem_filterMap.mp member
  obtain ⟨stored, which⟩ := List.mem_filter.mp isType
  have definition : record.definition = .object type := by
    cases same : record.definition with
    | object other =>
        rw [same] at isObject
        rw [Option.some.inj isObject]
    | _ =>
        rw [same] at isObject
        cases isObject
  have isNamed : record.name = some typeName := by
    rw [← named, TypeRecord.name, definition]
    rfl
  -- The name leads to the type, and the field is the first of its name.
  have registryNamed : graph.registry.Named := by
    obtain ⟨clean, same⟩ := run_ok published
    rw [same]
    exact (named_and_complete_of_problems distinct clean).1
  have leads : graph.field ⟨typeName, fieldName⟩ = some field := by
    rw [TypeGraph.field, TypeGraph.getType_of_name registryNamed stored which isNamed,
      Option.bind_some, definition]
    exact first
  -- The type is the completion of one, hence its fields have the pipelines that were built then.
  obtain ⟨slot, here⟩ := exists_get?_of_mem stored
  obtain ⟨types, resolvers⟩ := graph_get? distinct published
  rw [types] at here
  obtain ⟨earlier, -, rfl⟩ := Option.map_eq_some_iff.mp here
  obtain ⟨completion, plain, middleware, bindings, rfl⟩ := exists_of_withCompletion definition
  have owner : Completion.ownerName plain.header = typeName := by
    rw [Completion.ownerName, show plain.header.name = some typeName from named, Option.getD_some]
  have own : field.name = fieldName := by simpa using List.find?_some first
  have pipeline := Completion.pipeline_of_mem_completeObject (List.mem_of_find?_eq_some first)
  rw [middleware, bindings, owner, Completion.fieldResolver_eq, own] at pipeline
  simp only [TypeGraph.resolveField, leads, pipeline, resolvers, wrapAll]

end Plan

-----------------------------------------------------------------------------------------
-- A plan with middleware
-----------------------------------------------------------------------------------------

namespace Greetings

/-- Puts a mark in front of a text. -/
def marking (mark : String) : Middleware := fun next parent arguments =>
  (next parent arguments).map fun value =>
    match value with
    | .text content => .text (mark ++ content)
    | other => other

/-- The greetings inside two middlewares. The query type binds its own greeting to a property; that
of the extension is not bound.
-/
def marked : Plan :=
  let salute : Member := ⟨"salute", RuntimeType.object, .property, none⟩
  { plan with
    catalog :=
      (Descriptor.ofDefinition (query "Query" "hello")).bindMember ⟨⟨"Query", "hello"⟩, salute⟩
        :: catalog.tail
    middleware := [marking "outer ", marking "inner "] }

theorem marked_distinct : marked.catalog.Distinct where
  canonical := by decide
  aliases := by decide

def markedPublication : marked.Publication :=
  marked.publish (by cbv)

theorem problems_marked : marked.progress.problems = [] :=
  markedPublication.problems

end Greetings

namespace Plan

theorem marked_resolveField
    : let graph := Greetings.marked.progress.graph
      let parent : Value := .object [("salute", .text "hi"), ("goodbye", .text "bye")]
      Greetings.marked.catalog.Distinct
      ∧ (Greetings.marked.run .unbound).result = .ok graph
      ∧ graph.objectTypes.map (fun type => type.header.name) = [some "Query"]
      ∧ graph.resolveField ⟨"Query", "hello"⟩ parent [] = .ok (.text "outer inner hi")
      ∧ graph.resolveField ⟨"Query", "goodbye"⟩ parent [] = .ok (.text "outer inner bye") := by
  intro graph parent
  have published := Greetings.marked.run_of_problems Greetings.problems_marked
  let keyOf (type : ObjectType) (fieldName : String) : Option String :=
    (type.fields.find? fun field => field.name = fieldName).map Field.parentKey
  have views
      : graph.objectTypes.map (fun type =>
          (type.header.name, keyOf type "hello", keyOf type "goodbye"))
        = [(some "Query", some "hello", some "goodbye")] := by
    cbv
  obtain ⟨type, only, view⟩ := List.map_eq_singleton_iff.mp views
  obtain ⟨named, keys⟩ := Prod.mk.inj view
  obtain ⟨hello, goodbye⟩ := Prod.mk.inj keys
  have member : type ∈ graph.objectTypes := by rw [only]; exact List.mem_singleton_self type
  have runs (fieldName : String) (read : keyOf type fieldName = some fieldName)
      : graph.resolveField ⟨"Query", fieldName⟩ parent []
        = Greetings.marked.middleware.foldr (fun wrap next => wrap next)
            ((graph.resolver ⟨"Query", fieldName⟩).getD (parentProperty fieldName)) parent [] := by
    obtain ⟨field, first, key⟩ := Option.map_eq_some_iff.mp read
    have resolved :=
      run_resolveField Greetings.marked_distinct published type member "Query" named field
        fieldName first parent []
    rwa [key] at resolved
  refine ⟨Greetings.marked_distinct, published, ?_, ?_, ?_⟩
  · rw [only, List.map_singleton, named]
  · rw [runs "hello" hello]
    cbv
  · rw [runs "goodbye" goodbye]
    cbv

end Plan
end SchemaGraph
