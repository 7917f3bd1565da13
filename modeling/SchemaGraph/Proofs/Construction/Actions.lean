import SchemaGraph.Construction.Actions
import SchemaGraph.Proofs.Completion.Complete
import SchemaGraph.Proofs.Registry.Names
import SchemaGraph.Proofs.Schedule.Silence

/-! What completing a single type comes to.
Both actions store the type in its own slot, leave all other types alone, and report an error where
they fail.
-/

namespace SchemaGraph

-----------------------------------------------------------------------------------------
-- Steps that leave the registry and the errors alone
-----------------------------------------------------------------------------------------

namespace Progress

@[simp] theorem registry_setState (progress : Progress) (slot : Slot) (state : TypeState)
    : (progress.setState slot state).registry = progress.registry :=
  rfl

@[simp] theorem errors_setState (progress : Progress) (slot : Slot) (state : TypeState)
    : (progress.setState slot state).errors = progress.errors :=
  rfl

@[simp] theorem registry_advance (progress : Progress) (slot : Slot) (state : TypeState)
    (status : Status) (event : Definition → TypeState → Event)
    : (progress.advance slot state status event).registry = progress.registry := by
  unfold advance
  dsimp only
  split <;> rfl

@[simp] theorem errors_advance (progress : Progress) (slot : Slot) (state : TypeState)
    (status : Status) (event : Definition → TypeState → Event)
    : (progress.advance slot state status event).errors = progress.errors := by
  unfold advance
  dsimp only
  split <;> rfl

end Progress

/-- The type in the slot has everything that the graph needs. -/
def Registry.CompleteAt (registry : Registry) (slot : Slot) : Prop :=
  ∃ record, registry.get? slot = some record ∧ record.definition.IsComplete

/-- In this registry, the property holds of the definition in the slot. -/
def Registry.HoldsAt (holds : Registry → Definition → Prop) (registry : Registry) (slot : Slot)
    : Prop :=
  ∃ record, registry.get? slot = some record ∧ holds registry record.definition

-----------------------------------------------------------------------------------------
-- Completing names
-----------------------------------------------------------------------------------------

/-- A definition gets the name that is chosen for it if that is a valid one. -/
theorem Definition.completeName_cases (naming : Naming) (definition : Definition)
    : (∃ problem,
        definition.completeName naming = .error problem
        ∧ problem.code = .invalidName
        ∧ ∀ name, definition.chooseName naming = .ok name → Naming.isValidName name = false)
      ∨ ∃ name,
          definition.completeName naming = .ok (definition.withName name)
          ∧ definition.chooseName naming = .ok name
          ∧ Naming.isValidName name = true := by
  unfold completeName
  cases chosen : definition.chooseName naming with
  | error problem =>
      have nameless : problem.code = .invalidName := by
        unfold chooseName at chosen
        split at chosen
        · cases chosen
        · split at chosen
          · cases chosen
            rfl
          · cases chosen
      exact Or.inl ⟨problem, rfl, nameless, nofun⟩
  | ok name =>
      cases valid : Naming.isValidName name with
      | false =>
          refine Or.inl ⟨.invalidName name definition.id, by simp [valid], rfl, ?_⟩
          intro other same
          rwa [← Except.ok.inj same]
      | true => exact Or.inr ⟨name, by simp [valid], rfl, valid⟩

theorem Definition.completeName_ok {naming : Naming} {definition completed : Definition}
    (h : definition.completeName naming = .ok completed)
    : ∃ name, Naming.isValidName name = true ∧ completed = definition.withName name := by
  rcases definition.completeName_cases naming with ⟨_, failed, -⟩ | ⟨name, done, -, valid⟩
  · cases failed.symm.trans h
  · exact ⟨name, valid, Except.ok.inj (h.symm.trans done)⟩

namespace Plan

open Registry Schedule

variable {plan : Plan} {progress : Progress} {slot : Slot} {record : TypeRecord}

/-- What naming a type comes to. Without a valid name it is left as it is, with an error. Else it is
stored under its name, and its key is registered or belongs to another type, which is an error.
-/
theorem nameType_outcome (plan : Plan) (found : progress.registry.get? slot = some record)
    : let result := plan.nameType slot progress
      (∃ problem : Problem,
        problem.code = .invalidName
        ∧ (∀ name,
          record.definition.chooseName plan.options.naming = .ok name
          → Naming.isValidName name = false)
        ∧ result.1 = false
        ∧ result.2.registry = progress.registry
        ∧ result.2.errors = progress.errors ++ [problem.toError])
      ∨ ∃ name,
          record.definition.chooseName plan.options.naming = .ok name
          ∧ Naming.isValidName name = true
          ∧ let new := record.withDefinition (record.definition.withName name)
            let stored := (progress.registry.register new).1
            (∃ holder,
              stored.registerName slot = .error holder
              ∧ result.1 = false
              ∧ result.2.registry = stored
              ∧ result.2.errors = progress.errors ++ [duplicateName stored slot holder])
            ∨ (result.1 = true
              ∧ stored.registerName slot = .ok result.2.registry
              ∧ result.2.errors = progress.errors) := by
  unfold nameType
  rw [found]
  dsimp only
  rcases record.definition.completeName_cases plan.options.naming with
    ⟨problem, completed, code, invalid⟩ | ⟨name, completed, chosen, valid⟩
  · rw [completed]
    exact Or.inl ⟨problem, code, invalid, rfl, rfl, rfl⟩
  · rw [completed]
    refine Or.inr ⟨name, chosen, valid, ?_⟩
    unfold Progress.registerNamed
    dsimp only [Progress.registry_setState]
    cases registered
      : (progress.registry.register
          (record.withDefinition (record.definition.withName name))).1.registerName slot with
    | error holder => exact Or.inl ⟨holder, rfl, rfl, rfl, rfl⟩
    | ok named => exact Or.inr ⟨rfl, by simp, by simp⟩

/-- The same, whatever the errors and the name are. -/
theorem nameType_cases (plan : Plan) (found : progress.registry.get? slot = some record)
    : let result := plan.nameType slot progress
      (result.1 = false
        ∧ result.2.registry = progress.registry
        ∧ ∃ error, result.2.errors = progress.errors ++ [error])
      ∨ ∃ name,
          Naming.isValidName name = true
          ∧ let new := record.withDefinition (record.definition.withName name)
            let stored := (progress.registry.register new).1
            (result.1 = false
              ∧ result.2.registry = stored
              ∧ ∃ error, result.2.errors = progress.errors ++ [error])
            ∨ (result.1 = true
              ∧ stored.registerName slot = .ok result.2.registry
              ∧ result.2.errors = progress.errors) := by
  rcases plan.nameType_outcome found with
    ⟨_, -, -, failed, same, errors⟩ | ⟨name, -, valid, ⟨_, -, failed, same, errors⟩ | named⟩
  · exact Or.inl ⟨failed, same, _, errors⟩
  · exact Or.inr ⟨name, valid, Or.inl ⟨failed, same, _, errors⟩⟩
  · exact Or.inr ⟨name, valid, Or.inr named⟩

/-- Naming a type keeps the registry settled, and leads the name to the type or reports an error.
Witness: a stored name changes neither references nor the number of types, and the name leads to its
type once it is registered.
-/
theorem nameType_advances (plan : Plan) (slot : Slot) (progress : Progress)
    (settled : progress.registry.Settled) (inside : slot < progress.registry.size)
    : Advances plan.nameType Settled NamedAt slot progress := by
  obtain ⟨record, found⟩ := exists_get?_of_lt inside
  rcases plan.nameType_cases found with ⟨failed, same, error, errors⟩ | ⟨name, valid, outcome⟩
  · apply Advances.of_failure failed (same ▸ settled) (by rw [same]) errors (by simp)
    intro other _ named
    exact same ▸ named
  · let new := record.withDefinition (record.definition.withName name)
    have references : new.references = record.references := rfl
    have settledNew := settled.register found references
    have stores := settled.anchored.stores found references
    have sizeNew := stores.size_eq found
    have otherNew {other : Slot} (different : slot ≠ other)
        (named : progress.registry.NamedAt other)
        : (progress.registry.register new).1.NamedAt other :=
      named.register_other settled found references different
    rcases outcome with ⟨failed, stored, error, errors⟩ | ⟨succeeded, registered, errors⟩
    · apply Advances.of_failure failed (stored ▸ settledNew) (stored ▸ sizeNew) errors (by simp)
      intro other different named
      exact stored ▸ otherNew different named
    · have sizeNamed := (size_registerName registered).trans sizeNew
      apply Advances.of_success succeeded (settledNew.registerName registered) sizeNamed errors
      · have here := stores.self
        have stored := (get?_registerName registered slot).trans here
        refine ⟨new, name, stored, record.definition.name_withName name, valid, ?_⟩
        intro key same
        exact get?_byName_registerName registered here same
      · intro other different named
        exact (otherNew different named).registerName registered

/-- A name changes nothing of what an extension adds. -/
theorem additions_nameType (plan : Plan) (settled : progress.registry.Settled)
    (inside : slot < progress.registry.size)
    : (plan.nameType slot progress).2.registry.additions = progress.registry.additions := by
  obtain ⟨record, found⟩ := exists_get?_of_lt inside
  rcases plan.nameType_cases found with ⟨-, same, -⟩ | ⟨name, -, outcome⟩
  · rw [same]
  · let new := record.withDefinition (record.definition.withName name)
    have references : new.references = record.references := rfl
    have stored : (progress.registry.register new).1.additions = progress.registry.additions :=
      (settled.anchored.stores found references).map_records found
        (record.definition.addition_mapHeader _)
    rcases outcome with ⟨-, same, -⟩ | ⟨-, registered, -⟩
    · rw [same]
      exact stored
    · rw [← stored]
      exact additions_registerName registered

-----------------------------------------------------------------------------------------
-- Completing structures
-----------------------------------------------------------------------------------------

/-- What completion brings about: it holds of all that is completed without a problem, it is not
asked of extensions, and no update of the registry undoes it.
-/
structure Brings (holds : Registry → Definition → Prop) : Prop where
  extension
    : ∀ {registry : Registry} {definition : Definition},
        definition.isExtension = true → holds registry definition
  completed
    : ∀ {completion : Completion} {definition : Definition},
        completion.registry.Named
        → (completion.complete definition).2 = []
        → holds completion.registry (completion.complete definition).1
  kept
    : ∀ {before after : Registry} {definition : Definition},
        before.Named → Update before after → holds before definition → holds after definition

theorem brings_isComplete : Brings fun _ definition => definition.IsComplete where
  extension := Definition.isComplete_of_isExtension
  completed _ fine := Completion.complete_isComplete fine
  kept _ _ complete := complete

/-- What completing a type comes to: nothing for an extension, and else the completed definition,
with all problems reported.
Witness: the cases of the call.
-/
theorem completeType_cases (plan : Plan) (found : progress.registry.get? slot = some record)
    : let result := plan.completeType slot progress
      (record.isExtension = true ∧ result = (true, progress))
      ∨ let completion := plan.completion progress record.definition
        let new := record.withDefinition (completion.complete record.definition).1
        result.2.registry = (progress.registry.register new).1
        ∧ result.2.errors
          = progress.errors
            ++ (completion.complete record.definition).2.map Problem.toError
        ∧ result.1 = (completion.complete record.definition).2.isEmpty := by
  unfold completeType
  rw [found]
  dsimp only
  split
  · next extension => exact Or.inl ⟨extension, rfl⟩
  · split
    · next fine =>
        refine Or.inr ⟨?_, ?_, fine.symm⟩
        · rw [Progress.registry_advance]
          rfl
        · rw [Progress.errors_advance]
          rfl
    · next wrong => exact Or.inr ⟨rfl, rfl, (Bool.eq_false_iff.mpr wrong).symm⟩

/-- Completing a type updates the registry, and brings about what completion does or reports an
error.
Witness: a completed type has the references and the outline that it had, so that what holds of the
others is kept.
-/
theorem completeType_advances {holds : Registry → Definition → Prop} (brings : Brings holds)
    (plan : Plan) (slot : Slot) (progress : Progress)
    (named : progress.registry.Named) (inside : slot < progress.registry.size)
    : Advances plan.completeType Named (HoldsAt holds) slot progress := by
  obtain ⟨record, found⟩ := exists_get?_of_lt inside
  rcases plan.completeType_cases found with ⟨extension, same⟩ | ⟨stored, errors, success⟩
  · apply Advances.of_success <;> rw [same]
    · exact named
    · exact ⟨record, found, brings.extension extension⟩
    · intro other _ done
      exact done
  · let completion := plan.completion progress record.definition
    let new := record.withDefinition (completion.complete record.definition).1
    have references : new.references = record.references := rfl
    have update : Update progress.registry (progress.registry.register new).1 :=
      .store found references (completion.outline_complete record.definition)
    have stores := named.settled.anchored.stores found references
    have namedNew := named.update update
    have sizeNew := update.size named.settled
    have others (other : Slot) (different : slot ≠ other)
        (done : progress.registry.HoldsAt holds other)
        : (plan.completeType slot progress).2.registry.HoldsAt holds other := by
      obtain ⟨owner, here, isDone⟩ := done
      have kept := stores.others other different
      exact ⟨owner, stored ▸ kept.trans here, stored ▸ brings.kept named update isDone⟩
    by_cases fine : (completion.complete record.definition).2 = []
    · rw [fine] at errors success
      have done : holds progress.registry new.definition := brings.completed named fine
      have work : (progress.registry.register new).1.HoldsAt holds slot :=
        ⟨new, stores.self, brings.kept named update done⟩
      exact .of_success success (stored ▸ namedNew) (stored ▸ sizeNew) (by simpa using errors)
        (stored ▸ work) others
    · have failed : (plan.completeType slot progress).1 = false := by
        rw [success]
        exact List.isEmpty_eq_false_iff.mpr fine
      have reported : (completion.complete record.definition).2.map Problem.toError ≠ [] := by
        rw [Ne, List.map_eq_nil_iff]
        exact fine
      exact .of_failure failed (stored ▸ namedNew) (stored ▸ sizeNew) errors reported others

theorem additions_completeType (plan : Plan) (settled : progress.registry.Settled)
    (inside : slot < progress.registry.size)
    : (plan.completeType slot progress).2.registry.additions = progress.registry.additions := by
  obtain ⟨record, found⟩ := exists_get?_of_lt inside
  rcases plan.completeType_cases found with ⟨-, same⟩ | ⟨stored, -, -⟩
  · rw [same]
  · let completion := plan.completion progress record.definition
    have update
        : Update progress.registry
            (progress.registry.register
              (record.withDefinition (completion.complete record.definition).1)).1 :=
      .store found rfl (completion.outline_complete record.definition)
    rw [stored]
    exact additions_congr (update.outlines settled)

end Plan
end SchemaGraph
