import SchemaGraph.Proofs.Completion.Faces
import SchemaGraph.Proofs.Construction.Lookups

/-! Completing types in any order.
A completed type shows the others the face that it had before, and none of them reads more of it. So
each type is completed as it would be at the start, wherever in the order its turn comes.
-/

namespace SchemaGraph

open Registry Schedule

/-- The slots of the types that are no extensions. -/
def Registry.baseSlots (registry : Registry) : List Slot :=
  registry.slots.filter fun slot =>
    (registry.get? slot).any fun record => !record.isExtension

theorem Registry.mem_baseSlots {registry : Registry} {slot : Slot}
    (member : slot ∈ registry.baseSlots)
    : ∃ record, registry.get? slot = some record ∧ record.isExtension = false := by
  obtain ⟨-, holds⟩ := List.mem_filter.mp member
  obtain ⟨record, found, base⟩ := (Option.any_eq_true _ _).mp holds
  exact ⟨record, found, by simpa using base⟩

theorem Registry.nodup_baseSlots (registry : Registry) : registry.baseSlots.Nodup :=
  List.nodup_range.filter _

namespace Plan

variable {plan : Plan} {start progress : Progress} {slot : Slot} {record : TypeRecord}
  {done : List Slot}

@[simp] theorem bindings_advance (progress : Progress) (slot : Slot) (state : TypeState)
    (status : Status) (event : Definition → TypeState → Event)
    : (progress.advance slot state status event).state.bindings = progress.state.bindings := by
  unfold Progress.advance
  dsimp only
  split <;> rfl

theorem bindings_completeType (plan : Plan) (slot : Slot) (progress : Progress)
    : (plan.completeType slot progress).2.state.bindings = progress.state.bindings := by
  unfold completeType
  split
  · rfl
  · split
    · rfl
    · dsimp only
      split
      · rw [bindings_advance]
        rfl
      · rfl

/-- What completing the type gives in this progress. -/
def completed (plan : Plan) (progress : Progress) (record : TypeRecord)
    : Definition × List Problem :=
  (plan.completion progress record.definition).complete record.definition

/-- The type with its definition completed, as in this progress. -/
def withCompletion (plan : Plan) (progress : Progress) (record : TypeRecord) : TypeRecord :=
  record.withDefinition (plan.completed progress record).1

/-- The errors from completing the slot in this progress. -/
def completionErrors (plan : Plan) (progress : Progress) (slot : Slot) : List SchemaError :=
  match progress.registry.get? slot with
  | none => []
  | some record => (plan.completed progress record).2.map Problem.toError

/-- From the start on, just the types in the slots were completed, each as at the start. -/
structure CompletedSoFar (plan : Plan) (start : Progress) (done : List Slot)
    (progress : Progress) : Prop where
  unmoved : Unmoved start.registry progress.registry
  byName : progress.registry.byName = start.registry.byName
  bindings : progress.state.bindings = start.state.bindings
  get?
    : ∀ slot,
        progress.registry.get? slot
        = (start.registry.get? slot).map fun record =>
            if slot ∈ done then plan.withCompletion start record else record
  errors : progress.errors = start.errors ++ done.flatMap (plan.completionErrors start)

theorem completedSoFar_nil (plan : Plan) (start : Progress)
    : CompletedSoFar plan start [] start where
  unmoved := .refl start.registry
  byName := rfl
  bindings := rfl
  get? slot := by simp
  errors := by simp

theorem face_withCompletion (plan : Plan) (progress : Progress) (record : TypeRecord)
    : (plan.withCompletion progress record).face = record.face :=
  TypeRecord.face_congr (Completion.outline_complete _ _) rfl

/-- Witness: references lead to the same slots, and what they hold has the same face. -/
theorem CompletedSoFar.lookAlike (sofar : CompletedSoFar plan start done progress)
    : LookAlike start.registry progress.registry := by
  intro reference
  have located : progress.registry.locate reference = start.registry.locate reference := by
    unfold locate
    simp only [sofar.unmoved.find, findByName, sofar.byName]
  unfold resolve
  rw [located]
  cases start.registry.locate reference with
  | none => rfl
  | some slot =>
      rw [Option.bind_some, Option.bind_some, sofar.get?, Option.map_map]
      congr 1
      funext record
      dsimp only [Function.comp_apply]
      split
      · exact face_withCompletion plan start record
      · rfl

/-- The type is completed as at the start. -/
theorem CompletedSoFar.completed_eq (sofar : CompletedSoFar plan start done progress)
    (record : TypeRecord)
    : plan.completed progress record = plan.completed start record := by
  have alike := sofar.lookAlike
  have same
      : plan.completion progress record.definition
        = { plan.completion start record.definition with registry := progress.registry } := by
    rw [completion, completion, sofar.bindings]
  rw [completed, same]
  exact Completion.complete_congr (plan.completion start record.definition) alike record.definition

/-- The turn of a type completes it as at the start, whichever types have had theirs.
Witness: a completion reads outlines and look-ups only, which no completion changes.
-/
theorem CompletedSoFar.completeType (sofar : CompletedSoFar plan start done progress)
    (anchored : start.registry.Anchored) (covered : start.registry.Covered)
    (found : start.registry.get? slot = some record) (base : record.isExtension = false)
    (undone : slot ∉ done)
    : CompletedSoFar plan start (done ++ [slot]) (plan.completeType slot progress).2 := by
  have here : progress.registry.get? slot = some record := by
    rw [sofar.get?, found, Option.map_some, if_neg undone]
  have new : record.withDefinition (plan.completed progress record).1
      = plan.withCompletion start record := by
    rw [sofar.completed_eq, withCompletion]
  rcases plan.completeType_cases here with ⟨extension, -⟩ | ⟨stored, errors, -⟩
  · rw [base] at extension
    cases extension
  · rw [← completed, new] at stored
    rw [← completed, sofar.completed_eq] at errors
    have anchoredHere := anchored.unmoved sofar.unmoved
    have standing : (plan.withCompletion start record).standing = record.standing :=
      record.standing_complete _
    have stores := anchoredHere.stores here (references_congr standing)
    constructor
    · rw [stored]
      exact sofar.unmoved.trans
        (anchoredHere.unmoved_register (covered.unshifted sofar.unmoved.toUnshifted) here
          standing)
    · rw [stored, byName_register, sofar.byName]
    · rw [bindings_completeType, sofar.bindings]
    · intro other
      rw [stored]
      by_cases own : slot = other
      · subst own
        rw [show Registry.get? _ slot = some _ from stores.self, found]
        simp
      · rw [show Registry.get? _ other = _ from stores.others other own, sofar.get?]
        simp [Ne.symm own]
    · rw [errors, sofar.errors, List.flatMap_append, List.append_assoc]
      simp [completionErrors, found]

theorem CompletedSoFar.afterCalls {order : List Slot}
    (sofar : CompletedSoFar plan start done progress) (anchored : start.registry.Anchored)
    (covered : start.registry.Covered)
    (bases : ∀ slot ∈ order, slot ∈ start.registry.baseSlots) (once : (done ++ order).Nodup)
    : CompletedSoFar plan start (done ++ order)
        (Schedule.afterCalls plan.completeType order progress) := by
  induction order generalizing done progress with
  | nil => simpa using sofar
  | cons slot rest ih =>
      obtain ⟨record, found, base⟩ := mem_baseSlots (bases slot List.mem_cons_self)
      have undone : slot ∉ done := by
        intro member
        exact List.disjoint_of_nodup_append once member List.mem_cons_self
      have step := sofar.completeType anchored covered found base undone
      rw [List.append_cons] at once ⊢
      exact ih step (fun other member => bases other (List.mem_cons_of_mem slot member)) once

/-- Whatever the order is in which all types but the extensions are completed, all of them are the
same in the end, and the same errors are reported.
Witness: what is done at the end depends on which slots had their turn, and not on when.
-/
theorem completeType_perm (plan : Plan) {progress : Progress}
    (built : progress.registry.IsBuilt) (anchored : progress.registry.Anchored)
    {first second : List Slot} (isFirst : first.Perm progress.registry.baseSlots)
    (isSecond : second.Perm progress.registry.baseSlots)
    : let one := Schedule.afterCalls plan.completeType first progress
      let other := Schedule.afterCalls plan.completeType second progress
      one.registry.records = other.registry.records
      ∧ one.errors.Perm other.errors := by
  intro one other
  have completes {order : List Slot} (isOrder : order.Perm progress.registry.baseSlots)
      : CompletedSoFar plan progress order
          (Schedule.afterCalls plan.completeType order progress) :=
    (completedSoFar_nil plan progress).afterCalls anchored built.covered
      (fun _ member => isOrder.mem_iff.mp member)
      (isOrder.nodup_iff.mpr progress.registry.nodup_baseSlots)
  have left := completes isFirst
  have right := completes isSecond
  have same : first.Perm second := isFirst.trans isSecond.symm
  constructor
  · apply List.ext_getElem?
    intro slot
    refine (left.get? slot).trans (Eq.trans ?_ (right.get? slot).symm)
    simp only [same.mem_iff]
  · rw [left.errors, right.errors]
    exact (same.flatMap_right _).append_left _

end Plan

namespace Greetings

/-- The query type, its extension and the directive without the scalar type that they refer to. -/
def unresolved : Progress :=
  { Progress.start with
    registry :=
      Registry.empty.applyAll
        [
          .register (TypeRecord.new (query "Query" "hello") [] [] .nothing),
          .register (TypeRecord.new (.extension (query "MoreQuery" "goodbye")) [] [] .nothing),
          .register (TypeRecord.new (.directive polite) [] [] .nothing)
        ] }

end Greetings

namespace Plan

theorem unresolved_perm
    : let start := Greetings.unresolved
      let one := Schedule.afterCalls Greetings.plan.completeType [0, 2] start
      let other := Schedule.afterCalls Greetings.plan.completeType [2, 0] start
      start.registry.IsBuilt
      ∧ start.registry.Anchored
      ∧ start.registry.baseSlots = [0, 2]
      ∧ one.errors.map SchemaError.typeName = [some "Query", some "Query", some "@polite"]
      ∧ other.errors.map SchemaError.typeName = [some "@polite", some "Query", some "Query"]
      ∧ one.registry.records = other.registry.records
      ∧ one.errors.Perm other.errors := by
  intro start one other
  have built : start.registry.IsBuilt := ⟨_, rfl⟩
  have anchored : start.registry.Anchored :=
    ⟨by decide +kernel, by decide +kernel, by decide +kernel⟩
  have bases : start.registry.baseSlots = [0, 2] := by decide +kernel
  have forth : List.Perm [0, 2] start.registry.baseSlots := by rw [bases]
  have back : List.Perm [2, 0] start.registry.baseSlots := by
    rw [bases]
    exact .swap 0 2 []
  obtain ⟨records, errors⟩ := completeType_perm Greetings.plan built anchored forth back
  exact ⟨built, anchored, bases, rfl, rfl, records, errors⟩

end Plan
end SchemaGraph
