import SchemaGraph.Proofs.Completion.Idempotence
import SchemaGraph.Proofs.Completion.Unmatched
import SchemaGraph.Proofs.Definition.Uniting

/-! What merged extensions declare.
A type that extensions are merged into keeps what it has and takes up what they declare. That takes
an extension that wraps the declaration itself: of an extension within an extension the description
alone is taken up, while it is counted all the same, since its kind is seen through both.
-/

namespace SchemaGraph

namespace Definition

/-- An extension that wraps no further extension. -/
def isDirectExtension : Definition → Bool
  | extension body => !body.isExtension
  | _ => false

/-- Whatever the part declares is there: fields and values by their names, references up to
agreement.
-/
structure Includes (whole part : Definition) : Prop where
  fieldNames : ∀ name ∈ part.fieldNames, name ∈ whole.fieldNames
  related : ∀ reference ∈ part.related, reference.isIn whole.related = true
  values : ∀ value ∈ part.values, value ∈ whole.values

/-- Identity and kind are the same, and what is new comes last. -/
structure Extends (later earlier : Definition) : Prop where
  outline : later.outline = earlier.outline
  fieldNames : earlier.fieldNames <+: later.fieldNames
  related : earlier.related <+: later.related
  values : earlier.values <+: later.values

section

variable {base body whole part later earlier : Definition}

/-- Every definition extends itself. -/
theorem Extends.refl (definition : Definition) : definition.Extends definition :=
  ⟨rfl, List.prefix_rfl, List.prefix_rfl, List.prefix_rfl⟩

/-- What extends an extended definition extends it as a whole. -/
theorem Extends.trans {first second third : Definition} (further : third.Extends second)
    (near : second.Extends first)
    : third.Extends first :=
  ⟨further.outline.trans near.outline, near.fieldNames.trans further.fieldNames,
    near.related.trans further.related, near.values.trans further.values⟩

/-- What is included stays so when the whole is extended, and so is less of it. -/
theorem Includes.mono (includes : whole.Includes part) (further : later.Extends whole)
    (near : part.Extends earlier)
    : later.Includes earlier where
  fieldNames name declared :=
    further.fieldNames.subset (includes.fieldNames name (near.fieldNames.subset declared))
  related reference declared := by
    obtain ⟨other, there, agrees⟩ :=
      Reference.isIn_iff.mp (includes.related reference (near.related.subset declared))
    exact Reference.isIn_iff.mpr ⟨other, further.related.subset there, agrees⟩
  values value declared :=
    further.values.subset (includes.values value (near.values.subset declared))

-----------------------------------------------------------------------------------------
-- One merge
-----------------------------------------------------------------------------------------

/-- A changed header adds nothing and takes nothing away. -/
theorem extends_mapHeader {change : Header → Header}
    (same : (base.mapHeader change).outline = base.outline)
    : (base.mapHeader change).Extends base :=
  ⟨same, by simp [fieldNames], by simp, by simp⟩

/-- A body of another variant adds its description alone. -/
theorem alike_or_merge_eq (base body : Definition)
    : Alike base body
      ∨ base.merge body
        = base.mapHeader fun header =>
            { header with description := header.description.or body.header.description } := by
  cases base <;> cases body <;> first
    | exact Or.inl (by constructor)
    | exact Or.inr rfl

/-- A merge of definitions of one kind keeps the names of the fields, the references and the values
of the base at their places.
-/
theorem Alike.extends_merge (alike : Alike base body) : (base.merge body).Extends base := by
  obtain ⟨-, fields, related, values, -⟩ := alike.parts_merge
  refine ⟨outline_merge base body, ?_, ?_, ?_⟩
  · rw [fieldNames, fieldNames, fields, map_name_mergeFields]
    exact List.prefix_append _ _
  · rw [related]
    exact Reference.prefix_addAll _ _
  · rw [values]
    exact List.prefix_append _ _

/-- Any merge extends the base.
Witness: definitions of different kinds change only its header.
-/
theorem extends_merge (base body : Definition) : (base.merge body).Extends base := by
  rcases alike_or_merge_eq base body with alike | same
  · exact alike.extends_merge
  · have outline := outline_merge base body
    rw [same] at outline ⊢
    exact extends_mapHeader outline

/-- A merge of definitions of one kind has all that the body has. -/
theorem Alike.includes_merge (alike : Alike base body) : (base.merge body).Includes body := by
  obtain ⟨-, fields, related, values, -⟩ := alike.parts_merge
  constructor
  · intro name declared
    rw [fieldNames, fields, map_name_mergeFields]
    exact mem_append_newItems.mpr (Or.inr declared)
  · intro reference declared
    rw [related]
    exact Reference.isIn_addAll_of_mem declared
  · intro value declared
    rw [values]
    exact mem_append_newItems.mpr (Or.inr declared)

/-- Two definitions of one kind are alike or declare nothing, unless one of them is an extension. -/
theorem alike_or_nothing_declared (kind : body.kind = base.kind)
    (direct : base.isExtension = false) (directBody : body.isExtension = false)
    : Alike base body ∨ (body.fieldNames = [] ∧ body.related = [] ∧ body.values = []) := by
  cases base with
  | extension inner => cases direct
  | _ =>
      cases body with
      | extension inner => cases directBody
      -- The same variant, one that declares nothing, or a variant of another kind.
      | _ => first
        | exact Or.inl (by constructor)
        | exact Or.inr ⟨rfl, rfl, rfl⟩
        | cases kind

/-- Of two definitions of one kind the second is taken up, unless one of them is an extension. -/
theorem includes_merge (kind : body.kind = base.kind) (direct : base.isExtension = false)
    (directBody : body.isExtension = false)
    : (base.merge body).Includes body := by
  rcases alike_or_nothing_declared kind direct directBody with
    alike | ⟨fieldNames, related, values⟩
  · exact alike.includes_merge
  · exact ⟨by simp [fieldNames], by simp [related], by simp [values]⟩

/-- An extension is direct if what it adds is no extension itself. -/
theorem isDirectExtension_eq (definition : Definition)
    : definition.isDirectExtension = definition.addition.any fun body => !body.isExtension := by
  cases definition with
  | extension body => cases body <;> rfl
  | _ => rfl

end

end Definition

namespace Merging

open Registry

variable {registry : Registry} {merge : Merge} {slot : Slot}

/-- A base that an extension is merged into is extended by it. -/
theorem extends_mergedRecord (registry : Registry) (base extension : TypeRecord)
    : (mergedRecord registry base extension).definition.Extends base.definition := by
  unfold mergedRecord
  dsimp only [TypeRecord.addDependencies, TypeRecord.withDefinition]
  split
  · exact Definition.extends_merge _ _
  · exact .refl _

/-- The body of the extension is merged into the definition of the base. -/
theorem definition_mergedRecord {base extension : TypeRecord} {body : Definition}
    (declared : extension.definition = .extension body)
    : (mergedRecord registry base extension).definition = base.definition.merge body := by
  unfold mergedRecord
  rw [declared]
  rfl

/-- A base has all of a direct extension of its kind.
Witness: neither of the two definitions is an extension, so they are alike.
-/
theorem includes_mergedRecord {base extension : TypeRecord} (kind : extension.kind = base.kind)
    (direct : base.isExtension = false)
    (directExtension : extension.definition.isDirectExtension = true)
    : (mergedRecord registry base extension).definition.Includes extension.definition := by
  cases declared : extension.definition with
  | extension body =>
      rw [declared] at directExtension
      have sameKind : body.kind = base.definition.kind := by
        rw [TypeRecord.kind, declared] at kind
        exact kind
      have directBody : body.isExtension = false := by
        simpa [Definition.isDirectExtension] using directExtension
      have included := Definition.includes_merge sameKind direct directBody
      rw [definition_mergedRecord declared]
      exact ⟨included.fieldNames, included.related, included.values⟩
  | _ =>
      rw [declared] at directExtension
      cases directExtension

-----------------------------------------------------------------------------------------
-- All merges
-----------------------------------------------------------------------------------------

section

variable (anchored : registry.Anchored)
include anchored

/-- A merge stores its base over itself. -/
theorem stores_store (found : registry.get? merge.baseSlot = some merge.base)
    : Stores registry merge.baseSlot (mergedRecord registry merge.base merge.extension)
        (store registry merge) :=
  anchored.stores found (references_congr (standing_mergedRecord _ _ _))

/-- So the canonical references go on to find their types. -/
theorem anchored_store (found : registry.get? merge.baseSlot = some merge.base)
    : (store registry merge).Anchored :=
  anchored.register found (references_congr (standing_mergedRecord _ _ _))

/-- What is there after a merge extends what was in its slot before. -/
theorem exists_before_store (found : registry.get? merge.baseSlot = some merge.base)
    {later : TypeRecord} (here : (store registry merge).get? slot = some later)
    : ∃ earlier,
        registry.get? slot = some earlier ∧ later.definition.Extends earlier.definition := by
  rcases (stores_store anchored found).get?_cases here with ⟨rfl, rfl⟩ | ⟨-, there⟩
  · exact ⟨merge.base, found, extends_mergedRecord _ _ _⟩
  · exact ⟨later, there, .refl _⟩

/-- What is there before a merge is extended by what is in its slot afterwards. -/
theorem exists_after_store (found : registry.get? merge.baseSlot = some merge.base)
    {earlier : TypeRecord} (here : registry.get? slot = some earlier)
    : ∃ later,
        (store registry merge).get? slot = some later
        ∧ later.definition.Extends earlier.definition := by
  have stores := stores_store anchored found
  by_cases own : merge.baseSlot = slot
  · subst own
    cases Option.some.inj (found.symm.trans here)
    exact ⟨_, stores.self, extends_mergedRecord _ _ _⟩
  · exact ⟨earlier, (stores.others slot own).trans here, .refl _⟩

/-- No merge of a trace takes anything from a type, by induction on the merges. -/
theorem exists_after_merges {merges : List Merge} (traced : Traced registry merges)
    {earlier : TypeRecord} (here : registry.get? slot = some earlier)
    : ∃ later,
        (merges.foldl store registry).get? slot = some later
        ∧ later.definition.Extends earlier.definition := by
  induction merges generalizing registry earlier with
  | nil => exact ⟨earlier, here, .refl _⟩
  | cons merge rest ih =>
      obtain ⟨found, -, -, further⟩ := traced
      obtain ⟨middle, between, near⟩ := exists_after_store anchored found here
      obtain ⟨later, there, far⟩ := ih (anchored_store anchored found) further between
      exact ⟨later, there, far.trans near⟩

/-- Witness: the merge itself takes the extension up, and no other merge takes anything away, be it
from the base or from the extension.
-/
theorem Traced.includes {merges : List Merge} (traced : Traced registry merges)
    (member : merge ∈ merges)
    : ∃ base extension final,
        registry.get? merge.baseSlot = some base
        ∧ registry.get? merge.slot = some extension
        ∧ (merges.foldl store registry).get? merge.baseSlot = some final
        ∧ final.definition.Extends base.definition
        ∧ (base.isExtension = false
          → extension.definition.isDirectExtension = true
          → final.definition.Includes extension.definition) := by
  induction merges generalizing registry with
  | nil => cases member
  | cons first rest ih =>
      obtain ⟨found, foundExtension, kind, further⟩ := traced
      have later := anchored_store anchored found
      rcases List.mem_cons.mp member with rfl | member
      · obtain ⟨final, there, grown⟩ :=
          exists_after_merges later further (stores_store anchored found).self
        refine ⟨merge.base, merge.extension, final, found, foundExtension, there,
          grown.trans (extends_mergedRecord _ _ _), ?_⟩
        intro direct directExtension
        exact (includes_mergedRecord kind direct directExtension).mono grown (.refl _)
      · obtain ⟨base, extension, final, foundBase, foundExtension, there, grown, includes⟩ :=
          ih later further member
        obtain ⟨earlier, here, near⟩ := exists_before_store anchored found foundBase
        obtain ⟨declaration, inside, same⟩ :=
          exists_before_store anchored found foundExtension
        refine ⟨earlier, declaration, final, here, inside, there, grown.trans near, ?_⟩
        intro direct directExtension
        have baseToo : base.isExtension = false :=
          (Definition.isExtension_congr near.outline).trans direct
        have extensionToo : extension.definition.isDirectExtension = true := by
          have addition : extension.definition.addition = declaration.definition.addition :=
            congrArg Outline.addition same.outline
          rwa [Definition.isDirectExtension_eq, addition, ← Definition.isDirectExtension_eq]
        exact (includes baseToo extensionToo).mono (.refl _) same

end

/-- Each merged extension is counted. At the end its base still has all that it had, and has what
the extension declares, unless the base is an extension or the extension wraps another one.
Witness: the merges are a trace, and each finds the extension in the group of the name that leads to
the base.
-/
theorem run_includes {merging : Merging} (anchored : merging.registry.Anchored)
    (policy : UnmatchedPolicy)
    : let after := run policy merging
      after.merged = merging.merged + (merges merging.registry).length
      ∧ ∀ merge ∈ merges merging.registry,
          ∃ base extension final,
            merging.registry.get? merge.baseSlot = some base
            ∧ merging.registry.get? merge.slot = some extension
            ∧ extension.isExtension = true
            ∧ extension.name.bind merging.registry.findByName = some merge.baseSlot
            ∧ after.registry.get? merge.baseSlot = some final
            ∧ final.definition.Extends base.definition
            ∧ (base.isExtension = false
              → extension.definition.isDirectExtension = true
              → final.definition.Includes extension.definition) := by
  intro after
  refine ⟨merged_run policy merging, ?_⟩
  intro merge member
  obtain ⟨base, extension, final, found, foundExtension, there, grown, includes⟩ :=
    (traced_merges merging.registry).includes anchored member
  obtain ⟨group, formed, listed, leads⟩ := exists_group_of_mem_mergesAlong member
  obtain ⟨record, here, isExtension, named⟩ := exists_extension_of_mem_groups formed listed
  cases Option.some.inj (foundExtension.symm.trans here)
  refine ⟨base, extension, final, found, here, isExtension, ?_, ?_, grown, includes⟩
  · rw [named]
    exact leads
  · rw [registry_run, get?_rebuild]
    exact there

theorem albums_included
    : let after := run .report Albums.merging
      Albums.merging.registry.Anchored
      ∧ after.merged = 2
      ∧ (merges Albums.merging.registry).map (fun merge => merge.slot) = [1, 2]
      ∧ ∀ merge ∈ merges Albums.merging.registry,
          ∃ extension final,
            Albums.merging.registry.get? merge.slot = some extension
            ∧ after.registry.get? merge.baseSlot = some final
            ∧ final.definition.Includes extension.definition := by
  intro after
  have anchored : Albums.merging.registry.Anchored := Albums.steady.anchored
  obtain ⟨-, all⟩ := run_includes anchored .report
  have plain
      : ∀ merge ∈ merges Albums.merging.registry,
          (Albums.merging.registry.get? merge.baseSlot).map TypeRecord.isExtension = some false
          ∧ (Albums.merging.registry.get? merge.slot).map
              (fun record => record.definition.isDirectExtension)
            = some true := by
    decide
  refine ⟨anchored, rfl, rfl, ?_⟩
  intro merge member
  obtain ⟨base, extension, final, found, here, -, -, there, -, includes⟩ := all merge member
  obtain ⟨direct, directExtension⟩ := plain merge member
  rw [found] at direct
  rw [here] at directExtension
  exact ⟨extension, final, here, there,
    includes (Option.some.inj direct) (Option.some.inj directExtension)⟩

end Merging

namespace Albums

/-- A type and an extension within an extension, which adds a field. -/
def wrapped : Merging where
  registry :=
    (Registry.empty.applyAll
      [
        .register (TypeRecord.new (album "Album" "title" (.schema ⟨"Text"⟩)) [] [] .nothing),
        .register
          (TypeRecord.new
            (.extension (.extension (album "Credits" "artist" (.schema ⟨"Text"⟩)))) [] []
            .nothing),
        .registerName 0
      ]).rebuild
  bindings := []
  states := []
  errors := []
  merged := 0
  dropped := 0

end Albums

namespace Merging

/-- An extension within an extension is counted as merged, and its field is lost with no error. -/
theorem wrapped_albums_lost
    : let after := run .report Albums.wrapped
      Albums.wrapped.registry.Anchored
      ∧ (merges Albums.wrapped.registry).map (fun merge => (merge.baseSlot, merge.slot))
        = [(0, 1)]
      ∧ after.merged = 1
      ∧ after.errors = []
      ∧ (Albums.wrapped.registry.get? 1).map (fun record => record.definition.fieldNames)
        = some ["artist"]
      ∧ (after.registry.get? 0).map (fun record => record.definition.fieldNames)
        = some ["title"] := by
  have anchored : Albums.wrapped.registry.Anchored :=
    ⟨by decide +kernel, by decide +kernel, by decide +kernel⟩
  exact ⟨anchored, rfl, rfl, rfl, rfl, rfl⟩

end Merging
end SchemaGraph
