import SchemaGraph.Proofs.Reference.Agreement
import SchemaGraph.Registry.Record

/-! The references and dependencies that a record is made with.
References are added one by one, each unless one that agrees with it is there; adding them changes
nothing else of the record.
-/

namespace SchemaGraph

/-- A dependency is an old one or the one that was added. -/
theorem Dependency.mem_addTo {dependency other : Dependency} {dependencies : List Dependency}
    (h : other ∈ dependency.addTo dependencies)
    : other ∈ dependencies ∨ other = dependency := by
  unfold addTo at h
  split at h
  · exact Or.inl h
  · simpa using h

/-- Whatever is in the result was there or was added. -/
theorem Dependency.mem_addAll {dependencies additions : List Dependency} {other : Dependency}
    (h : other ∈ addAll dependencies additions)
    : other ∈ dependencies ∨ other ∈ additions := by
  induction additions generalizing dependencies with
  | nil => exact Or.inl h
  | cons addition rest ih =>
      rcases ih h with earlier | later
      · exact (mem_addTo earlier).imp_right fun same => by simp [same]
      · exact Or.inr (List.mem_cons_of_mem addition later)

/-- What is among some dependencies is among more. -/
theorem Dependency.isIn_mono {dependency : Dependency} {dependencies more : List Dependency}
    (subset : dependencies ⊆ more) (here : dependency.isIn dependencies = true)
    : dependency.isIn more = true := by
  obtain ⟨other, member, agrees⟩ := List.any_eq_true.mp here
  exact List.any_eq_true.mpr ⟨other, subset member, agrees⟩

/-- Dependencies that were added stay, and one that agrees with one of them adds nothing. -/
theorem Dependency.absorbing_addTo
    : Absorbing (fun dependencies dependency => addTo dependency dependencies)
        fun dependencies dependency => dependency.isIn dependencies = true :=
  absorbing_append
    (fun dependency dependencies => by simp [isIn, agrees, Reference.agrees_refl])
    (fun _ here => isIn_mono (List.subset_append_left _ _) here)

/-- Dependencies are added behind the ones that there are. -/
theorem Dependency.prefix_addAll (dependencies additions : List Dependency)
    : dependencies <+: addAll dependencies additions :=
  prefix_foldl id (fun _ _ => prefix_unless _ _ _) additions dependencies

theorem Dependency.subset_addAll (dependencies additions : List Dependency)
    : dependencies ⊆ addAll dependencies additions :=
  (prefix_addAll dependencies additions).subset

namespace TypeRecord

variable {record : TypeRecord} {reference other : Reference}

/-- A reference is added behind the aliases, unless one of all the references agrees with it. -/
theorem references_withReference (record : TypeRecord) (reference : Reference)
    : (record.withReference reference).references = reference.addTo record.references := by
  change (record.synonyms.add reference).all = reference.addTo record.synonyms.all
  unfold Synonyms.add Reference.addTo
  split <;> rfl

/-- A further reference changes the list of aliases alone. -/
@[simp] theorem definition_withReference (record : TypeRecord) (reference : Reference)
    : (record.withReference reference).definition = record.definition :=
  rfl

@[simp] theorem dependencies_withReference (record : TypeRecord) (reference : Reference)
    : (record.withReference reference).dependencies = record.dependencies :=
  rfl

@[simp] theorem discovered_withReference (record : TypeRecord) (reference : Reference)
    : (record.withReference reference).discovered = record.discovered :=
  rfl

/-- Of the references of a type, only the canonical one agrees with it. -/
theorem eq_primary_of_agrees (record : TypeRecord) (carried : reference ∈ record.references)
    (agrees : reference.agrees record.primary = true)
    : reference = record.primary := by
  rcases List.mem_cons.mp carried with same | further
  · exact same
  · rw [Reference.agrees_comm, (List.pairwise_cons.mp record.apart).1 reference further] at agrees
    cases agrees

/-- No alias is lost when a reference is added. -/
theorem mem_aliases_withReference_of_mem (reference : Reference) (h : other ∈ record.aliases)
    : other ∈ (record.withReference reference).aliases := by
  simp only [aliases, withReference, Synonyms.add]
  split
  · exact h
  · exact List.mem_append_left _ h

/-- A reference is an old one or the one that was added. -/
theorem mem_references_withReference (h : other ∈ (record.withReference reference).references)
    : other ∈ record.references ∨ other = reference := by
  rw [references_withReference] at h
  exact Reference.mem_addTo h

/-- No reference is lost when one is added. -/
theorem mem_references_withReference_of_mem (reference : Reference)
    (h : other ∈ record.references)
    : other ∈ (record.withReference reference).references := by
  rw [references_withReference]
  unfold Reference.addTo
  split
  · exact h
  · exact List.mem_append_left _ h

/-- Adding references one after the other changes nothing else in a type. -/
theorem foldl_withReference (record : TypeRecord) (additions : List Reference)
    : (additions.foldl withReference record).references
        = Reference.addAll record.references additions
      ∧ (additions.foldl withReference record).definition = record.definition
      ∧ (additions.foldl withReference record).dependencies = record.dependencies
      ∧ (additions.foldl withReference record).discovered = record.discovered := by
  induction additions generalizing record with
  | nil => exact ⟨rfl, rfl, rfl, rfl⟩
  | cons reference rest ih =>
      have further := ih (record.withReference reference)
      rw [references_withReference, definition_withReference, dependencies_withReference,
        discovered_withReference] at further
      exact further

section

variable (definition : Definition) (given : List Reference) (dependencies : List Dependency)
  (discovered : Discovered)

/-- A new type has its canonical reference and behind it the given ones, as far as they do not
agree.
-/
theorem references_new
    : (new definition given dependencies discovered).references
      = Reference.addAll [canonicalReference definition discovered.scope] given :=
  (foldl_withReference _ given).1

theorem definition_new
    : (new definition given dependencies discovered).definition = definition :=
  (foldl_withReference _ given).2.1

/-- It has the given dependencies, as far as they do not agree. -/
theorem dependencies_new
    : (new definition given dependencies discovered).dependencies
      = Dependency.addAll [] dependencies :=
  (foldl_withReference _ given).2.2.1

theorem discovered_new
    : (new definition given dependencies discovered).discovered = discovered :=
  (foldl_withReference _ given).2.2.2

end

/-- A new record has no references but its canonical one and those it was given. -/
theorem mem_references_new {definition : Definition} {given : List Reference}
    {dependencies : List Dependency} {discovered : Discovered}
    (h : other ∈ (new definition given dependencies discovered).references)
    : other = canonicalReference definition discovered.scope ∨ other ∈ given := by
  rw [references_new] at h
  exact (Reference.mem_addAll h).imp_left List.mem_singleton.mp

end TypeRecord
end SchemaGraph
