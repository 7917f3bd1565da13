import SchemaGraph.Proofs.Data.Absorbing
import SchemaGraph.Reference.Basic

/-! What agreement does to lists of references.
Agreement is no equivalence, so a list that is free of agreeing references may still hold several
that agree with a further one. Against a reference without a position, however, agreement is
equality of targets and scopes.
-/

namespace SchemaGraph.Reference

theorem isIn_iff {reference : Reference} {references : List Reference}
    : reference.isIn references = true
      ↔ ∃ other ∈ references, other.agrees reference = true :=
  List.any_eq_true

theorem agrees_iff {left right : Reference}
    : left.agrees right = true
      ↔ left.position.compatible right.position = true
        ∧ left.scope = right.scope
        ∧ left.target = right.target := by
  simp [agrees, and_assoc]

/-- In one position, agreement is equality. -/
theorem eq_of_agrees {left right : Reference} (agrees : left.agrees right = true)
    (same : left.position = right.position)
    : left = right := by
  obtain ⟨-, sameScope, sameTarget⟩ := agrees_iff.mp agrees
  cases left
  cases right
  simp_all

/-- A reference without a position agrees with all that share its target and its scope. -/
theorem agrees_iff_of_position_any {reference other : Reference} (h : other.position = .any)
    : reference.agrees other = true
      ↔ reference.target = other.target ∧ reference.scope = other.scope := by
  simp [agrees, Position.compatible, h, and_comm]

/-- Agreement passes on to a reference without a position, whatever the middle one is. -/
theorem agrees_trans_of_position_any {first middle last : Reference} (h : last.position = .any)
    (hf : first.agrees middle = true) (hm : middle.agrees last = true)
    : first.agrees last = true := by
  have same := (agrees_iff_of_position_any h).mp hm
  simp only [agrees, Bool.and_eq_true, decide_eq_true_eq] at hf
  exact (agrees_iff_of_position_any h).mpr ⟨hf.2.trans same.1, hf.1.2.trans same.2⟩

/-- References that agree with one that has a position agree with each other. -/
theorem agrees_of_agrees {one other reference : Reference} (positioned : reference.position ≠ .any)
    (agrees : one.agrees reference = true) (alsoAgrees : other.agrees reference = true)
    : one.agrees other = true := by
  obtain ⟨near, sameScope, sameTarget⟩ := agrees_iff.mp agrees
  obtain ⟨alsoNear, alsoSameScope, alsoSameTarget⟩ := agrees_iff.mp alsoAgrees
  refine agrees_iff.mpr
    ⟨?_, sameScope.trans alsoSameScope.symm, sameTarget.trans alsoSameTarget.symm⟩
  simp only [Position.compatible, positioned, Bool.or_eq_true, decide_eq_true_eq, or_false]
    at near alsoNear ⊢
  grind

-----------------------------------------------------------------------------------------
-- Adding references to a list
-----------------------------------------------------------------------------------------

theorem mem_addTo {reference other : Reference} {references : List Reference}
    (h : other ∈ reference.addTo references)
    : other ∈ references ∨ other = reference := by
  unfold addTo at h
  split at h
  · exact Or.inl h
  · simpa using h

theorem absorbing_addTo
    : Absorbing (fun references reference => addTo reference references)
        fun references reference => reference.isIn references = true :=
  absorbing_append
    (fun reference references => by simp [isIn, agrees_refl])
    (fun other here => by
      simp only [isIn, List.any_append, Bool.or_eq_true] at here ⊢
      exact Or.inl here)

theorem prefix_addAll (references additions : List Reference)
    : references <+: addAll references additions :=
  prefix_foldl id (fun _ _ => prefix_unless _ _ _) additions references

/-- Whatever is in the result was there or was added. -/
theorem mem_addAll {references additions : List Reference} {other : Reference}
    (h : other ∈ addAll references additions)
    : other ∈ references ∨ other ∈ additions := by
  induction additions generalizing references with
  | nil => exact Or.inl h
  | cons addition rest ih =>
      rcases ih h with earlier | later
      · exact (mem_addTo earlier).imp_right fun same => by simp [same]
      · exact Or.inr (List.mem_cons_of_mem addition later)

theorem isIn_addAll_of_isIn {references : List Reference} (additions : List Reference)
    {other : Reference} (h : other.isIn references = true)
    : other.isIn (addAll references additions) = true :=
  absorbing_addTo.stays_foldl h additions

/-- Each addition agrees with something in the result, if not by itself then by the reference that
kept it out. -/
theorem isIn_addAll_of_mem {references additions : List Reference} {addition : Reference}
    (h : addition ∈ additions)
    : addition.isIn (addAll references additions) = true :=
  absorbing_addTo.gains_foldl references h

-----------------------------------------------------------------------------------------
-- References of which no two agree
-----------------------------------------------------------------------------------------

theorem Apart.addTo {references : List Reference} (apart : Apart references)
    (reference : Reference)
    : Apart (reference.addTo references) := by
  unfold Reference.addTo
  split
  · exact apart
  · next absent => exact apart.concat absent

/-- Whatever is added, no two references of the result agree. -/
theorem Apart.addAll {references : List Reference} (apart : Apart references)
    (additions : List Reference)
    : Apart (Reference.addAll references additions) := by
  induction additions generalizing references with
  | nil => exact apart
  | cons reference rest ih => exact ih (apart.addTo reference)

/-- Additions that agree with nothing before them are all kept. -/
theorem addAll_of_apart {references additions : List Reference}
    (apart : Apart (references ++ additions))
    : addAll references additions = references ++ additions := by
  induction additions generalizing references with
  | nil => exact (List.append_nil references).symm
  | cons reference rest ih =>
      have absent : ¬reference.isIn references = true := by
        intro here
        obtain ⟨held, member, agrees⟩ := isIn_iff.mp here
        rw [(List.pairwise_append.mp apart).2.2 held member reference List.mem_cons_self] at agrees
        cases agrees
      have added : reference.addTo references = references ++ [reference] := if_neg absent
      rw [List.append_cons] at apart ⊢
      rw [← ih apart, ← added]
      rfl

end SchemaGraph.Reference
