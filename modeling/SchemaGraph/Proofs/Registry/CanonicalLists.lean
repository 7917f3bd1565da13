import Mathlib.Data.List.Induction
import SchemaGraph.Proofs.Registry.Permanence

/-! Lists of canonical references.
A list of references is led to a list in which no two agree, and which stays as it is when it is led
there again. Agreement is no equivalence: a reference in any position may stand between two that do
not agree. So what is kept depends on the order, and the first one that comes up is kept.
-/

namespace SchemaGraph

namespace Reference

variable {forms : List Reference} {reference : Reference} {index : Nat}

theorem mem_of_mem_addAll (held : reference ∈ addAll [] forms) : reference ∈ forms :=
  (mem_addAll held).resolve_left List.not_mem_nil

/-- Every reference agrees with one that is kept, and that comes up no later.
Witness: it agrees with one of those that are kept up to its own place, and what follows is put
behind these.
-/
theorem exists_addAll_agrees (here : forms[index]? = some reference)
    : ∃ kept ∈ addAll [] forms, kept.agrees reference = true ∧ forms.idxOf kept ≤ index := by
  let front := forms.take (index + 1)
  let rest := forms.drop (index + 1)
  have whole : forms = front ++ rest := (List.take_append_drop (index + 1) forms).symm
  have listed : reference ∈ front := by
    refine List.mem_of_getElem? (i := index) ?_
    rw [List.getElem?_take_of_lt (Nat.lt_succ_self index), here]
  have given : reference.isIn (addAll [] front) = true := isIn_addAll_of_mem listed
  obtain ⟨kept, held, agrees⟩ := isIn_iff.mp given
  have among : kept ∈ front := mem_of_mem_addAll held
  have behind : addAll [] forms = addAll (addAll [] front) rest := by
    rw [addAll, addAll, addAll, ← List.foldl_append, ← whole]
  refine ⟨kept, behind ▸ (prefix_addAll _ rest).mem held, agrees, ?_⟩
  have bound : front.length ≤ index + 1 := List.length_take_le _ _
  have place : forms.idxOf kept = front.idxOf kept := by
    rw [whole]
    exact List.idxOf_append_of_mem among
  have inside : front.idxOf kept < front.length := List.idxOf_lt_length_of_mem among
  omega

/-- What is kept comes in the order in which it first comes up.
Witness: a reference that comes last and is kept has not come up before.
-/
theorem pairwise_idxOf_addAll (forms : List Reference)
    : (addAll [] forms).Pairwise fun left right => forms.idxOf left < forms.idxOf right := by
  induction forms using List.reverseRecOn with
  | nil => exact List.Pairwise.nil
  | append_singleton front last ih =>
      have place {kept : Reference} (held : kept ∈ addAll [] front)
          : (front ++ [last]).idxOf kept = front.idxOf kept :=
        List.idxOf_append_of_mem (mem_of_mem_addAll held)
      have earlier
          : (addAll [] front).Pairwise fun left right =>
              (front ++ [last]).idxOf left < (front ++ [last]).idxOf right := by
        refine ih.imp_of_mem ?_
        intro left right heldLeft heldRight before
        rw [place heldLeft, place heldRight]
        exact before
      rw [show addAll [] (front ++ [last]) = last.addTo (addAll [] front) from List.foldl_concat ..]
      unfold addTo
      split
      · exact earlier
      · next new =>
          have absent : last ∉ front := fun old => new (isIn_addAll_of_mem old)
          refine List.pairwise_append.mpr ⟨earlier, List.pairwise_singleton _ _, ?_⟩
          intro kept held added same
          rw [List.mem_singleton.mp same, place held, List.idxOf_append_of_notMem absent]
          have inside : front.idxOf kept < front.length :=
            List.idxOf_lt_length_of_mem (mem_of_mem_addAll held)
          omega

end Reference

namespace Registry

variable {registry : Registry} {references : List Reference}

/-- A canonical reference is led to itself, and so is one that denotes nothing. -/
theorem CanonicalOwned.canonicalOrSelf_twice (owned : registry.CanonicalOwned)
    (reference : Reference)
    : registry.canonicalOrSelf (registry.canonicalOrSelf reference)
      = registry.canonicalOrSelf reference := by
  cases resolved : registry.resolve reference with
  | none => rw [canonicalOrSelf_of_none resolved, canonicalOrSelf_of_none resolved]
  | some record =>
      obtain ⟨slot, -, found⟩ := Option.bind_eq_some_iff.mp resolved
      rw [canonicalOrSelf_of_some resolved, canonicalOrSelf_of_some (owned.resolve_primary found)]

/-- What is kept of a list is the canonical reference of a type that the list mentions, or a
reference of the list that denotes nothing.
-/
theorem mem_canonicalAll {kept : Reference} (held : kept ∈ registry.canonicalAll references)
    : (∃ reference ∈ references,
        ∃ record ∈ registry.records,
          registry.resolve reference = some record ∧ kept = record.primary)
      ∨ (kept ∈ references ∧ registry.resolve kept = none) := by
  have among := Reference.mem_of_mem_addAll held
  obtain ⟨reference, given, rfl⟩ := List.mem_map.mp among
  cases resolved : registry.resolve reference with
  | none =>
      rw [canonicalOrSelf_of_none resolved]
      exact .inr ⟨given, resolved⟩
  | some record =>
      obtain ⟨slot, -, found⟩ := Option.bind_eq_some_iff.mp resolved
      exact .inl ⟨reference, given, record, mem_records_of_get? found, resolved,
        canonicalOrSelf_of_some resolved⟩

/-- Where every type is found by its canonical reference, lists of references have a canonical form.
No two references of it agree. Every reference of the list, once it is led to the canonical one,
agrees with one of the form that comes up no later; and those of the form, which are canonical
references of types or denote nothing, come in the order in which they first come up.
Witness: a canonical reference stands for itself, so the form is one of its own.
-/
theorem canonicalAll_normalizes (owned : registry.CanonicalOwned) (references : List Reference)
    : let forms := references.map registry.canonicalOrSelf
      let all := registry.canonicalAll references
      all.Pairwise (fun left right => left.agrees right = false)
      ∧ (∀ index reference,
          references[index]? = some reference
          → ∃ kept ∈ all,
              kept.agrees (registry.canonicalOrSelf reference) = true
              ∧ forms.idxOf kept ≤ index)
      ∧ (∀ kept ∈ all,
          (∃ reference ∈ references,
            ∃ record ∈ registry.records,
              registry.resolve reference = some record ∧ kept = record.primary)
          ∨ (kept ∈ references ∧ registry.resolve kept = none))
      ∧ all.Pairwise (fun left right => forms.idxOf left < forms.idxOf right)
      ∧ registry.canonicalAll all = all := by
  intro forms all
  have apart : all.Pairwise fun left right => left.agrees right = false :=
    Reference.Apart.addAll List.Pairwise.nil forms
  have fixed : all.map registry.canonicalOrSelf = all := by
    calc
      all.map registry.canonicalOrSelf = all.map id := by
        refine List.map_congr_left fun kept held => ?_
        obtain ⟨reference, -, rfl⟩ := List.mem_map.mp (Reference.mem_of_mem_addAll held)
        exact owned.canonicalOrSelf_twice reference
      _ = all := List.map_id all
  refine ⟨apart, ?_, fun kept => mem_canonicalAll, Reference.pairwise_idxOf_addAll forms, ?_⟩
  · intro index reference here
    refine Reference.exists_addAll_agrees ?_
    rw [List.getElem?_map, here, Option.map_some]
  · rw [canonicalAll, fixed]
    exact Reference.addAll_of_apart apart

/-- Two references of a type, and between them a name that no type has, in all positions. -/
def mentions : List Reference :=
  [
    .named "Stranger" .input,
    .schema ⟨"Former"⟩,
    .named "Stranger" .any,
    .schema ⟨"First"⟩,
    .named "Stranger" .output
  ]

theorem mentions_normalized
    : let registry := empty.applyAll amended
      let kept : List Reference :=
        [.named "Stranger" .input, .schema ⟨"First"⟩, .named "Stranger" .output]
      registry.CanonicalOwned
      ∧ registry.canonicalAll mentions = kept
      ∧ kept.Pairwise (fun left right => left.agrees right = false)
      ∧ registry.canonicalAll kept = kept := by
  intro registry kept
  have owned : registry.CanonicalOwned := by decide +kernel
  have led : registry.canonicalAll mentions = kept := by decide +kernel
  have normal := canonicalAll_normalizes owned mentions
  rw [led] at normal
  obtain ⟨apart, -, -, -, fixed⟩ := normal
  exact ⟨owned, led, apart, fixed⟩

end Registry
end SchemaGraph
