import Mathlib.Data.List.Pairwise
import SchemaGraph.Proofs.Data.Absorbing
import SchemaGraph.Proofs.Reference.Agreement
import SchemaGraph.Registry.KeyTable

/-! Which keys of a table answer.
No two keys of a table agree, so a reference with a position is answered by one key at most, and so
is one that is a key itself. A reference without a position may be answered by two: one for each
position. Which of them comes first is a matter of the buckets, unless both lead to one slot.
-/

namespace SchemaGraph.KeyTable

variable {table : KeyTable} {slot : Slot} {reference : Reference} {key other : Reference × Slot}

/-- What is found was found by a key that agrees. -/
theorem exists_mem_of_find (h : table.find reference = some slot)
    : ∃ key ∈ table.keys, key.1.agrees reference = true ∧ key.2 = slot := by
  obtain ⟨key, found, rfl⟩ := Option.map_eq_some_iff.mp h
  have agrees : key.1.agrees reference = true := by simpa using List.find?_some found
  exact ⟨key, List.mem_of_find?_eq_some found, agrees, rfl⟩

theorem not_agrees_of_find (h : table.find reference = none) (member : key ∈ table.keys)
    : ¬key.1.agrees reference = true :=
  List.find?_eq_none.mp (Option.map_eq_none_iff.mp h) key member

/-- Keys that agree are one. -/
theorem eq_of_agrees (member : key ∈ table.keys) (also : other ∈ table.keys)
    (agrees : key.1.agrees other.1 = true)
    : key = other := by
  have apart : table.keys.Pairwise fun left right => left.1.agrees right.1 = false :=
    List.pairwise_map.mp table.apart
  have symmetric : Std.Symm fun left right : Reference × Slot => left.1.agrees right.1 = false :=
    ⟨fun left right no => by rw [Reference.agrees_comm, no]⟩
  refine Classical.byContradiction fun different => ?_
  rw [List.Pairwise.forall apart member also different] at agrees
  cases agrees

-----------------------------------------------------------------------------------------
-- References that one key at most answers
-----------------------------------------------------------------------------------------

/-- Whichever key answers, it leads to the same slot. -/
def Decides (table : KeyTable) (reference : Reference) : Prop :=
  ∀ one ∈ table.keys,
    ∀ other ∈ table.keys,
      one.1.agrees reference = true → other.1.agrees reference = true → one.2 = other.2

/-- Keys that agree with a reference in a position agree with one another. -/
theorem decides_of_position (positioned : reference.position ≠ .any)
    : table.Decides reference := by
  intro one member other also agrees alsoAgrees
  rw [eq_of_agrees member also (Reference.agrees_of_agrees positioned agrees alsoAgrees)]

/-- A key that is there keeps all others out that agree with it. -/
theorem decides_of_mem (member : (reference, slot) ∈ table.keys) : table.Decides reference := by
  intro one first other second agrees alsoAgrees
  rw [eq_of_agrees first member agrees, eq_of_agrees second member alsoAgrees]

theorem Decides.find_eq (decides : table.Decides reference) (member : key ∈ table.keys)
    (agrees : key.1.agrees reference = true)
    : table.find reference = some key.2 := by
  obtain ⟨found, leads⟩ :=
    Option.isSome_iff_exists.mp (isSome_find_iff.mpr ⟨key, member, agrees⟩)
  obtain ⟨first, inside, alsoAgrees, rfl⟩ := exists_mem_of_find leads
  rw [leads, decides first inside key member alsoAgrees agrees]

theorem find_of_mem (member : (reference, slot) ∈ table.keys) : table.find reference = some slot :=
  (decides_of_mem member).find_eq member reference.agrees_refl

/-- Tables find the same if they do so by their keys, in all positions.
Witness: a reference that some key agrees with is that key in some position, and any other one is
found in neither.
-/
theorem find_congr {one other : KeyTable}
    (same
      : ∀ key ∈ one.keys ++ other.keys,
          ∀ position,
            one.find (key.1.withPosition position) = other.find (key.1.withPosition position))
    (reference : Reference)
    : one.find reference = other.find reference := by
  by_cases met : ∃ key ∈ one.keys ++ other.keys, key.1.agrees reference = true
  · obtain ⟨key, member, agrees⟩ := met
    have here : reference = key.1.withPosition reference.position := by
      obtain ⟨-, scope, target⟩ := Reference.agrees_iff.mp agrees
      rw [Reference.withPosition, scope, target]
    rw [here]
    exact same key member reference.position
  · have nowhere {table : KeyTable} (among : table.keys ⊆ one.keys ++ other.keys)
        : table.find reference = none := by
      rw [← Option.not_isSome_iff_eq_none, isSome_find_iff]
      rintro ⟨key, member, agrees⟩
      exact met ⟨key, among member, agrees⟩
    rw [nowhere (List.subset_append_left _ _), nowhere (List.subset_append_right _ _)]

-----------------------------------------------------------------------------------------
-- Adding keys
-----------------------------------------------------------------------------------------

theorem absorbing_add (slot : Slot)
    : Absorbing (add slot) fun table reference => (table.find reference).isSome = true where
  gains := isSome_find_add_self slot
  stays other here := by
    obtain ⟨key, member, agrees⟩ := isSome_find_iff.mp here
    exact isSome_find_iff.mpr ⟨key, mem_keys_add.mpr (.inl member), agrees⟩
  keeps here := dif_pos here

/-- An added key answers where it agrees, unless one that agrees with it was there. -/
theorem isSome_find_add (slot : Slot) (table : KeyTable) (handle reference : Reference)
    : ((add slot table handle).find reference).isSome
      = ((table.find reference).isSome
        || (handle.agrees reference && (table.find handle).isNone)) := by
  rw [Bool.eq_iff_iff, Bool.or_eq_true, Bool.and_eq_true, Option.isNone_iff_eq_none,
    isSome_find_iff, isSome_find_iff]
  simp only [mem_keys_add]
  constructor
  · rintro ⟨key, old | ⟨free, rfl⟩, agrees⟩
    · exact .inl ⟨key, old, agrees⟩
    · exact .inr ⟨agrees, free⟩
  · rintro (⟨key, old, agrees⟩ | ⟨agrees, free⟩)
    · exact ⟨key, .inl old, agrees⟩
    · exact ⟨(handle, slot), .inr ⟨free, rfl⟩, agrees⟩

/-- A reference with a position goes on leading where it led, whatever is added.
Witness: one key at most agrees with it, before and after.
-/
theorem find_add (positioned : reference.position ≠ .any) (slot : Slot) (table : KeyTable)
    (handle : Reference)
    : (add slot table handle).find reference
      = (table.find reference).or
          (if handle.agrees reference && (table.find handle).isNone then some slot
            else none) := by
  have decides : (add slot table handle).Decides reference := decides_of_position positioned
  cases leads : table.find reference with
  | some found =>
      obtain ⟨key, member, agrees, rfl⟩ := exists_mem_of_find leads
      exact decides.find_eq (mem_keys_add.mpr (.inl member)) agrees
  | none =>
      rw [Option.none_or]
      split
      · next taken =>
          obtain ⟨agrees, free⟩ := Bool.and_eq_true_iff.mp taken
          exact decides.find_eq
            (mem_keys_add.mpr (.inr ⟨Option.isNone_iff_eq_none.mp free, rfl⟩)) agrees
      · next untaken =>
          have nowhere := isSome_find_add slot table handle reference
          rw [leads, Option.isSome_none, Bool.false_or, Bool.eq_false_iff.mpr untaken] at nowhere
          exact Option.not_isSome_iff_eq_none.mp (by simp [nowhere])

/-- Handles that do not agree do not stand in each other's way.
Witness: induction on the handles; those behind the first one lead somewhere if and only if they did
before it.
-/
theorem find_foldl_add {handles : List Reference} (apart : Reference.Apart handles)
    (positioned : reference.position ≠ .any) (slot : Slot) (table : KeyTable)
    : (handles.foldl (add slot) table).find reference
      = (table.find reference).or
          (if handles.any fun handle => handle.agrees reference && (table.find handle).isNone then
              some slot
            else none) := by
  induction handles generalizing table with
  | nil => simp
  | cons head rest ih =>
      obtain ⟨first, further⟩ := List.pairwise_cons.mp apart
      have untouched
          : ∀ handle ∈ rest,
              ((add slot table head).find handle).isNone = (table.find handle).isNone := by
        intro handle member
        rw [← Option.not_isSome, isSome_find_add, first handle member]
        simp
      have same
          : (rest.any fun handle =>
                handle.agrees reference && ((add slot table head).find handle).isNone)
            = rest.any fun handle => handle.agrees reference && (table.find handle).isNone := by
        rw [Bool.eq_iff_iff, List.any_eq_true, List.any_eq_true]
        refine exists_congr fun handle => and_congr_right fun member => ?_
        rw [untouched handle member]
      rw [List.foldl_cons, ih further, same, find_add positioned, List.any_cons, Option.or_assoc]
      cases head.agrees reference && (table.find head).isNone <;> simp

/-- A key is an old one, or one of the references that were added. -/
theorem mem_keys_foldl_add {references : List Reference}
    (h : key ∈ (references.foldl (add slot) table).keys)
    : key ∈ table.keys ∨ (key.1 ∈ references ∧ key.2 = slot) := by
  induction references generalizing table with
  | nil => exact .inl h
  | cons reference rest ih =>
      rcases ih h with added | ⟨member, same⟩
      · rcases mem_keys_add.mp added with old | ⟨-, rfl⟩
        · exact .inl old
        · exact .inr ⟨List.mem_cons_self, rfl⟩
      · exact .inr ⟨List.mem_cons_of_mem reference member, same⟩

end SchemaGraph.KeyTable
