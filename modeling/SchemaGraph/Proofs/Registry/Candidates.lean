import SchemaGraph.Proofs.Registry.Indexes

/-! The slots that a reference may lead to.
Any key that agrees with a reference may answer it. Which one does depends on the buckets, but the
keys do not: that one was kept out depends on whether others agree, not on where they lie. So what
a reference may lead to is told by the references with a position, each of which has one answer.
-/

namespace SchemaGraph.Registry

variable {registry before after : Registry} {slot : Slot} {reference : Reference}

/-- Some key that agrees with the reference leads to the slot, or the host type does. -/
def MayFind (registry : Registry) (reference : Reference) (slot : Slot) : Prop :=
  if isKey reference = true then
    ∃ key ∈ registry.byReference.keys, key.1.agrees reference = true ∧ key.2 = slot
  else registry.find reference = some slot

instance (registry : Registry) (reference : Reference) (slot : Slot)
    : Decidable (registry.MayFind reference slot) := by
  unfold MayFind
  infer_instance

/-- Whichever key answers, the reference leads to the same slot. -/
def Decides (registry : Registry) (reference : Reference) : Prop :=
  ∀ one other, registry.MayFind reference one → registry.MayFind reference other → one = other

/-- A reference that is no host type may lead to the slot of each key that agrees with it. -/
theorem mayFind_of_isKey (key : isKey reference = true)
    : registry.MayFind reference slot
      ↔ ∃ key ∈ registry.byReference.keys, key.1.agrees reference = true ∧ key.2 = slot := by
  rw [MayFind, if_pos key]

/-- A host type may lead to the one slot that it leads to. -/
theorem mayFind_of_not_isKey (runtime : isKey reference = false)
    : registry.MayFind reference slot ↔ registry.find reference = some slot := by
  rw [MayFind, if_neg (by simp [runtime])]

/-- Where a reference leads is one of the slots that it may lead to. -/
theorem mayFind_of_find (leads : registry.find reference = some slot)
    : registry.MayFind reference slot := by
  cases key : isKey reference with
  | true =>
      rw [find_of_isKey key] at leads
      exact (mayFind_of_isKey key).mpr (exists_mem_of_findKey leads)
  | false => exact (mayFind_of_not_isKey key).mpr leads

/-- A reference leads somewhere if and only if there is a slot that it may lead to. -/
theorem isSome_find_iff
    : (registry.find reference).isSome = true ↔ ∃ slot, registry.MayFind reference slot := by
  constructor
  · intro found
    obtain ⟨slot, leads⟩ := Option.isSome_iff_exists.mp found
    exact ⟨slot, mayFind_of_find leads⟩
  · rintro ⟨slot, may⟩
    cases key : isKey reference with
    | true =>
        obtain ⟨held, member, agrees, -⟩ := (mayFind_of_isKey key).mp may
        rw [find_of_isKey key]
        exact isSome_findKey_iff.mpr ⟨held, member, agrees⟩
    | false => rw [(mayFind_of_not_isKey key).mp may, Option.isSome_some]

/-- Where all that may answer leads to one slot, that is the answer. -/
theorem Decides.find_eq (decides : registry.Decides reference)
    (may : registry.MayFind reference slot)
    : registry.find reference = some slot := by
  obtain ⟨found, leads⟩ := Option.isSome_iff_exists.mp (isSome_find_iff.mpr ⟨slot, may⟩)
  rw [leads, decides found slot (mayFind_of_find leads) may]

/-- Where one slot at most can be found, what may be found tells what is. -/
theorem Decides.find_congr (decides : before.Decides reference)
    (same : ∀ slot, after.MayFind reference slot ↔ before.MayFind reference slot)
    : after.find reference = before.find reference := by
  have alsoDecides : after.Decides reference := fun one other may also =>
    decides one other ((same one).mp may) ((same other).mp also)
  cases leads : before.find reference with
  | some slot => exact alsoDecides.find_eq ((same slot).mpr (mayFind_of_find leads))
  | none =>
      cases there : after.find reference with
      | none => rfl
      | some slot =>
          have found := isSome_find_iff.mpr ⟨slot, (same slot).mp (mayFind_of_find there)⟩
          rw [leads] at found
          cases found

/-- Only keys can disagree on where a reference leads. Host types have one answer. -/
theorem decides_of_keys (keys : isKey reference = true → registry.byReference.Decides reference)
    : registry.Decides reference := by
  intro one other may also
  cases key : isKey reference with
  | true =>
      obtain ⟨first, inside, agrees, rfl⟩ := (mayFind_of_isKey key).mp may
      obtain ⟨second, alsoInside, alsoAgrees, rfl⟩ := (mayFind_of_isKey key).mp also
      exact keys key first inside second alsoInside agrees alsoAgrees
  | false =>
      rw [mayFind_of_not_isKey key] at may also
      exact Option.some.inj (may.symm.trans also)

/-- A reference that is a key itself leads to the slot of that key. -/
theorem decides_of_mem (member : (reference, slot) ∈ registry.byReference.keys)
    : registry.Decides reference :=
  decides_of_keys fun _ => KeyTable.decides_of_mem member

-----------------------------------------------------------------------------------------
-- References that name a position
-----------------------------------------------------------------------------------------

/-- The reference is a host type, or it has a position. -/
def Pinned (reference : Reference) : Prop :=
  isKey reference = true → reference.position ≠ .any

/-- Host types are pinned as they are. -/
theorem pinned_of_not_isKey (runtime : isKey reference = false) : Pinned reference :=
  fun key => by simp [runtime] at key

theorem pinned_withPosition (reference : Reference) {position : Position}
    (named : position ≠ .any)
    : Pinned (reference.withPosition position) :=
  fun _ => named

/-- A reference in a position is answered by one key at most. -/
theorem decides_of_pinned (pinned : Pinned reference) : registry.Decides reference :=
  decides_of_keys fun key => KeyTable.decides_of_position (pinned key)

/-- So what it may lead to is what it leads to. -/
theorem mayFind_iff_of_pinned (pinned : Pinned reference)
    : registry.MayFind reference slot ↔ registry.find reference = some slot :=
  ⟨(decides_of_pinned pinned).find_eq, mayFind_of_find⟩

/-- A key agrees with a reference without a position if it agrees with it in one of the two. -/
theorem agrees_iff_withPosition {key : Reference} (bare : reference.position = .any)
    : key.agrees reference = true
      ↔ key.agrees (reference.withPosition .input) = true
        ∨ key.agrees (reference.withPosition .output) = true := by
  simp only [Reference.agrees_iff, Reference.withPosition, bare]
  cases key.position <;> simp [Position.compatible]

/-- A reference without a position may lead to what it leads to in the one position, and to what it
leads to in the other.
Witness: a key agrees with it if it agrees with it in one of the two.
-/
theorem mayFind_iff_withPosition (key : isKey reference = true)
    (bare : reference.position = .any)
    : registry.MayFind reference slot
      ↔ registry.find (reference.withPosition .input) = some slot
        ∨ registry.find (reference.withPosition .output) = some slot := by
  have positioned (position : Position) : isKey (reference.withPosition position) = true := key
  rw [← mayFind_iff_of_pinned (pinned_withPosition reference (by decide)),
    ← mayFind_iff_of_pinned (pinned_withPosition reference (by decide)), mayFind_of_isKey key,
    mayFind_of_isKey (positioned .input), mayFind_of_isKey (positioned .output)]
  simp only [agrees_iff_withPosition bare]
  grind

/-- So it leads somewhere if it does in one of the two positions. -/
theorem isSome_find_eq_withPosition (key : isKey reference = true)
    (bare : reference.position = .any)
    : (registry.find reference).isSome
      = ((registry.find (reference.withPosition .input)).isSome
        || (registry.find (reference.withPosition .output)).isSome) := by
  rw [Bool.eq_iff_iff, Bool.or_eq_true, isSome_find_iff]
  simp only [mayFind_iff_withPosition key bare, exists_or, Option.isSome_iff_exists]

/-- What a reference may lead to is told by what is found in the positions that it stands for. -/
theorem mayFind_congr
    (same
      : ∀ position,
          Pinned (reference.withPosition position)
          → after.find (reference.withPosition position)
            = before.find (reference.withPosition position))
    (slot : Slot)
    : after.MayFind reference slot ↔ before.MayFind reference slot := by
  by_cases pinned : Pinned reference
  · have own : after.find reference = before.find reference := same reference.position pinned
    rw [mayFind_iff_of_pinned pinned, mayFind_iff_of_pinned pinned, own]
  · obtain ⟨key, bare⟩ := Classical.not_imp.mp pinned
    have bare : reference.position = .any := Classical.not_not.mp bare
    rw [mayFind_iff_withPosition key bare, mayFind_iff_withPosition key bare,
      same .input (pinned_withPosition reference (by decide)),
      same .output (pinned_withPosition reference (by decide))]

end SchemaGraph.Registry
