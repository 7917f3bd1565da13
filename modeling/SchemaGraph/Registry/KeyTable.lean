import SchemaGraph.Hash.FxHash
import SchemaGraph.Registry.Record

/-! The table from schema and name references to slots.
A reference is looked for where its hash says, and any key that agrees with it answers. Keys are no
equivalence classes: of two keys for the two positions, a reference without a position finds the one
that was put into the buckets first. That order changes when the table grows, since the keys are
then put into the new buckets in the order in which they lay in the old ones. A table that is
cleared keeps its buckets.
-/

namespace SchemaGraph

/-- A type's position in the order of registration. -/
abbrev Slot := Nat

-----------------------------------------------------------------------------------------
-- Hashes of references
-----------------------------------------------------------------------------------------

/-- Each kind of target starts with a number of its own. -/
def Target.absorb (hash : UInt64) : Target → UInt64
  | .runtime type => FxHash.absorb (FxHash.absorb hash 0) type.hash.word
  | .schema id => FxHash.absorb (FxHash.absorbText (FxHash.absorb hash 1) id.name) id.hash.word
  | .byName name => FxHash.absorbText (FxHash.absorb hash 2) name

/-- The position is left out, so that references that agree have one hash. -/
def Reference.digest (reference : Reference) : UInt64 :=
  let hash := reference.target.absorb 0
  FxHash.finish
    (match reference.scope with
      | none => FxHash.absorb hash 0
      | some scope => FxHash.absorbText (FxHash.absorb hash 1) scope)

theorem Reference.digest_eq_of_agrees {left right : Reference} (h : left.agrees right = true)
    : left.digest = right.digest := by
  simp only [agrees, Bool.and_eq_true, decide_eq_true_eq] at h
  rw [digest, digest, h.1.2, h.2]

-----------------------------------------------------------------------------------------
-- Buckets
-----------------------------------------------------------------------------------------

/-- The buckets that a key of the hash may lie in, the best one first: sixteen in a row, then
sixteen further on, then thirty-two, and so on around the table.
-/
def bucketChoices (buckets : Nat) (digest : UInt64) : List Nat :=
  (List.range (buckets / 16 + 1)).flatMap fun group =>
    (List.range 16).map fun offset =>
      (digest.toNat + 8 * group * (group + 1) + offset) % buckets

/-- Puts a key into the best bucket that is free. -/
def layKey (buckets : Nat) (laid : List (Nat × Reference × Slot)) (key : Reference × Slot)
    : List (Nat × Reference × Slot) :=
  let taken := laid.map Prod.fst
  let free := (bucketChoices buckets key.1.digest).find? fun bucket => bucket ∉ taken
  laid ++ [(free.getD 0, key)]

/-- Puts the keys into the buckets one after the other. -/
def layKeys (buckets : Nat) (keys : List (Reference × Slot)) : List (Nat × Reference × Slot) :=
  keys.foldl (layKey buckets) []

theorem map_snd_layKeys (buckets : Nat) (keys : List (Reference × Slot))
    : (layKeys buckets keys).map Prod.snd = keys := by
  have all (laid : List (Nat × Reference × Slot))
      : (keys.foldl (layKey buckets) laid).map Prod.snd = laid.map Prod.snd ++ keys := by
    induction keys generalizing laid with
    | nil => simp
    | cons key rest ih =>
        rw [List.foldl_cons, ih]
        simp [layKey]
  exact all []

/-- Puts a key before those in later buckets. -/
def insertByBucket (key : Nat × Reference × Slot)
    : List (Nat × Reference × Slot) → List (Nat × Reference × Slot)
  | [] => [key]
  | first :: rest =>
      if key.1 < first.1 then key :: first :: rest else first :: insertByBucket key rest

theorem insertByBucket_perm (key : Nat × Reference × Slot)
    (sorted : List (Nat × Reference × Slot))
    : (insertByBucket key sorted).Perm (key :: sorted) := by
  induction sorted with
  | nil => exact .refl _
  | cons first rest ih =>
      unfold insertByBucket
      split
      · exact .refl _
      · exact (ih.cons first).trans (.swap key first rest)

/-- The keys in the order of their buckets. -/
def inBucketOrder (buckets : Nat) (keys : List (Reference × Slot)) : List (Reference × Slot) :=
  ((layKeys buckets keys).foldr insertByBucket []).map Prod.snd

theorem inBucketOrder_perm (buckets : Nat) (keys : List (Reference × Slot))
    : (inBucketOrder buckets keys).Perm keys := by
  have sorted (laid : List (Nat × Reference × Slot))
      : (laid.foldr insertByBucket []).Perm laid := by
    induction laid with
    | nil => exact .refl _
    | cons key rest ih => exact (insertByBucket_perm key _).trans (ih.cons key)
  have same := (sorted (layKeys buckets keys)).map Prod.snd
  rwa [map_snd_layKeys] at same

-----------------------------------------------------------------------------------------
-- Tables
-----------------------------------------------------------------------------------------

structure KeyTable where
  /-- In the order in which they were put into the buckets. -/
  keys : List (Reference × Slot)
  buckets : Nat
  apart : Reference.Apart (keys.map Prod.fst)

namespace KeyTable

def empty : KeyTable := ⟨[], 0, .nil⟩

/-- The same buckets without keys. -/
def cleared (table : KeyTable) : KeyTable :=
  ⟨[], table.buckets, .nil⟩

/-- The slot of the first key that agrees with the reference. -/
def find (table : KeyTable) (reference : Reference) : Option Slot :=
  (table.keys.find? fun key => key.1.agrees reference).map Prod.snd

/-- How many keys there may be before the table grows: one bucket of eight stays free. -/
def room (table : KeyTable) : Nat :=
  if table.buckets ≤ 8 then table.buckets - 1 else table.buckets / 8 * 7

/-- Twice as many buckets, with the keys of the old ones in their order. -/
def grown (table : KeyTable) : KeyTable where
  keys := inBucketOrder table.buckets table.keys
  buckets := if table.buckets = 0 then 4 else 2 * table.buckets
  apart := by
    refine (List.Perm.pairwise_iff ?_ ((inBucketOrder_perm _ _).map Prod.fst)).mpr table.apart
    intro one other no
    rw [Reference.agrees_comm, no]

/-- The table with room for a further key. -/
def withRoom (table : KeyTable) : KeyTable :=
  if table.keys.length < table.room then table else table.grown

theorem withRoom_perm (table : KeyTable) : table.withRoom.keys.Perm table.keys := by
  unfold withRoom
  split
  · exact .refl _
  · exact inBucketOrder_perm _ _

/-- Adds a key unless one that agrees is there. -/
def add (slot : Slot) (table : KeyTable) (reference : Reference) : KeyTable :=
  if known : (table.find reference).isSome then table
  else
    {
      keys := table.withRoom.keys ++ [(reference, slot)]
      buckets := table.withRoom.buckets
      apart := by
        rw [List.map_append]
        refine table.withRoom.apart.concat ?_
        intro isIn
        obtain ⟨held, member, agrees⟩ := List.any_eq_true.mp isIn
        obtain ⟨key, inside, rfl⟩ := List.mem_map.mp member
        refine known ?_
        rw [find, Option.isSome_map, List.find?_isSome]
        exact ⟨key, table.withRoom_perm.mem_iff.mp inside, agrees⟩
    }

variable {table : KeyTable} {reference : Reference} {slot : Slot} {key : Reference × Slot}

theorem isSome_find_iff
    : (table.find reference).isSome = true
      ↔ ∃ key ∈ table.keys, key.1.agrees reference = true := by
  rw [find, Option.isSome_map, List.find?_isSome]

/-- A key that is added is the only one that is new. Growing brings none and loses none. -/
theorem mem_keys_add
    : key ∈ (add slot table reference).keys
      ↔ key ∈ table.keys ∨ (table.find reference = none ∧ key = (reference, slot)) := by
  unfold add
  split
  · next known => simp [Option.isSome_iff_ne_none.mp known]
  · next unknown =>
      have free : table.find reference = none := by simpa using unknown
      simp [free, table.withRoom_perm.mem_iff]

/-- What was put into the table stays in it. -/
theorem mem_keys_foldl_add_of_mem (references : List Reference) (member : key ∈ table.keys)
    : key ∈ (references.foldl (add slot) table).keys := by
  induction references generalizing table with
  | nil => exact member
  | cons reference rest ih => exact ih (mem_keys_add.mpr (.inl member))

/-- An added key is found, if not by itself then by the one that kept it out. -/
theorem isSome_find_add_self (slot : Slot) (table : KeyTable) (reference : Reference)
    : ((add slot table reference).find reference).isSome = true := by
  cases known : table.find reference with
  | some found =>
      have same : add slot table reference = table := dif_pos (by rw [known]; rfl)
      rw [same, known]
      rfl
  | none =>
      exact isSome_find_iff.mpr
        ⟨(reference, slot), mem_keys_add.mpr (.inr ⟨known, rfl⟩), reference.agrees_refl⟩

end KeyTable
end SchemaGraph
