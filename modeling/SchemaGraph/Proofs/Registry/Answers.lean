import SchemaGraph.Proofs.Registry.Handles
import SchemaGraph.Proofs.Registry.Permanence

/-! What registrations make look-ups answer.
A schema or name reference leads to the slot of a type that was registered with a reference that
agrees, and once such a type is registered it leads somewhere for good: the type may be stored again
without the reference. It is another matter if the type has the reference without a position: then
an agreeing key with the opposite position may stand for it.
-/

namespace SchemaGraph.Registry

variable {registry : Registry} {slot : Slot} {record : TypeRecord} {records : List TypeRecord}
  {reference carried : Reference}

/-- Registers the types one after the other. -/
def registerAll (registry : Registry) (records : List TypeRecord) : Registry :=
  records.foldl (fun sofar record => (sofar.register record).1) registry

/-- What is stored over a type with an agreeing reference has one, too. -/
def KeepsReference (reference : Reference) (registry : Registry) (record : TypeRecord) : Prop :=
  ∀ slot ∈ registry.findKey record.primary,
    ∀ earlier ∈ registry.get? slot,
      reference.isIn earlier.references = true → reference.isIn record.references = true

instance : Decidable (KeepsReference reference registry record) :=
  inferInstanceAs (Decidable (∀ slot ∈ findKey _ _, ∀ earlier ∈ registry.get? slot, _ → _))

/-- No registration replaces a type with an agreeing reference by one without. -/
def KeepReference (reference : Reference) (registry : Registry) : List TypeRecord → Prop
  | [] => True
  | record :: rest =>
      registry.KeepsReference reference record
      ∧ (registry.register record).1.KeepReference reference rest

instance decidableKeepReference (reference : Reference)
    : (registry : Registry) → (records : List TypeRecord)
      → Decidable (registry.KeepReference reference records)
  | _, [] => inferInstanceAs (Decidable True)
  | registry, record :: rest =>
      have := decidableKeepReference reference (registry.register record).1 rest
      inferInstanceAs (Decidable (registry.KeepsReference reference record ∧ _))

/-- If the first reference has no position and the second one has, then no type has one that is like
it but for the opposite position.
-/
def Unopposed (records : List TypeRecord) (carried reference : Reference) : Prop :=
  carried.position = .any
  → reference.position ≠ .any
  → ∀ record ∈ records,
      ∀ other ∈ record.references, other.Meets reference → other.agrees reference = true

instance : Decidable (Unopposed records carried reference) :=
  inferInstanceAs (Decidable (_ → _ → ∀ record ∈ records, _))

theorem registerAll_append (registry : Registry) (earlier later : List TypeRecord)
    : registry.registerAll (earlier ++ later)
      = (registry.registerAll earlier).registerAll later :=
  List.foldl_append

theorem grows_registerAll (registry : Registry) (records : List TypeRecord)
    : Grows registry (registry.registerAll records) := by
  induction records generalizing registry with
  | nil => exact .refl registry
  | cons record rest ih => exact (grows_register registry record).trans (ih _)

-----------------------------------------------------------------------------------------
-- Where keys stem from
-----------------------------------------------------------------------------------------

/-- A key that a registration adds is a reference of its type, and leads to where it stored it. -/
theorem mem_byReference_register {key : Reference × Slot}
    (member : key ∈ (registry.register record).1.byReference.keys)
    : key ∈ registry.byReference.keys
      ∨ key.1 ∈ record.references ∧ (registry.register record).2 = key.2 := by
  unfold register at member ⊢
  split at member <;>
    exact (mem_byReference_index member).imp_right fun ⟨carried, same⟩ => ⟨carried, same.symm⟩

theorem mem_byReference_registerAll {key : Reference × Slot}
    (member : key ∈ (registry.registerAll records).byReference.keys)
    : key ∈ registry.byReference.keys
      ∨ ∃ front record,
          front ++ [record] <+: records
          ∧ ((registry.registerAll front).register record).2 = key.2
          ∧ key.1 ∈ record.references := by
  induction records generalizing registry with
  | nil => exact .inl member
  | cons head rest ih =>
      rcases ih member with earlier | ⟨front, record, among, stored, carried⟩
      · rcases mem_byReference_register earlier with old | ⟨carried, stored⟩
        · exact .inl old
        · exact .inr ⟨[], head, ⟨rest, rfl⟩, stored, carried⟩
      · exact .inr ⟨head :: front, record, List.cons_prefix_cons.mpr ⟨rfl, among⟩, stored, carried⟩

/-- Every key that agrees with the reference leads to a type with such a reference. -/
def KeysCarried (reference : Reference) (registry : Registry) : Prop :=
  ∀ key ∈ registry.byReference.keys,
    key.1.agrees reference = true
    → ∃ record,
        registry.get? key.2 = some record ∧ reference.isIn record.references = true

theorem KeysCarried.stores {after : Registry} (carried : registry.KeysCarried reference)
    (stores : Stores registry slot record after)
    (keeps
      : ∀ earlier,
          registry.get? slot = some earlier
          → reference.isIn earlier.references = true
          → reference.isIn record.references = true)
    : after.KeysCarried reference := by
  intro key member agrees
  rcases stores.keys key member with old | ⟨own, same⟩
  · obtain ⟨earlier, found, holds⟩ := carried key old agrees
    by_cases here : slot = key.2
    · exact ⟨record, here ▸ stores.self, keeps earlier (here ▸ found) holds⟩
    · exact ⟨earlier, (stores.others key.2 here).trans found, holds⟩
  · exact ⟨record, same ▸ stores.self, Reference.isIn_iff.mpr ⟨key.1, own, agrees⟩⟩

theorem KeysCarried.register (carried : registry.KeysCarried reference)
    (bounded : registry.Bounded) (keeps : registry.KeepsReference reference record)
    : (registry.register record).1.KeysCarried reference := by
  cases leads : registry.findKey record.primary with
  | some slot =>
      exact carried.stores (stores_register_of_some leads (bounded.findKey_lt leads))
        (keeps slot leads)
  | none =>
      refine carried.stores (stores_register_of_none leads) fun earlier found => ?_
      exact absurd (lt_size_of_get? found) (Nat.lt_irrefl _)

theorem KeysCarried.registerAll (carried : registry.KeysCarried reference)
    (bounded : registry.Bounded) (keep : registry.KeepReference reference records)
    : (registry.registerAll records).KeysCarried reference := by
  induction records generalizing registry with
  | nil => exact carried
  | cons record rest ih =>
      exact ih (carried.register bounded keep.1) (bounded.register record) keep.2

-----------------------------------------------------------------------------------------
-- What look-ups answer
-----------------------------------------------------------------------------------------

/-- A type that was just registered is found by what agrees with one of its references, unless that
one has no position. Then it is as long as all keys for the target and scope agree.
-/
theorem isSome_find_register (key : isKey reference = true) (member : carried ∈ record.references)
    (agrees : carried.agrees reference = true)
    (unopposed
      : carried.position = .any
        → reference.position ≠ .any
        → ∀ other ∈ (registry.register record).1.byReference.keys,
            other.1.Meets reference → other.1.agrees reference = true)
    : ((registry.register record).1.find reference).isSome = true := by
  have indexed := indexed_register registry record
  refine Classical.byContradiction fun missed => ?_
  have nowhere : (registry.register record).1.find reference = none := by simpa using missed
  obtain ⟨bare, positioned⟩ := indexed.opposed_of_isKey member agrees key nowhere
  have keyed : isKey carried = true := (isKey_of_agrees agrees).trans key
  obtain ⟨holder, leads⟩ := Option.isSome_iff_exists.mp (indexed.keys carried member keyed)
  obtain ⟨claim, inside, claims, -⟩ := exists_mem_of_findKey leads
  rw [find_of_isKey key] at nowhere
  refine not_agrees_of_findKey nowhere inside (unopposed bare positioned claim inside ?_)
  exact (Reference.meets_of_agrees claims).trans (Reference.meets_of_agrees agrees)

theorem exists_of_find_registerAll (key : isKey reference = true)
    (found : (empty.registerAll records).find reference = some slot)
    : ∃ front record,
        front ++ [record] <+: records
        ∧ ((empty.registerAll front).register record).2 = slot
        ∧ reference.isIn record.references = true := by
  rw [find_of_isKey key] at found
  obtain ⟨claim, inside, agrees, rfl⟩ := exists_mem_of_findKey found
  rcases mem_byReference_registerAll inside with none | ⟨front, record, among, stored, carried⟩
  · cases none
  · exact ⟨front, record, among, stored, Reference.isIn_iff.mpr ⟨claim.1, carried, agrees⟩⟩

theorem exists_get?_of_find_registerAll (key : isKey reference = true)
    (keep : empty.KeepReference reference records)
    (found : (empty.registerAll records).find reference = some slot)
    : ∃ record,
        (empty.registerAll records).get? slot = some record
        ∧ reference.isIn record.references = true := by
  rw [find_of_isKey key] at found
  obtain ⟨claim, inside, agrees, rfl⟩ := exists_mem_of_findKey found
  have start : empty.KeysCarried reference := fun key member => absurd member List.not_mem_nil
  exact start.registerAll bounded_empty keep claim inside agrees

/-- What leads somewhere when the type is registered does so for good. -/
theorem isSome_find_registerAll {front back : List TypeRecord} (key : isKey reference = true)
    (member : carried ∈ record.references) (agrees : carried.agrees reference = true)
    (unopposed : Unopposed (front ++ [record]) carried reference)
    : ((empty.registerAll (front ++ [record] ++ back)).find reference).isSome = true := by
  have first : ((empty.registerAll (front ++ [record])).find reference).isSome = true := by
    rw [registerAll_append]
    refine isSome_find_register key member agrees fun bare positioned claim inside meets => ?_
    have brought : claim ∈ (empty.registerAll (front ++ [record])).byReference.keys := by
      rw [registerAll_append]
      exact inside
    rcases mem_byReference_registerAll brought with none | ⟨earlier, owner, among, -, own⟩
    · cases none
    · have registered : owner ∈ front ++ [record] := among.mem (by simp)
      exact unopposed bare positioned owner registered claim.1 own meets
  rw [registerAll_append]
  exact (grows_registerAll _ back).isSome_find first

/-- Whatever is registered in whichever order: a look-up leads to where a type was stored that has
an agreeing reference, and the slot holds such a type still unless a registration has replaced one
by a type without. Once a type is registered, what agrees with a reference of it leads somewhere for
good. Only if the reference has no position, it may have been opposed by then.
Witness: induction on the registrations, from the last one for what is found and from the first one
for what stays found.
-/
theorem registerAll_answers (records : List TypeRecord) (key : isKey reference = true)
    : let registry := empty.registerAll records
      (∀ slot,
        registry.find reference = some slot
        → (∃ front record,
            front ++ [record] <+: records
            ∧ ((empty.registerAll front).register record).2 = slot
            ∧ reference.isIn record.references = true)
          ∧ (empty.KeepReference reference records
            → ∃ record,
                registry.get? slot = some record
                ∧ reference.isIn record.references = true))
      ∧ ∀ front record,
          front ++ [record] <+: records
          → ∀ carried ∈ record.references,
              carried.agrees reference = true
              → Unopposed (front ++ [record]) carried reference
              → (registry.find reference).isSome = true := by
  intro registry
  constructor
  · intro slot found
    exact ⟨exists_of_find_registerAll key found,
      fun keep => exists_get?_of_find_registerAll key keep found⟩
  · rintro front record ⟨back, rfl⟩ carried member agrees unopposed
    exact isSome_find_registerAll key member agrees unopposed

-- Opposed by the key of the first type, the second one is not found by its alias.
example
    : let records :=
        [scalarType "First" [.named "Alias" .input], scalarType "Second" [.named "Alias" .any]]
      (empty.registerAll records).find (.named "Alias" .output) = none := by
  decide +kernel

/-- A type that is stored again with a further alias, behind another one that comes in between. -/
def renamedAgain : List TypeRecord :=
  [
    scalarType "First" [.schema ⟨"Former"⟩],
    scalarType "Second" [],
    scalarType "First" [.schema ⟨"Former"⟩, .schema ⟨"Latter"⟩]
  ]

/-- The references have no position; what is looked up has one. -/
theorem renamedAgain_answers
    : let registry := empty.registerAll renamedAgain
      let sought : Reference := ⟨.schema ⟨"Latter"⟩, .output, none⟩
      empty.KeepReference sought renamedAgain
      ∧ Unopposed renamedAgain (.schema ⟨"Latter"⟩) sought
      ∧ ∃ slot record,
          registry.find sought = some slot
          ∧ registry.get? slot = some record
          ∧ sought.isIn record.references = true := by
  intro registry sought
  have keep : empty.KeepReference sought renamedAgain := by decide +kernel
  have unopposed : Unopposed renamedAgain (.schema ⟨"Latter"⟩) sought := by decide +kernel
  obtain ⟨sound, complete⟩ :=
    @registerAll_answers sought renamedAgain (by decide)
  have found : (registry.find sought).isSome = true :=
    complete [scalarType "First" [.schema ⟨"Former"⟩], scalarType "Second" []] _ List.prefix_rfl
      (.schema ⟨"Latter"⟩) (by decide +kernel) (by decide) unopposed
  obtain ⟨slot, leads⟩ := Option.isSome_iff_exists.mp found
  obtain ⟨record, here, carries⟩ := (sound slot leads).2 keep
  exact ⟨keep, unopposed, slot, record, leads, here, carries⟩

/-- A type that is stored again without its alias. -/
def unaliased : List TypeRecord :=
  [scalarType "First" [.schema ⟨"Former"⟩], scalarType "First" []]

/-- The alias leads to the type still, though no type has it any more. -/
theorem unaliased_found
    : ¬∀ reference,
        isKey reference = true
        → (((empty.registerAll unaliased).find reference).isSome = true
          ↔ ∃ record ∈ (empty.registerAll unaliased).records,
              reference.isIn record.references = true) := by
  intro complete
  have claimed := (complete (.schema ⟨"Former"⟩) (by decide)).mp (by decide +kernel)
  revert claimed
  decide +kernel

end SchemaGraph.Registry
