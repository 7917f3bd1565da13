import Mathlib.Data.List.Nodup
import SchemaGraph.Proofs.Discovery.Termination

/-! Discovery of a whole catalogue.
The canonical references of a catalogue are the first in the queue. Each of them brings in its own
type, behind those of the descriptors before it; all that these types mention comes afterwards, and
finds every type of the catalogue registered.
-/

namespace SchemaGraph

variable {catalog front tail : Catalog} {descriptor : Descriptor} {reference : Reference}

/-- A canonical reference is described by its own descriptor, wherever that stands. -/
theorem Catalog.Distinct.describe_schemaReference (distinct : catalog.Distinct)
    (member : descriptor ∈ catalog)
    : catalog.describe descriptor.schemaReference = some descriptor := by
  obtain ⟨first, described⟩ :=
    Catalog.exists_describe member descriptor.describes_schemaReference
  obtain ⟨firstMember, describes⟩ := Catalog.mem_of_describe described
  have same : descriptor.schemaReference = first.schemaReference :=
    distinct.eq_of_describes firstMember member describes (Reference.agrees_refl _)
  rw [described, List.inj_on_of_nodup_map distinct.canonical firstMember member same.symm]

theorem Catalog.Distinct.notMem_front (distinct : catalog.Distinct)
    (split : catalog = front ++ descriptor :: tail)
    : descriptor.schemaReference ∉ front.schemaReferences := by
  have apart := distinct.canonical
  rw [split, Catalog.schemaReferences, List.map_append, List.map_cons] at apart
  exact fun member => (List.nodup_append.mp apart).2.2 _ member _ List.mem_cons_self rfl

namespace Registry

variable {registry : Registry} {slot : Slot} {record : TypeRecord}

/-- The registry holds the types of the descriptors in front, in their order, and canonical
references of the catalogue lead to their own types only.
-/
structure Filled (registry : Registry) (catalog front : Catalog) : Prop where
  gathered : registry.Gathered
  standsIn : ∀ record ∈ registry.records, record.StandsIn catalog
  size : registry.size = front.length
  isOf
    : ∀ ⦃slot record⦄,
        registry.get? slot = some record
        → ∃ descriptor, front[slot]? = some descriptor ∧ record.IsOf descriptor

theorem filled_empty (catalog : Catalog) : empty.Filled catalog [] where
  gathered := gathered_empty
  standsIn _ member := absurd member List.not_mem_nil
  size := rfl
  isOf slot record here := by simp [empty, get?] at here

theorem Filled.catalogued (filled : registry.Filled catalog front)
    : registry.Catalogued catalog :=
  ⟨filled.standsIn, filled.gathered.carried⟩

/-- A type gets a further reference: the order stays.
Witness: the record replaces itself and is of the same descriptor still.
-/
theorem Filled.again (filled : registry.Filled catalog front) (distinct : catalog.Distinct)
    (described : catalog.describe reference = some descriptor)
    (known : registry.findKey descriptor.schemaReference = some slot)
    (found : registry.get? slot = some record)
    : (registry.register (record.withReference reference)).1.Filled catalog front := by
  obtain ⟨member, describes⟩ := Catalog.mem_of_describe described
  obtain ⟨owner, here, same⟩ :=
    filled.catalogued.exists_of_findKey (List.mem_map_of_mem member) known
  cases Option.some.inj (found.symm.trans here)
  have stores := filled.gathered.stores_again found reference
  have standsIn := filled.standsIn record (mem_records_of_get? found)
  refine ⟨filled.gathered.register_again found reference, ?_, ?_, ?_⟩
  · exact stores.forall_records filled.standsIn
      (standsIn_withReference distinct member describes standsIn same)
  · rw [size_register_of_some (filled.gathered.findKey_withReference found reference)]
    exact filled.size
  · intro other later there
    rcases stores.get?_cases there with ⟨rfl, rfl⟩ | ⟨-, old⟩
    · obtain ⟨origin, inFront, isOf⟩ := filled.isOf found
      exact ⟨origin, inFront, isOf.withReference reference⟩
    · exact filled.isOf old

/-- The next descriptor of the catalogue is registered behind those in front. -/
theorem Filled.next (filled : registry.Filled catalog front) (distinct : catalog.Distinct)
    (member : descriptor ∈ catalog) (described : descriptor.describes reference = true)
    (unknown : registry.findKey descriptor.schemaReference = none)
    : (registry.register (descriptor.toRecord reference)).1.Filled catalog
        (front ++ [descriptor]) := by
  have stores := stores_toRecord unknown reference
  refine ⟨filled.gathered.register_new unknown reference, ?_, ?_, ?_⟩
  · exact stores.forall_records filled.standsIn (distinct.standsIn_toRecord member described)
  · rw [← descriptor.primary_toRecord reference] at unknown
    rw [size_register_of_none unknown, filled.size, List.length_append, List.length_singleton]
  · intro other later there
    rcases stores.get?_cases there with ⟨rfl, rfl⟩ | ⟨-, old⟩
    · refine ⟨descriptor, ?_, descriptor.isOf_toRecord reference⟩
      rw [filled.size]
      exact List.getElem?_concat_length
    · obtain ⟨origin, inFront, isOf⟩ := filled.isOf old
      have inside := (List.getElem?_eq_some_iff.mp inFront).1
      exact ⟨origin, (List.getElem?_append_left inside).trans inFront, isOf⟩

/-- A canonical reference leads nowhere before its descriptor's turn.
Witness: a key that it agrees with belongs to its own type, which is not among those in front.
-/
theorem Filled.findKey_eq_none (filled : registry.Filled catalog front)
    (distinct : catalog.Distinct) (split : catalog = front ++ descriptor :: tail)
    : registry.findKey descriptor.schemaReference = none := by
  cases leads : registry.findKey descriptor.schemaReference with
  | none => rfl
  | some slot =>
      have member : descriptor ∈ catalog := by simp [split]
      obtain ⟨record, found, primary⟩ :=
        filled.catalogued.exists_of_findKey (List.mem_map_of_mem member) leads
      obtain ⟨origin, inFront, isOf⟩ := filled.isOf found
      refine absurd ?_ (distinct.notMem_front split)
      rw [← primary, isOf.primary]
      exact List.mem_map_of_mem (List.mem_of_getElem? inFront)

/-- Once every type of the catalogue is registered, walking on changes nothing but references. -/
theorem Filled.discoverFrom (filled : registry.Filled catalog catalog)
    (distinct : catalog.Distinct) (seen queue : List Reference)
    : (discoverFrom catalog registry seen queue).registry.Filled catalog catalog := by
  refine discoverFrom_induction (motive := fun registry => registry.Filled catalog catalog)
    (fun described known found filled => filled.again distinct described known found) ?_
    seen queue filled
  intro registry reference descriptor described unknown filled
  obtain ⟨slot, inside⟩ := List.mem_iff_getElem?.mp (Catalog.mem_of_describe described).1
  have bound : slot < registry.size := by
    rw [filled.size]
    exact (List.getElem?_eq_some_iff.mp inside).1
  obtain ⟨record, found⟩ := exists_get?_of_lt bound
  obtain ⟨origin, there, isOf⟩ := filled.isOf found
  cases Option.some.inj (inside.symm.trans there)
  have leads := filled.gathered.findKey_primary found
  rw [isOf.primary, unknown] at leads
  cases leads

/-- A canonical reference that leads nowhere yet brings in its type, and all that it mentions joins
the queue.
-/
theorem registry_discoverFrom_schemaReference {seen : List Reference}
    (described : catalog.describe descriptor.schemaReference = some descriptor)
    (unknown : registry.findKey descriptor.schemaReference = none)
    (new : descriptor.schemaReference ∉ seen) (rest : List Reference)
    : (discoverFrom catalog registry seen (descriptor.schemaReference :: rest)).registry
      = (discoverFrom catalog
          (registry.register (descriptor.toRecord descriptor.schemaReference)).1
          (descriptor.schemaReference :: seen)
          (rest ++ descriptor.mentions)).registry := by
  have unnamed : descriptor.schemaReference.isName = false := rfl
  have unusable : ¬registry.denotesUsable descriptor.schemaReference = true := by
    have nowhere : registry.find descriptor.schemaReference = none :=
      (find_of_isKey rfl).trans unknown
    simp [denotesUsable, nowhere]
  rw [discoverFrom_reply (by simp [new, unnamed]) unusable]
  simp only [reply, described, unknown]

/-- With the canonical references of the other descriptors first in the queue, a walk registers one
after the other.
Witness: induction on the descriptors that are left; none of their references is known or was asked
for, since no other descriptor describes it.
-/
theorem Filled.discoverFrom_schemaReferences (filled : registry.Filled catalog front)
    (distinct : catalog.Distinct) (split : catalog = front ++ tail) {seen : List Reference}
    (before : ∀ reference ∈ seen, reference ∈ Catalog.schemaReferences front)
    (more : List Reference)
    : (Registry.discoverFrom catalog registry seen
        (Catalog.schemaReferences tail ++ more)).registry.Filled catalog catalog := by
  induction tail generalizing registry front seen more with
  | nil =>
      rw [List.append_nil] at split
      subst split
      exact filled.discoverFrom distinct seen _
  | cons descriptor rest ih =>
      have member : descriptor ∈ catalog := by simp [split]
      have unknown := filled.findKey_eq_none distinct split
      have next := filled.next distinct member descriptor.describes_schemaReference unknown
      have new : descriptor.schemaReference ∉ seen := fun taken =>
        distinct.notMem_front split (before _ taken)
      have further
          : ∀ reference ∈ descriptor.schemaReference :: seen,
              reference ∈ Catalog.schemaReferences (front ++ [descriptor]) := by
        rw [Catalog.schemaReferences, List.map_append]
        intro reference taken
        rcases List.mem_cons.mp taken with rfl | earlier
        · simp
        · exact List.mem_append_left _ (before reference earlier)
      rw [Catalog.schemaReferences, List.map_cons, List.cons_append,
        registry_discoverFrom_schemaReference (distinct.describe_schemaReference member) unknown
          new,
        List.append_assoc]
      exact ih next (by simpa using split) further (more ++ descriptor.mentions)

/-- Discovery from the canonical references of a catalogue ends with one record for each descriptor,
in the order of the catalogue, whatever the descriptors mention.
-/
theorem discover_schemaReferences (distinct : catalog.Distinct)
    : List.Forall₂ TypeRecord.IsOf
        (empty.discover catalog catalog.schemaReferences).registry.records
        catalog := by
  have none (reference : Reference) (member : reference ∈ ([] : List Reference))
      : reference ∈ Catalog.schemaReferences [] :=
    absurd member List.not_mem_nil
  have filled := (filled_empty catalog).discoverFrom_schemaReferences distinct rfl none []
  rw [List.append_nil] at filled
  refine List.forall₂_iff_get.mpr ⟨filled.size, fun slot inside bound => ?_⟩
  obtain ⟨descriptor, there, isOf⟩ := filled.isOf (List.getElem?_eq_getElem inside)
  rw [List.getElem?_eq_getElem bound] at there
  rw [List.get_eq_getElem, List.get_eq_getElem, Option.some.inj there]
  exact isOf

namespace Library

/-- Two types of one host type, and one with an alias. They mention each other, by that alias and by
the host type, and references that no descriptor describes.
-/
def stock : Catalog :=
  [
    unionType "Person" (.named "Author") [.schema ⟨"Volume"⟩, lost],
    { unionType "Book" .object [author, misplaced] with aliases := [.schema ⟨"Volume"⟩] },
    unionType "Editor" (.named "Author") [author, book]
  ]

theorem distinct : stock.Distinct :=
  ⟨by decide, by decide⟩

end Library

theorem library_inOrder
    : Library.stock.Distinct
      ∧ List.Forall₂ TypeRecord.IsOf
          (empty.discover Library.stock Library.stock.schemaReferences).registry.records
          Library.stock :=
  ⟨Library.distinct, discover_schemaReferences Library.distinct⟩

end Registry
end SchemaGraph
