import Mathlib.Data.List.Perm.Basic
import Mathlib.Tactic.Tauto
import SchemaGraph.Proofs.Discovery.Plain

/-! Discovery does not depend on the order of the seeds.
From a plain catalogue, what discovery registers and reports follows from the set of the seeds
alone: it takes every reference that the seeds lead to, registers the types that these references
denote, and reports the other ones.
-/

namespace SchemaGraph

/-- The references that discovery comes across: the seeds, and what a type mentions that a reference
denotes.
-/
inductive Catalog.Reaches (catalog : Catalog) (seeds : List Reference) : Reference → Prop
  | seed {reference} (member : reference ∈ seeds) : catalog.Reaches seeds reference
  | mention {reference descriptor mention} (reached : catalog.Reaches seeds reference)
    (member : descriptor ∈ catalog) (described : descriptor.describes reference = true)
    (mentioned : mention ∈ descriptor.mentions)
    : catalog.Reaches seeds mention

variable {catalog : Catalog} {descriptor : Descriptor} {reference : Reference}

/-- Other seeds lead to the same references if they are the same but for order and repetition. -/
theorem Catalog.Reaches.of_seeds {first second : List Reference}
    (reached : catalog.Reaches first reference) (same : ∀ seed ∈ first, seed ∈ second)
    : catalog.Reaches second reference := by
  induction reached with
  | seed member => exact .seed (same _ member)
  | mention _ member described mentioned ih => exact .mention ih member described mentioned

namespace Registry

variable {registry before after : Registry} {slot : Slot} {record : TypeRecord}

-----------------------------------------------------------------------------------------
-- The walk
-----------------------------------------------------------------------------------------

/-- What holds between two steps of discovery: everything that was taken from the queue or is in it
was reached, the types that taken references denote are registered, and the seeds and what these
types mention were taken or are in the queue, names apart.
-/
structure Explored (catalog : Catalog) (seeds : List Reference) (registry : Registry)
    (seen queue : List Reference)
    : Prop where
  faithful : registry.Faithful catalog
  once : seen.Nodup
  unnamed : ∀ reference ∈ seen, reference.isName = false
  reached : ∀ reference ∈ seen ++ queue, catalog.Reaches seeds reference
  seeded : ∀ seed ∈ seeds, seed.isName = true ∨ seed ∈ seen ++ queue
  registered
    : ∀ descriptor ∈ catalog,
        descriptor.schemaReference ∈ registry.records.map TypeRecord.primary
        ↔ ∃ reference ∈ seen, descriptor.describes reference = true
  mentioned
    : ∀ descriptor ∈ catalog,
        ∀ reference ∈ seen,
          descriptor.describes reference = true
          → ∀ mention ∈ descriptor.mentions, mention.isName = true ∨ mention ∈ seen ++ queue

variable {seeds seen rest more : List Reference}

theorem explored_start (catalog : Catalog) (seeds : List Reference)
    : Explored catalog seeds empty [] seeds where
  faithful := faithful_empty
  once := List.nodup_nil
  unnamed _ member := absurd member List.not_mem_nil
  reached _ member := .seed member
  seeded _ member := Or.inr member
  registered _ _ := by simp [empty]
  mentioned _ _ _ member := absurd member List.not_mem_nil

/-- A name, or a reference that was taken before, is passed over. -/
theorem Explored.skip (explored : Explored catalog seeds registry seen (reference :: rest))
    (known : reference.isName = true ∨ reference ∈ seen)
    : Explored catalog seeds registry seen rest := by
  have moved {mention : Reference}
      (before : mention.isName = true ∨ mention ∈ seen ++ reference :: rest)
      : mention.isName = true ∨ mention ∈ seen ++ rest := by
    rcases before with name | member
    · exact Or.inl name
    · rcases List.mem_cons.mp (List.perm_middle.mem_iff.mp member) with rfl | kept
      · exact known.imp_right (List.mem_append_left rest)
      · exact Or.inr kept
  refine ⟨explored.faithful, explored.once, explored.unnamed, ?_, ?_, explored.registered, ?_⟩
  · intro other member
    refine explored.reached other (List.perm_middle.mem_iff.mpr ?_)
    exact List.mem_cons_of_mem reference member
  · exact fun seed member => moved (explored.seeded seed member)
  · exact fun descriptor member taken inSeen described mention mentioned =>
      moved (explored.mentioned descriptor member taken inSeen described mention mentioned)

/-- A new reference is taken: the type that it denotes is registered, and if it was not so before,
what it mentions joins the queue.
Witness: each part of the invariant holds of what was seen before, and the new reference adds what
it denotes.
-/
theorem Explored.take (explored : Explored catalog seeds before seen (reference :: rest))
    (fresh : ¬(reference.isName || decide (reference ∈ seen)) = true)
    (faithful : after.Faithful catalog)
    (registered
      : ∀ descriptor ∈ catalog,
          descriptor.schemaReference ∈ after.records.map TypeRecord.primary
          ↔ descriptor.schemaReference ∈ before.records.map TypeRecord.primary
            ∨ descriptor.describes reference = true)
    (joined
      : ∀ descriptor ∈ catalog,
          descriptor.describes reference = true
          → descriptor.schemaReference ∈ before.records.map TypeRecord.primary
            ∨ ∀ mention ∈ descriptor.mentions, mention ∈ more)
    (reached : ∀ mention ∈ more, catalog.Reaches seeds mention)
    : Explored catalog seeds after (reference :: seen) (rest ++ more) := by
  have moved {mention : Reference}
      (before : mention.isName = true ∨ mention ∈ seen ++ reference :: rest)
      : mention.isName = true ∨ mention ∈ reference :: seen ++ (rest ++ more) :=
    before.imp_right (mem_after_step more)
  obtain ⟨unnamed, new⟩ : reference.isName = false ∧ reference ∉ seen := by simpa using fresh
  refine ⟨faithful, List.nodup_cons.mpr ⟨new, explored.once⟩, ?_, ?_, ?_, ?_, ?_⟩
  · exact List.forall_mem_cons.mpr ⟨unnamed, explored.unnamed⟩
  · intro other member
    rw [List.cons_append, ← List.append_assoc, ← List.cons_append, List.mem_append] at member
    rcases member with old | new
    · exact explored.reached other (List.perm_middle.mem_iff.mpr old)
    · exact reached other new
  · exact fun seed member => moved (explored.seeded seed member)
  · intro descriptor member
    rw [registered descriptor member, explored.registered descriptor member,
      List.exists_mem_cons_iff, or_comm]
  · intro descriptor member taken inSeen described mention mentioned
    have earlier (known : ∃ previous ∈ seen, descriptor.describes previous = true)
        : mention.isName = true ∨ mention ∈ reference :: seen ++ (rest ++ more) := by
      obtain ⟨previous, inBefore, denotes⟩ := known
      exact moved (explored.mentioned descriptor member previous inBefore denotes mention mentioned)
    rcases List.mem_cons.mp inSeen with rfl | old
    · rcases joined descriptor member described with known | inMore
      · exact earlier ((explored.registered descriptor member).mp known)
      · refine Or.inr (List.mem_append_right _ (List.mem_append_right rest ?_))
        exact inMore mention mentioned
    · exact earlier ⟨taken, old, described⟩

/-- The reference denotes no type, or one that is registered: nothing but the queue changes. -/
theorem Explored.pass (explored : Explored catalog seeds registry seen (reference :: rest))
    (fresh : ¬(reference.isName || decide (reference ∈ seen)) = true)
    (known
      : ∀ descriptor ∈ catalog,
          descriptor.describes reference = true
          → descriptor.schemaReference ∈ registry.records.map TypeRecord.primary)
    : Explored catalog seeds registry (reference :: seen) rest := by
  have taken : Explored catalog seeds registry (reference :: seen) (rest ++ []) :=
    explored.take fresh explored.faithful
      (fun descriptor member => ⟨Or.inl, (Or.elim · id (known descriptor member))⟩)
      (fun descriptor member described => Or.inl (known descriptor member described))
      (fun _ member => absurd member List.not_mem_nil)
  rwa [List.append_nil] at taken

/-- The reference denotes the type that is stored.
Witness: no other type of the catalogue is denoted by the reference.
-/
theorem Explored.admit (explored : Explored catalog seeds before seen (reference :: rest))
    (plain : catalog.Plain) (fresh : ¬(reference.isName || decide (reference ∈ seen)) = true)
    (member : descriptor ∈ catalog) (described : descriptor.describes reference = true)
    (admits : Admits before after catalog descriptor)
    (joined
      : descriptor.schemaReference ∈ before.records.map TypeRecord.primary
        ∨ ∀ mention ∈ descriptor.mentions, mention ∈ more)
    (mentioned : ∀ mention ∈ more, mention ∈ descriptor.mentions)
    : Explored catalog seeds after (reference :: seen) (rest ++ more) := by
  have reached : catalog.Reaches seeds reference := explored.reached reference (by simp)
  refine explored.take fresh admits.faithful ?_ ?_ ?_
  · intro other otherMember
    rw [admits.primaries]
    refine or_congr_right ⟨fun same => ?_, fun denotes => ?_⟩
    · cases plain.eq_of_schemaReference otherMember member same
      exact described
    · cases plain.eq_of_describes otherMember member denotes described
      rfl
  · intro other otherMember denotes
    cases plain.eq_of_describes otherMember member denotes described
    exact joined
  · exact fun mention inMore => .mention reached member described (mentioned mention inMore)

/-- Once the queue is empty, the references that the seeds lead to were taken, names apart. -/
theorem Explored.mem_seen_iff (explored : Explored catalog seeds registry seen [])
    (plain : catalog.Plain)
    : reference ∈ seen ↔ catalog.Reaches seeds reference ∧ reference.isName = false := by
  constructor
  · exact fun member => ⟨explored.reached reference (by simpa using member),
      explored.unnamed reference member⟩
  · rintro ⟨reached, unnamed⟩
    induction reached with
    | seed member =>
        rcases explored.seeded _ member with name | taken
        · rw [unnamed] at name
          cases name
        · simpa using taken
    | mention reached member described mentioned ih =>
        have inSeen := ih (plain.isName_of_describes member described)
        rcases explored.mentioned _ member _ inSeen described _ mentioned with name | taken
        · rw [unnamed] at name
          cases name
        · simpa using taken

/-- The errors for those of the references that no descriptor describes. -/
def refusals (catalog : Catalog) (references : List Reference) : List SchemaError :=
  (references.filter fun reference => (catalog.describe reference).isNone).map
    fun reference => (Problem.undescribed reference).toError

/-- The outcome of a walk: further references were taken, and those of them reported that no
descriptor describes.
-/
def Walked (catalog : Catalog) (seeds seen : List Reference) (outcome : Discovery) : Prop :=
  ∃ taken : List Reference,
    Explored catalog seeds outcome.registry (taken.reverse ++ seen) []
    ∧ outcome.errors = refusals catalog taken

variable {outcome : Discovery}

theorem Walked.described (later : Walked catalog seeds (reference :: seen) outcome)
    (described : catalog.describe reference = some descriptor)
    : Walked catalog seeds seen outcome := by
  obtain ⟨taken, explored, errors⟩ := later
  refine ⟨reference :: taken, by simpa using explored, ?_⟩
  simp [refusals, described, errors]

theorem Walked.refused (later : Walked catalog seeds (reference :: seen) outcome)
    (refused : catalog.describe reference = none)
    : Walked catalog seeds seen (outcome.afterRefusal reference) := by
  obtain ⟨taken, explored, errors⟩ := later
  refine ⟨reference :: taken, ?_, ?_⟩
  · rw [List.reverse_cons, List.append_assoc]
    exact explored
  · simp [Discovery.afterRefusal, refusals, refused, errors]

/-- A walk from an explored state ends in one with an empty queue, and its errors are those of the
references that it has taken and that nothing describes.
Witness: induction on the walk; each step passes the reference over, takes it or refuses it.
-/
theorem Explored.walked {queue : List Reference}
    (explored : Explored catalog seeds registry seen queue) (plain : catalog.Plain)
    : Walked catalog seeds seen (discoverFrom catalog registry seen queue) := by
  fun_induction Registry.discoverFrom catalog registry seen queue with
  | case1 registry seen => exact ⟨[], explored, rfl⟩
  | case2 registry seen reference rest skip ih =>
      have known : reference.isName = true ∨ reference ∈ seen := by simpa using skip
      exact ih (explored.skip known)
  | case3 registry seen reference rest fresh usable ih =>
      obtain ⟨descriptor, member, stored, described⟩ :=
        explored.faithful.describes_of_usable plain usable
      have passed : Explored catalog seeds registry (reference :: seen) rest := by
        refine explored.pass fresh ?_
        intro other otherMember denotes
        cases plain.eq_of_describes otherMember member denotes described
        exact stored
      obtain ⟨first, known⟩ := Catalog.exists_describe member described
      exact (ih passed).described known
  | case4 registry seen reference rest fresh unusable refused ih =>
      have passed : Explored catalog seeds registry (reference :: seen) rest := by
        refine explored.pass fresh ?_
        intro descriptor member described
        obtain ⟨first, known⟩ := Catalog.exists_describe member described
        rw [refused] at known
        cases known
      exact (ih passed).refused refused
  | case5 registry seen reference rest fresh unusable descriptor described slot known record
      found ih =>
      obtain ⟨member, describes⟩ := Catalog.mem_of_describe described
      have admits := explored.faithful.admits_again plain member describes known found
      have registered : descriptor.schemaReference ∈ registry.records.map TypeRecord.primary := by
        obtain ⟨stored, here, same⟩ := explored.faithful.primary_of_findKey plain member known
        exact same ▸ List.mem_map_of_mem (mem_records_of_get? here)
      have further
          : Explored catalog seeds (registry.register (record.withReference reference)).1
              (reference :: seen) (rest ++ []) :=
        explored.admit plain fresh member describes admits (Or.inl registered)
          fun _ none => absurd none List.not_mem_nil
      rw [List.append_nil] at further
      exact (ih further).described described
  | case6 registry seen reference rest fresh unusable descriptor described slot known found ih =>
      obtain ⟨record, here, -⟩ :=
        explored.faithful.primary_of_findKey plain (Catalog.mem_of_describe described).1 known
      rw [found] at here
      cases here
  | case7 registry seen reference rest fresh unusable descriptor described unknown ih =>
      obtain ⟨member, describes⟩ := Catalog.mem_of_describe described
      have admits := explored.faithful.admits_new plain member describes unknown
      have further :=
        explored.admit plain fresh member describes admits (Or.inr fun _ => id)
          fun _ => id
      exact (ih further).described described

/-- Each reference that the seeds lead to is taken once, names apart, and a type is registered if
one of them denotes it.
Witness: the walk ends explored, so what was seen is what the seeds lead to.
-/
theorem discover_plain (plain : catalog.Plain) (seeds : List Reference)
    : let discovery := empty.discover catalog seeds
      ∃ taken : List Reference,
        taken.Nodup
        ∧ (∀ reference,
            reference ∈ taken ↔ catalog.Reaches seeds reference ∧ reference.isName = false)
        ∧ (discovery.registry.records.map TypeRecord.primary).Nodup
        ∧ (∀ canonical,
            canonical ∈ discovery.registry.records.map TypeRecord.primary
            ↔ ∃ descriptor ∈ catalog,
                descriptor.schemaReference = canonical
                ∧ ∃ reference ∈ taken, descriptor.describes reference = true)
        ∧ discovery.errors = refusals catalog taken := by
  obtain ⟨taken, explored, errors⟩ := (explored_start catalog seeds).walked plain
  rw [List.append_nil] at explored
  refine ⟨taken, List.nodup_reverse.mp explored.once, fun reference => ?_, ?_, fun canonical => ?_,
    errors⟩
  · rw [← explored.mem_seen_iff plain, List.mem_reverse]
  · exact explored.faithful.gathered.nodup_primaries
  · simp only [← @List.mem_reverse _ _ taken]
    constructor
    · intro member
      obtain ⟨record, stored, rfl⟩ := List.mem_map.mp member
      obtain ⟨descriptor, inCatalog, isOf, -⟩ := explored.faithful.described record stored
      rw [isOf.primary] at member ⊢
      exact ⟨descriptor, inCatalog, rfl, (explored.registered descriptor inCatalog).mp member⟩
    · rintro ⟨descriptor, inCatalog, rfl, denoted⟩
      exact (explored.registered descriptor inCatalog).mpr denoted

/-- Whatever the order and the repetitions of the seeds are, discovery from a plain catalogue
registers the same types and reports the same errors.
Witness: the references that are taken are those that the seeds lead to, whatever their order is.
-/
theorem discover_perm (plain : catalog.Plain) {first second : List Reference}
    (same : ∀ reference, reference ∈ first ↔ reference ∈ second)
    : let left := empty.discover catalog first
      let right := empty.discover catalog second
      (left.registry.records.map TypeRecord.primary).Perm
          (right.registry.records.map TypeRecord.primary)
        ∧ left.errors.Perm right.errors := by
  intro left right
  obtain ⟨taken, once, reached, distinct, registered, errors⟩ := discover_plain plain first
  obtain ⟨others, onceOthers, reachedOthers, distinctOthers, registeredOthers, errorsOthers⟩ :=
    discover_plain plain second
  have perm : taken.Perm others := by
    refine (List.perm_ext_iff_of_nodup once onceOthers).mpr fun reference => ?_
    rw [reached, reachedOthers]
    refine and_congr_left fun _ => ⟨fun here => ?_, fun here => ?_⟩
    · exact here.of_seeds fun seed => (same seed).mp
    · exact here.of_seeds fun seed => (same seed).mpr
  constructor
  · refine (List.perm_ext_iff_of_nodup distinct distinctOthers).mpr fun canonical => ?_
    rw [registered, registeredOthers]
    simp only [perm.mem_iff]
  · rw [errors, errorsOthers]
    exact (perm.filter _).map _

namespace Library

/-- A union type of the host type with these members. -/
def unionType (name : String) (host : RuntimeType) (members : List Reference) : Descriptor :=
  Descriptor.ofDefinition
    (.union { header := ⟨⟨name⟩, none, none, host⟩, members, resolvedMembers := [] })

def author : Reference :=
  .runtime (.named "Author") .output

def book : Reference :=
  .schema ⟨"Book"⟩

/-- References that no descriptor describes. -/
def lost : Reference :=
  .schema ⟨"Lost"⟩

def misplaced : Reference :=
  .runtime (.named "Author") .input

/-- Two types that mention each other, by a schema identity and by a host type. -/
def works : Catalog :=
  [
    unionType "Person" (.named "Author") [book],
    unionType "Book" .object [author, misplaced]
  ]

def forwards : List Reference :=
  [lost, author, misplaced, book]

def backwards : List Reference :=
  [book, misplaced, book, author, lost]

theorem plain : works.Plain :=
  ⟨by decide, by decide, by decide⟩

end Library

theorem library_perm
    : Library.works.Plain
      ∧ (let left := empty.discover Library.works Library.forwards
        let right := empty.discover Library.works Library.backwards
        (left.registry.records.map TypeRecord.primary).Perm
            (right.registry.records.map TypeRecord.primary)
          ∧ left.errors.Perm right.errors) := by
  refine ⟨Library.plain, discover_perm Library.plain fun reference => ?_⟩
  simp only [Library.forwards, Library.backwards, List.mem_cons, List.not_mem_nil, or_false]
  tauto

end Registry
end SchemaGraph
