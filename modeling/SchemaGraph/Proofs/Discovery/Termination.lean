import Mathlib.Algebra.Order.BigOperators.Group.List
import Mathlib.Logic.Function.Iterate
import SchemaGraph.Proofs.Discovery.SeedOrder
import SchemaGraph.Proofs.Registry.Extent

/-! Discovery ends.
A walk takes one reference after the other from its queue. The references in the queue, and all that
the types mention which are not registered yet, are what is left to do: each step leaves less of it,
however the types refer to each other. On its way a walk asks the catalogue about no reference
twice, and each type that it adds is one more of those that the catalogue describes.
-/

namespace SchemaGraph

namespace Registry

/-- What comes of a reference that the catalogue is asked to describe. -/
structure Reply where
  registry : Registry
  /-- What the reference leads on to. -/
  joining : List Reference
  errors : List SchemaError

/-- Registers a new type. One that is known gets the reference. -/
def reply (catalog : Catalog) (registry : Registry) (reference : Reference) : Reply :=
  match catalog.describe reference with
  | none => ⟨registry, [], [(Problem.undescribed reference).toError]⟩
  | some descriptor =>
      match registry.findKey descriptor.schemaReference with
      | some slot =>
          match registry.get? slot with
          | some record => ⟨(registry.register (record.withReference reference)).1, [], []⟩
          | none => ⟨registry, [], []⟩
      | none =>
          ⟨(registry.register (descriptor.toRecord reference)).1, descriptor.mentions, []⟩

/-- How many references the types mention that are not registered yet. -/
def awaitedMentions (catalog : Catalog) (registry : Registry) : Nat :=
  ((registry.unregistered catalog).map fun descriptor => descriptor.mentions.length).sum

variable {catalog : Catalog} {registry : Registry} {reference : Reference}
  {descriptor : Descriptor} {record : TypeRecord}

-----------------------------------------------------------------------------------------
-- What is not registered yet
-----------------------------------------------------------------------------------------

/-- Registering a record brings no descriptor back. -/
theorem unregistered_register (registry : Registry) (record : TypeRecord) (catalog : Catalog)
    : ((registry.register record).1.unregistered catalog).Sublist
        (registry.unregistered catalog) := by
  refine List.monotone_filter_right catalog fun descriptor unknown => ?_
  cases leads : registry.findKey descriptor.schemaReference with
  | none => rfl
  | some slot =>
      have still
          : ((registry.register record).1.findKey descriptor.schemaReference).isSome = true :=
        isSome_findKey_register (by rw [leads]; rfl)
      simp [Option.isNone_iff_eq_none.mp unknown] at still

theorem awaitedMentions_register_le (registry : Registry) (record : TypeRecord)
    (catalog : Catalog)
    : awaitedMentions catalog (registry.register record).1 ≤ awaitedMentions catalog registry :=
  ((unregistered_register registry record catalog).map _).sum_le_sum fun _ _ => Nat.zero_le _

/-- What a new type mentions is not waited for any more.
Witness: the descriptor splits the catalogue, and both parts wait for no more than before.
-/
theorem awaitedMentions_toRecord (foundBy : Reference) (member : descriptor ∈ catalog)
    (unknown : registry.findKey descriptor.schemaReference = none)
    : awaitedMentions catalog (registry.register (descriptor.toRecord foundBy)).1
        + descriptor.mentions.length
      ≤ awaitedMentions catalog registry := by
  obtain ⟨front, back, rfl⟩ := List.append_of_mem member
  have known
      : ((registry.register (descriptor.toRecord foundBy)).1.findKey
          descriptor.schemaReference).isSome = true := by
    rw [← descriptor.primary_toRecord foundBy]
    exact isSome_findKey_register_primary (by rw [descriptor.primary_toRecord]; rfl)
  have inFront := awaitedMentions_register_le registry (descriptor.toRecord foundBy) front
  have inBack := awaitedMentions_register_le registry (descriptor.toRecord foundBy) back
  unfold awaitedMentions unregistered at inFront inBack ⊢
  simp only [List.filter_append, List.filter_cons, unknown, Option.isNone_none, if_true,
    Option.isNone_iff_eq_none, Option.isSome_iff_ne_none.mp known, if_false, List.map_append,
    List.map_cons, List.sum_append, List.sum_cons]
  omega

-----------------------------------------------------------------------------------------
-- What a reply brings
-----------------------------------------------------------------------------------------

theorem awaitedMentions_reply_le (catalog : Catalog) (registry : Registry)
    (reference : Reference)
    : (registry.reply catalog reference).joining.length
        + awaitedMentions catalog (registry.reply catalog reference).registry
      ≤ awaitedMentions catalog registry := by
  unfold reply
  split
  · simp
  · next descriptor described =>
      split
      · split
        · simpa using awaitedMentions_register_le registry _ catalog
        · simp
      · next unknown =>
          have fewer :=
            awaitedMentions_toRecord reference (Catalog.mem_of_describe described).1 unknown
          dsimp only
          omega

/-- With the descriptors that are left to register, the registry is no larger than before.
Witness: a type that is registered is one descriptor less to register.
-/
theorem Firm.reply (firm : registry.Firm) (catalog : Catalog) (reference : Reference)
    : let after := (registry.reply catalog reference).registry
      after.Firm
      ∧ after.size + (after.unregistered catalog).length
        ≤ registry.size + (registry.unregistered catalog).length := by
  unfold Registry.reply
  split
  · exact ⟨firm, Nat.le_refl _⟩
  · next descriptor described =>
      split
      · split
        · next record found =>
            obtain ⟨further, size⟩ :=
              firm.store found (record.primary_withReference reference)
            refine ⟨further, ?_⟩
            rw [size]
            exact Nat.add_le_add_left (length_unregistered_register_le _ _ _) _
        · exact ⟨firm, Nat.le_refl _⟩
      · next unknown =>
          have primary := descriptor.primary_toRecord reference
          have fewer :=
            length_unregistered_toRecord_lt reference (Catalog.mem_of_describe described).1 unknown
          rw [← primary] at unknown
          obtain ⟨further, size⟩ := firm.register_new (by rw [primary]; rfl) unknown
          refine ⟨further, ?_⟩
          dsimp only
          rw [size]
          omega

/-- Discovery goes on with what the reply brings. -/
theorem discoverFrom_reply {seen rest : List Reference}
    (fresh : ¬(reference.isName || decide (reference ∈ seen)) = true)
    (unusable : ¬registry.denotesUsable reference = true)
    : discoverFrom catalog registry seen (reference :: rest)
      = let reply := registry.reply catalog reference
        let later := discoverFrom catalog reply.registry (reference :: seen) (rest ++ reply.joining)
        ⟨later.registry, reference :: later.asked, reply.errors ++ later.errors⟩ := by
  rw [discoverFrom, if_neg fresh, if_neg unusable]
  unfold Registry.reply
  split
  · next refused => simp [refused, Discovery.afterRefusal, Discovery.afterAsking]
  · next descriptor described =>
      split
      · next slot known =>
          cases found : registry.get? slot <;>
            simp [described, known, found, Discovery.afterAsking]
      · next unknown => simp [described, unknown, Discovery.afterAsking]

end Registry

open Registry

/-- A discovery between two steps. -/
structure Walk where
  registry : Registry
  /-- The references that were taken from the queue, names and repetitions apart. -/
  seen : List Reference
  queue : List Reference
  /-- The references that the catalogue was asked to describe, in order. -/
  asked : List Reference
  errors : List SchemaError

namespace Walk

def start (registry : Registry) (seeds : List Reference) : Walk :=
  ⟨registry, [], seeds, [], []⟩

/-- Takes the first reference from the queue. -/
def step (catalog : Catalog) (walk : Walk) : Walk :=
  match walk.queue with
  | [] => walk
  | reference :: rest =>
      if reference.isName || reference ∈ walk.seen then
        { walk with queue := rest }
      else if walk.registry.denotesUsable reference then
        { walk with seen := reference :: walk.seen, queue := rest }
      else
        let reply := walk.registry.reply catalog reference
        {
          registry := reply.registry
          seen := reference :: walk.seen
          queue := rest ++ reply.joining
          asked := walk.asked ++ [reference]
          errors := walk.errors ++ reply.errors
        }

/-- What the walk has come to. -/
def result (walk : Walk) : Discovery :=
  ⟨walk.registry, walk.asked, walk.errors⟩

/-- What the walk comes to in the end. -/
def outcome (catalog : Catalog) (walk : Walk) : Discovery :=
  let later := discoverFrom catalog walk.registry walk.seen walk.queue
  ⟨later.registry, walk.asked ++ later.asked, walk.errors ++ later.errors⟩

/-- The references in the queue, and those that may still join it. -/
def work (catalog : Catalog) (walk : Walk) : Nat :=
  walk.queue.length + walk.registry.awaitedMentions catalog

variable {catalog : Catalog} {walk : Walk}

-----------------------------------------------------------------------------------------
-- Discovery step by step
-----------------------------------------------------------------------------------------

theorem outcome_of_done (done : walk.queue = []) : walk.outcome catalog = walk.result := by
  simp [outcome, result, done, discoverFrom]

/-- A step leads on to where the walk leads. -/
theorem outcome_step (catalog : Catalog) (walk : Walk)
    : (walk.step catalog).outcome catalog = walk.outcome catalog := by
  obtain ⟨registry, seen, queue, asked, errors⟩ := walk
  cases queue with
  | nil => rfl
  | cons reference rest =>
      unfold step
      dsimp only
      split
      · next known => simp [outcome, discoverFrom, known]
      · next fresh =>
          split
          · next usable =>
              unfold outcome
              dsimp only
              rw [discoverFrom.eq_2, if_neg fresh, if_pos usable]
          · next unusable => simp [outcome, discoverFrom_reply fresh unusable]

/-- As long as there is a reference in the queue, a step leaves less to do. -/
theorem work_step_lt (pending : walk.queue ≠ [])
    : (walk.step catalog).work catalog < walk.work catalog := by
  obtain ⟨registry, seen, queue, asked, errors⟩ := walk
  cases queue with
  | nil => exact absurd rfl pending
  | cons reference rest =>
      have joining := registry.awaitedMentions_reply_le catalog reference
      unfold step work
      dsimp only
      split
      · simp
      · split
        · simp
        · simp only [List.length_append, List.length_cons]
          omega

theorem step_of_done (done : walk.queue = []) : walk.step catalog = walk := by
  unfold step
  rw [done]

/-- When as many steps are made as there is to do, the queue is empty. -/
theorem queue_iterate_step {steps : Nat} (enough : walk.work catalog ≤ steps)
    : ((step catalog)^[steps] walk).queue = [] := by
  induction steps generalizing walk with
  | zero =>
      unfold work at enough
      have nothing : walk.queue.length = 0 := by omega
      exact List.length_eq_zero_iff.mp nothing
  | succ steps ih =>
      rw [Function.iterate_succ_apply]
      by_cases done : walk.queue = []
      · rw [step_of_done done, Function.iterate_fixed (step_of_done done)]
        exact done
      · have fewer : (walk.step catalog).work catalog < walk.work catalog := work_step_lt done
        exact ih (by omega)

theorem outcome_iterate_step (catalog : Catalog) (steps : Nat) (walk : Walk)
    : ((step catalog)^[steps] walk).outcome catalog = walk.outcome catalog := by
  induction steps generalizing walk with
  | zero => rfl
  | succ steps ih => rw [Function.iterate_succ_apply, ih, outcome_step]

-----------------------------------------------------------------------------------------
-- What holds on the way
-----------------------------------------------------------------------------------------

/-- What holds between two steps of a walk that began with this registry. -/
structure Within (start : Registry) (catalog : Catalog) (walk : Walk) : Prop where
  firm : walk.registry.Firm
  size
    : walk.registry.size + (walk.registry.unregistered catalog).length
      ≤ start.size + (start.unregistered catalog).length
  seen : ∀ reference ∈ walk.asked, reference ∈ walk.seen
  once : walk.asked.Nodup

variable {registry : Registry}

theorem within_start (firm : registry.Firm) (seeds : List Reference)
    : Within registry catalog (start registry seeds) where
  firm := firm
  size := Nat.le_refl _
  seen _ member := absurd member List.not_mem_nil
  once := List.nodup_nil

/-- A step asks for a reference that was not asked for before, and registers a type only for a
descriptor that had none.
-/
theorem Within.step (within : Within registry catalog walk)
    : Within registry catalog (walk.step catalog) := by
  obtain ⟨current, seen, queue, asked, errors⟩ := walk
  obtain ⟨firm, size, inSeen, once⟩ := within
  cases queue with
  | nil => exact ⟨firm, size, inSeen, once⟩
  | cons reference rest =>
      have later (other : Reference) (member : other ∈ asked) : other ∈ reference :: seen :=
        List.mem_cons_of_mem reference (inSeen other member)
      unfold Walk.step
      dsimp only
      split
      · exact ⟨firm, size, inSeen, once⟩
      · next fresh =>
          split
          · exact ⟨firm, size, later, once⟩
          · obtain ⟨further, fewer⟩ := firm.reply catalog reference
            have new : reference ∉ asked := by
              intro member
              simp [inSeen reference member] at fresh
            refine ⟨further, fewer.trans size, ?_, ?_⟩
            · exact List.forall_mem_append.mpr ⟨later, by simp⟩
            · exact List.nodup_append'.mpr ⟨once, List.nodup_singleton _, by simpa using new⟩

theorem Within.iterate_step (within : Within registry catalog walk) (steps : Nat)
    : Within registry catalog ((Walk.step catalog)^[steps] walk) := by
  induction steps generalizing walk with
  | zero => exact within
  | succ steps ih => exact ih within.step

end Walk

namespace Registry

variable {registry : Registry}

/-- Whatever the types and the seeds refer to, a walk from the seeds has ended after one step for
each seed and each reference that a type of the catalogue mentions, and it ends with what discovery
comes to. The registry has grown by no more types than the catalogue describes, and the catalogue
was asked about no reference twice.
Witness: each step takes one reference from the queue, and a descriptor puts its mentions there
once.
-/
theorem discover_ends (firm : registry.Firm) (catalog : Catalog) (seeds : List Reference)
    : let discovery := registry.discover catalog seeds
      (∃ steps ≤
          seeds.length + (catalog.map fun descriptor => descriptor.mentions.length).sum,
        let last := (Walk.step catalog)^[steps] (Walk.start registry seeds)
        last.queue = [] ∧ discovery = last.result)
      ∧ discovery.registry.size ≤ registry.size + catalog.length
      ∧ discovery.asked.Nodup := by
  intro discovery
  let walk := Walk.start registry seeds
  let last := (Walk.step catalog)^[walk.work catalog] walk
  have done : last.queue = [] := Walk.queue_iterate_step (Nat.le_refl _)
  have same : discovery = last.result := by
    rw [← Walk.outcome_of_done done, Walk.outcome_iterate_step]
    simp [Walk.outcome, walk, Walk.start, discovery, discover]
  have within : Walk.Within registry catalog last :=
    (Walk.within_start firm seeds).iterate_step (walk.work catalog)
  refine ⟨⟨walk.work catalog, ?_, done, same⟩, ?_, ?_⟩
  · refine Nat.add_le_add_left ?_ seeds.length
    exact (List.filter_sublist.map _).sum_le_sum fun _ _ => Nat.zero_le _
  · have fewer : (registry.unregistered catalog).length ≤ catalog.length :=
      List.length_filter_le _ _
    have size := within.size
    rw [same]
    dsimp only [Walk.result]
    omega
  · rw [same]
    exact within.once

namespace Library

/-- The book is known already. -/
def shelved : Registry :=
  Registry.empty.applyAll
    [.register ((unionType "Book" .object [author, misplaced]).toRecord book)]

theorem firm : shelved.Firm :=
  ⟨⟨_, rfl⟩, by decide⟩

end Library

theorem library_ends
    : Library.shelved.Firm
      ∧ (let discovery := Library.shelved.discover Library.works Library.backwards
        (∃ steps ≤ 8,
          let last :=
            (Walk.step Library.works)^[steps] (Walk.start Library.shelved Library.backwards)
          last.queue = [] ∧ discovery = last.result)
        ∧ discovery.registry.size ≤ 3
        ∧ discovery.asked.Nodup) :=
  ⟨Library.firm, discover_ends Library.firm Library.works Library.backwards⟩

end Registry
end SchemaGraph
