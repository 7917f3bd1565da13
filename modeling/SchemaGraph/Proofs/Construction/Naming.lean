import SchemaGraph.Proofs.Construction.Published
import SchemaGraph.Proofs.Registry.FinalNames
import SchemaGraph.Proofs.Schedule.Levels
import SchemaGraph.Proofs.Schedule.Waiting

/-! Naming all types.
A dependency on a name leads nowhere until the type that is to have the name is named. It holds its
type back all the same, and so naming follows the graph in which every such dependency leads to that
type from the start.
-/

namespace SchemaGraph

namespace Registry

variable {registry : Registry} {naming : Naming} {slot target : Slot} {record owner : TypeRecord}
  {reference : Reference} {name : String}

-----------------------------------------------------------------------------------------
-- While types are being named
-----------------------------------------------------------------------------------------

/-- The registry after the slots that are done were named. No key is new, and what is found by host
types goes on being found.
-/
structure NamedSoFar (naming : Naming) (start : Registry) (done : List Slot)
    (registry : Registry)
    : Prop where
  settled : registry.Settled
  byReference : registry.byReference = start.byReference
  grows : Grows start registry
  stored
    : ∀ slot,
        registry.get? slot
        = (start.get? slot).map fun record =>
            if slot ∈ done then record.named naming else record
  byName
    : ∀ key slot,
        Entries.get? registry.byName key = some slot
        ↔ slot ∈ done ∧ ∃ record, start.get? slot = some record ∧ finalKey naming record = some key

/-- The processed references are those of types, among them the canonical ones of the slots that are
done.
-/
structure Marked (start : Registry) (done : List Slot) (processed : List Reference)
    : Prop where
  canonical
    : ∀ slot record,
        start.get? slot = some record → (record.primary.isIn processed = true ↔ slot ∈ done)
  carried : ∀ reference ∈ processed, ∃ record ∈ start.records, reference ∈ record.references

theorem Nameable.namedSoFar (nameable : registry.Nameable naming)
    : NamedSoFar naming registry [] registry where
  settled := nameable.settled
  byReference := rfl
  grows := .refl registry
  stored slot := by simp
  byName key slot := by simp [nameable.unnamed]

theorem marked_nil (registry : Registry) : Marked registry [] [] where
  canonical slot record _ := by simp [Reference.isIn]
  carried reference member := absurd member List.not_mem_nil

section

variable {start : Registry} {done : List Slot} {processed : List Reference}

theorem NamedSoFar.get?_of_done (sofar : NamedSoFar naming start done registry)
    (found : start.get? slot = some record) (isDone : slot ∈ done)
    : registry.get? slot = some (record.named naming) := by
  rw [sofar.stored, found, Option.map_some, if_pos isDone]

theorem NamedSoFar.get?_of_not_done (sofar : NamedSoFar naming start done registry)
    (found : start.get? slot = some record) (undone : slot ∉ done)
    : registry.get? slot = some record := by
  rw [sofar.stored, found, Option.map_some, if_neg undone]

/-- Whether named or not, a type has the references that it had. -/
theorem NamedSoFar.exists_get? (sofar : NamedSoFar naming start done registry)
    (found : start.get? slot = some record)
    : ∃ later, registry.get? slot = some later ∧ later.references = record.references := by
  by_cases isDone : slot ∈ done
  · exact ⟨_, sofar.get?_of_done found isDone, TypeRecord.references_named⟩
  · exact ⟨_, sofar.get?_of_not_done found isDone, rfl⟩

/-- No reference that agrees with one that no type carries is processed. -/
theorem Marked.isIn_eq_false (marked : Marked start done processed)
    (unclaimed : ∀ other ∈ start.records, reference.isIn other.references = false)
    : reference.isIn processed = false := by
  rw [Bool.eq_false_iff]
  intro passed
  obtain ⟨other, member, agrees⟩ := Reference.isIn_iff.mp passed
  obtain ⟨carrier, inStart, carries⟩ := marked.carried other member
  have claimed := Reference.isIn_iff.mpr ⟨other, carries, agrees⟩
  rw [unclaimed carrier inStart] at claimed
  cases claimed

-----------------------------------------------------------------------------------------
-- What references denote meanwhile
-----------------------------------------------------------------------------------------

/-- What a reference denoted at the start it denotes all along. -/
theorem NamedSoFar.locate_of_some (sofar : NamedSoFar naming start done registry)
    (unnamed : start.byName = []) (leads : start.locate reference = some target)
    : registry.locate reference = some target := by
  rw [locate_of_unnamed unnamed] at leads
  refine locate_of_find ?_
  unfold find at leads ⊢
  split at leads
  · exact sofar.grows.findRuntime leads
  · rwa [findKey, sofar.byReference]

/-- A name that denotes nothing at the start is looked up among the names alone. -/
theorem NamedSoFar.locate_of_nowhere (sofar : NamedSoFar naming start done registry)
    (unnamed : start.byName = []) (nowhere : start.locate reference = none)
    (byName : reference.target = .byName name)
    : registry.locate reference = registry.findByName name := by
  have keyed : isKey reference = true := by simp [isKey, byName]
  have missed : registry.find reference = none := by
    rw [locate_of_unnamed unnamed, find_of_isKey keyed] at nowhere
    rwa [find_of_isKey keyed, findKey, sofar.byReference]
  rw [locate, byName]
  dsimp only
  rw [missed, Option.none_or]

/-- A named type that is to have the name is found by it as soon as it is done. -/
theorem NamedSoFar.findByName_eq (sofar : NamedSoFar naming start done registry)
    (nameable : start.Nameable naming) (found : start.get? target = some owner)
    (which : owner.isNamedType = true) (final : owner.finalName naming = some name)
    : registry.findByName name = if target ∈ done then some target else none := by
  obtain ⟨own, alsoFinal, valid⟩ := nameable.valid owner (mem_records_of_get? found)
  cases Option.some.inj (final.symm.trans alsoFinal)
  have keyed := (finalKey_eq_some_iff final valid).mpr ⟨which, rfl⟩
  split
  · next isDone => exact (sofar.byName name target).mpr ⟨isDone, owner, found, keyed⟩
  · next undone =>
      rw [Option.eq_none_iff_forall_not_mem]
      intro slot leads
      obtain ⟨isDone, record, here, alsoKeyed⟩ := (sofar.byName name slot).mp leads
      exact undone (nameable.slot_eq here found alsoKeyed keyed ▸ isDone)

/-- A reference that denotes a type is led to the canonical reference that the type has had. -/
theorem NamedSoFar.canonicalOrSelf_eq (sofar : NamedSoFar naming start done registry)
    (found : start.get? target = some owner) (leads : registry.locate reference = some target)
    : registry.canonicalOrSelf reference = owner.primary := by
  obtain ⟨later, here, same⟩ := sofar.exists_get? found
  rw [canonicalOrSelf_of_some ((resolve_of_locate leads).trans here)]
  exact TypeRecord.primary_congr same

/-- A dependency is processed when what it leads to is done.
Witness: a name that denotes nothing yet is kept, and no type is found by it.
-/
theorem NamedSoFar.isIn_processed_iff (sofar : NamedSoFar naming start done registry)
    (marked : Marked start done processed) (nameable : start.Nameable naming)
    (found : start.get? slot = some record)
    (declared : reference ∈ record.dependenciesOf .named)
    (leads : start.LeadsTo naming reference target)
    : (registry.canonicalOrSelf reference).isIn processed = true ↔ target ∈ done := by
  rcases leads with leads | ⟨nowhere, name, byName, owner, there, which, final⟩
  · obtain ⟨owner, there⟩ := exists_get?_of_lt (nameable.built.bounded.locate_lt leads)
    rw [sofar.canonicalOrSelf_eq there (sofar.locate_of_some nameable.unnamed leads)]
    exact marked.canonical target owner there
  · have unclaimed := nameable.unclaimed found declared nowhere
    have located := sofar.locate_of_nowhere nameable.unnamed nowhere byName
    rw [sofar.findByName_eq nameable there which final] at located
    by_cases isDone : target ∈ done
    · rw [if_pos isDone] at located
      rw [sofar.canonicalOrSelf_eq there located]
      exact marked.canonical target owner there
    · rw [if_neg isDone] at located
      have kept : registry.canonicalOrSelf reference = reference :=
        canonicalOrSelf_of_none (resolve_of_nowhere located)
      rw [kept, marked.isIn_eq_false unclaimed]
      exact iff_of_false Bool.false_ne_true isDone

/-- A type that is not done is ready when all that it is ever to wait for is done. -/
theorem NamedSoFar.isReady_iff (sofar : NamedSoFar naming start done registry)
    (marked : Marked start done processed) (nameable : start.Nameable naming)
    (inside : slot < start.size) (undone : slot ∉ done)
    : Schedule.isReady registry .named processed slot = true
      ↔ ∀ target, start.NameWaits naming slot target → target ∈ done := by
  obtain ⟨record, found⟩ := exists_get?_of_lt inside
  simp only [Schedule.isReady, sofar.get?_of_not_done found undone, List.all_eq_true]
  constructor
  · rintro all target ⟨owner, here, reference, declared, leads⟩
    cases Option.some.inj (found.symm.trans here)
    exact (sofar.isIn_processed_iff marked nameable found declared leads).mp (all _ declared)
  · intro all reference declared
    obtain ⟨target, leads⟩ := nameable.exists_leadsTo found declared
    rw [sofar.isIn_processed_iff marked nameable found declared leads]
    exact all target ⟨record, found, reference, declared, leads⟩

-----------------------------------------------------------------------------------------
-- Naming one type
-----------------------------------------------------------------------------------------

/-- The key of a type that is not done is free. -/
theorem NamedSoFar.get?_byName_eq_none (sofar : NamedSoFar naming start done registry)
    (nameable : start.Nameable naming) (found : start.get? slot = some record)
    (undone : slot ∉ done) {key : String} (keyed : finalKey naming record = some key)
    : Entries.get? registry.byName key = none := by
  rw [Option.eq_none_iff_forall_not_mem]
  intro holder held
  obtain ⟨isDone, other, there, alsoKeyed⟩ := (sofar.byName key holder).mp held
  exact undone (nameable.slot_eq there found alsoKeyed keyed ▸ isDone)

/-- The name of a type that is not done can be registered, and then one more type is named.
Witness: no two types are to have the same key, so the key of a type that is not done is free.
-/
theorem NamedSoFar.call (sofar : NamedSoFar naming start done registry)
    (nameable : start.Nameable naming) (found : start.get? slot = some record)
    (undone : slot ∉ done)
    : ∃ after,
        (registry.register (record.named naming)).1.registerName slot = .ok after
        ∧ NamedSoFar naming start (done ++ [slot]) after := by
  let new := record.named naming
  have references : new.references = record.references := TypeRecord.references_named
  have here := sofar.get?_of_not_done found undone
  have stores := sofar.settled.anchored.stores here references
  have own : ((registry.register new).1.get? slot).bind nameKey = finalKey naming record := by
    rw [stores.self]
    rfl
  have free (key : String)
      (keyed : ((registry.register new).1.get? slot).bind nameKey = some key)
      : Entries.get? (registry.register new).1.byName key = none := by
    rw [byName_register]
    exact sofar.get?_byName_eq_none nameable found undone (own ▸ keyed)
  obtain ⟨after, registered, sameKeys, byName⟩ := registerName_of_free free
  refine ⟨after, registered, ?_, ?_, ?_, ?_, ?_⟩
  · exact (sofar.settled.register here references).registerName registered
  · rw [sameKeys, sofar.settled.anchored.byReference_register here references, sofar.byReference]
  · exact sofar.grows.trans ((grows_register _ _).trans (grows_registerName registered))
  · intro other
    rw [get?_registerName registered]
    by_cases same : slot = other
    · subst same
      rw [stores.self]
      simp [found, new]
    · rw [stores.others other same, sofar.stored]
      simp [Ne.symm same]
  · intro key other
    rw [byName, own, byName_register, sofar.byName, List.mem_append, List.mem_singleton,
      or_and_right]
    refine or_congr_right (and_congr_right ?_)
    rintro rfl
    simp [found]

/-- Once a further slot is done, its references are processed, too. -/
theorem Marked.call (marked : Marked start done processed) (apart : start.CanonicalApart)
    {after : Registry} (sofar : NamedSoFar naming start (done ++ [slot]) after)
    (found : start.get? slot = some record)
    : Marked start (done ++ [slot]) (Schedule.markProcessed after slot processed) := by
  obtain ⟨later, here, references⟩ := sofar.exists_get? found
  have same
      : Schedule.markProcessed after slot processed
        = Schedule.markProcessed start slot processed := by
    simp only [Schedule.markProcessed, here, found, references]
  rw [same]
  constructor
  · intro other owner there
    rw [Schedule.isIn_markProcessed_iff apart there, marked.canonical other owner there,
      List.mem_append, List.mem_singleton]
  · intro reference member
    rcases Schedule.mem_markProcessed member with old | ⟨carrier, there, carries⟩
    · exact marked.carried reference old
    · exact ⟨carrier, mem_records_of_get? there, carries⟩

end

end Registry

namespace Calendar

open Schedule

/-- A scalar type that is backed by a host type, from which it is to have its name. -/
def day : TypeRecord :=
  TypeRecord.new (.scalar ⟨⟨⟨"DayType"⟩, none, none, .generic "Day" []⟩⟩) []
    [⟨.schema ⟨"Zone"⟩, .named⟩] Discovered.nothing

/-- The first type waits for the name of the second one, and that one for the identity of the third
one.
-/
def registry : Registry :=
  Registry.empty.applyAll
    [.register (waitingType "Event" [⟨.named "Day" .output, .named⟩]), .register day,
      .register (waitingType "Zone" [])]

def plan : Plan :=
  { Greetings.plan with seeds := [], catalog := [] }

def progress : Progress :=
  { Progress.start with registry }

theorem records_registry
    : registry.records
      = [waitingType "Event" [⟨.named "Day" .output, .named⟩], day, waitingType "Zone" []] := by
  rfl

theorem finalNames
    : registry.records.map (TypeRecord.finalName plan.options.naming)
      = [some "Event", some "Day", some "Zone"] := by
  cbv

theorem nameable : registry.Nameable plan.options.naming where
  built := ⟨_, rfl⟩
  settled := ⟨by decide, by decide +kernel, by decide +kernel, by decide +kernel⟩
  unnamed := rfl
  valid record member := by
    have final := List.mem_map_of_mem (f := TypeRecord.finalName plan.options.naming) member
    simp only [finalNames, List.mem_cons, List.not_mem_nil, or_false] at final
    rcases final with final | final | final <;> exact ⟨_, final, by decide⟩
  types := by
    have all : registry.records.filter TypeRecord.isNamedType = registry.records := by cbv
    rw [all, finalNames]
    decide
  directives := by
    have none : registry.records.filter TypeRecord.isDirective = [] := by cbv
    rw [none]
    decide
  dependencies record member reference declared := by
    simp only [records_registry, List.mem_cons, List.not_mem_nil, or_false] at member
    rcases member with rfl | rfl | rfl
    · cases List.mem_singleton.mp declared
      refine Or.inr ⟨⟨"Day", rfl, day, ?_, rfl, by cbv⟩, by decide⟩
      simp [records_registry]
    · cases List.mem_singleton.mp declared
      exact Or.inl (by decide)
    · cases declared

end Calendar

-----------------------------------------------------------------------------------------
-- Runs
-----------------------------------------------------------------------------------------

namespace Plan

open Registry Schedule

variable {plan : Plan} {progress : Progress} {slot : Slot} {record : TypeRecord}

/-- Naming a type succeeds where its name is valid and can be registered. -/
theorem nameType_of_registerName {name : String} {after : Registry}
    (found : progress.registry.get? slot = some record)
    (final : record.finalName plan.options.naming = some name)
    (valid : Naming.isValidName name = true)
    (registered
      : (progress.registry.register (record.named plan.options.naming)).1.registerName slot
        = .ok after)
    : (plan.nameType slot progress).1 = true
      ∧ (plan.nameType slot progress).2.registry = after := by
  have chosen := TypeRecord.finalName_eq_some_iff.mp final
  rw [TypeRecord.named_eq final] at registered
  unfold nameType
  rw [found]
  simp only [Definition.completeName, chosen, valid, if_true, Progress.registerNamed,
    Progress.registry_setState, registered]
  exact ⟨trivial, by simp⟩

/-- The calls of a naming follow the dependencies as they are in the end. -/
theorem nameType_follows {start : Registry}
    (nameable : start.Nameable plan.options.naming)
    : Follows .named plan.nameType start.size (start.NameWaits plan.options.naming)
        fun done processed progress =>
          NamedSoFar plan.options.naming start done progress.registry
          ∧ Marked start done processed where
  inside := nameable.target_lt
  ready := fun ⟨sofar, marked⟩ inside undone =>
    sofar.isReady_iff marked nameable inside undone
  call {done processed progress slot} := by
    rintro ⟨sofar, marked⟩ inside undone
    obtain ⟨record, found⟩ := exists_get?_of_lt inside
    obtain ⟨name, final, valid⟩ := nameable.valid record (mem_records_of_get? found)
    obtain ⟨after, registered, further⟩ := sofar.call nameable found undone
    have here := sofar.get?_of_not_done found undone
    obtain ⟨succeeded, same⟩ := nameType_of_registerName here final valid registered
    refine ⟨succeeded, ?_⟩
    simp only [same]
    exact ⟨further, marked.call nameable.settled.apart further found⟩

/-- Naming succeeds if and only if no type waits for its own name, be it through others. Each type
is then named, and in a later batch than all types that it waits for.
Witness: the calls follow the waits, and a call fails only where a name that it waits for is
missing.
-/
theorem run_named_iff_acyclic (nameable : progress.registry.Nameable plan.options.naming)
    : let result := Schedule.run .named plan.nameType progress
      let waits := progress.registry.NameWaits plan.options.naming
      (result.1.success = true ↔ ∀ slot, ¬Relation.TransGen waits slot slot)
      ∧ (result.1.success = true
        → ∀ slot,
            slot < progress.registry.size
            → result.2.registry.NamedAt slot ∧ ∃ batch ∈ result.1.batches, slot ∈ batch)
      ∧ ∀ k batch,
          result.1.batches[k]? = some batch
          → ∀ slot ∈ batch,
              ∀ target,
                waits slot target → ∃ earlier ∈ result.1.batches.take k, target ∈ earlier := by
  intro result waits
  obtain ⟨success_iff, all, earlier, processed, final, ⟨sofar, -⟩, same⟩ :=
    (nameType_follows nameable).run rfl ⟨nameable.namedSoFar, marked_nil progress.registry⟩
  refine ⟨success_iff, ?_, earlier⟩
  intro succeeded slot inside
  obtain ⟨batch, formed, member⟩ := all succeeded slot inside
  refine ⟨?_, batch, formed, member⟩
  have isDone : slot ∈ result.1.batches.flatten := List.mem_flatten.mpr ⟨batch, formed, member⟩
  obtain ⟨record, found⟩ := exists_get?_of_lt inside
  obtain ⟨name, isFinal, valid⟩ := nameable.valid record (mem_records_of_get? found)
  refine ⟨record.named plan.options.naming, name, ?_, TypeRecord.name_named isFinal, valid, ?_⟩
  · rw [same]
    exact sofar.get?_of_done found isDone
  · intro key keyed
    rw [same]
    exact (sofar.byName key slot).mpr ⟨isDone, record, found, keyed⟩

theorem calendar_named
    : let progress := Calendar.progress
      let naming := Calendar.plan.options.naming
      let result := Schedule.run .named Calendar.plan.nameType progress
      progress.registry.Nameable naming
      ∧ result.1.batches = [[2], [1], [0]]
      ∧ result.1.success = true
      ∧ (∀ slot, ¬Relation.TransGen (progress.registry.NameWaits naming) slot slot)
      ∧ result.2.registry.NamedAt 0
      ∧ progress.registry.locate (.named "Day" .output) = none
      ∧ progress.registry.NameWaits naming 0 1
      ∧ ∃ earlier ∈ result.1.batches.take 2, 1 ∈ earlier := by
  intro progress naming result
  have nameable : progress.registry.Nameable naming := Calendar.nameable
  have formed : result.1.batches = [[2], [1], [0]] := by
    simp only [result, Schedule.run_batches]
    cbv
  have succeeded : result.1.success = true := by
    simp only [result]
    cbv
  obtain ⟨success_iff, all, inOrder⟩ := run_named_iff_acyclic nameable
  have nowhere : progress.registry.locate (.named "Day" .output) = none := by decide
  have waits : progress.registry.NameWaits naming 0 1 := by
    refine ⟨_, rfl, .named "Day" .output, by decide, Or.inr ⟨nowhere, "Day", rfl, ?_⟩⟩
    exact ⟨Calendar.day, rfl, rfl, by cbv⟩
  have last : result.1.batches[2]? = some [0] := by rw [formed]; rfl
  have earlier := inOrder 2 [0] last 0 (by simp) 1 waits
  have named := (all succeeded 0 (by decide)).1
  exact ⟨nameable, formed, succeeded, success_iff.mp succeeded, named, nowhere, waits, earlier⟩

end Plan
end SchemaGraph
