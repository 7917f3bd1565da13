import SchemaGraph.Proofs.Construction.Naming
import SchemaGraph.Proofs.Registry.Standing
import SchemaGraph.Proofs.Schedule.Blocking

/-! Types that are to have the same name.
Each type claims the key of its name when its turn comes. The first one keeps it, and each later one
is reported with the first one's identity. All of this follows from the types as they were before
the run and the order of their turns, since naming a type changes no other type.
-/

namespace SchemaGraph

namespace Registry

variable {naming : Naming} {registry : Registry} {order done rest : List Slot} {slot : Slot}
  {record : TypeRecord} {key name : String}

/-- The key that a type claims: its name, be it explicit or derived, and that of a directive behind
an `@`. Without a valid name a type claims none, and neither does an extension.
-/
def claimedKey (naming : Naming) (record : TypeRecord) : Option String :=
  (record.finalName naming).bind fun name =>
    if Naming.isValidName name && !record.isExtension then
      some (if record.isDirective then "@" ++ name else name)
    else
      none

/-- The key that the type in the slot claims. -/
def claim (registry : Registry) (naming : Naming) (slot : Slot) : Option String :=
  (registry.get? slot).bind (claimedKey naming)

/-- The first of the slots whose type claims the key. -/
def firstClaimant (registry : Registry) (naming : Naming) (order : List Slot) (key : String)
    : Option Slot :=
  order.find? fun slot => registry.claim naming slot = some key

/-- The error for a type whose key another one claims before it. -/
def duplicateOf (registry : Registry) (naming : Naming) (order : List Slot) (slot : Slot)
    : Option SchemaError := do
  let record ← registry.get? slot
  let name ← record.finalName naming
  let key ← claimedKey naming record
  let first ← registry.firstClaimant naming order key
  let owner ← registry.get? first
  if first = slot then none else some (Problem.nameTaken name owner.definition.id.name).toError

-----------------------------------------------------------------------------------------
-- Claims
-----------------------------------------------------------------------------------------

/-- Extensions are named like their bases and claim no name. -/
theorem claimedKey_of_isExtension (extension : record.isExtension = true)
    : claimedKey naming record = none := by
  simp [claimedKey, extension]

/-- A type whose name would not be valid claims none. -/
theorem claimedKey_of_invalid
    (invalid
      : ∀ name,
          record.definition.chooseName naming = .ok name → Naming.isValidName name = false)
    : claimedKey naming record = none := by
  rw [claimedKey, Option.bind_eq_none_iff]
  intro name final
  simp [invalid name (TypeRecord.finalName_eq_some_iff.mp final)]

/-- Under its name, a type has the key that it claims, provided that the name is a valid one. -/
theorem finalKey_eq_claimedKey (final : record.finalName naming = some name)
    (valid : Naming.isValidName name = true)
    : finalKey naming record = claimedKey naming record := by
  have named : record.isNamedType = (!record.isDirective && !record.isExtension) := rfl
  rw [finalKey_eq final, claimedKey, final, Option.bind_some, valid, Bool.true_and, named]
  cases extension : record.isExtension with
  | false => cases record.isDirective <;> rfl
  | true =>
      have directive : record.isDirective = false := by
        rw [TypeRecord.isExtension] at extension
        simp [TypeRecord.isDirective, Definition.isDirective_eq, extension]
      simp [directive]

/-- Who comes first in an order comes first in a longer one. -/
theorem firstClaimant_append (key : String)
    : registry.firstClaimant naming (done ++ rest) key
      = (registry.firstClaimant naming done key).or (registry.firstClaimant naming rest key) :=
  List.find?_append

/-- A type that is behind all others claims what none of them does. -/
theorem firstClaimant_concat (key : String)
    : registry.firstClaimant naming (done ++ [slot]) key
      = (registry.firstClaimant naming done key).or
          (if registry.claim naming slot = some key then some slot else none) := by
  rw [firstClaimant_append]
  congr 1
  by_cases own : registry.claim naming slot = some key <;> simp [firstClaimant, own]

/-- The first claimant of a key is in the order and claims it. -/
theorem firstClaimant_some {first : Slot}
    (leads : registry.firstClaimant naming order key = some first)
    : first ∈ order ∧ ∃ owner, registry.get? first = some owner ∧ claimedKey naming owner = some key
    := by
  have claims : registry.claim naming first = some key := by simpa using List.find?_some leads
  exact ⟨List.mem_of_find?_eq_some leads, Option.bind_eq_some_iff.mp claims⟩

/-- A type that claims no name takes none from another one. -/
theorem duplicateOf_of_unclaimed (found : registry.get? slot = some record)
    (none : claimedKey naming record = .none)
    : registry.duplicateOf naming order slot = .none := by
  simp [duplicateOf, found, none]

/-- The first claimant of a name may have it. -/
theorem duplicateOf_of_first (found : registry.get? slot = some record)
    (claims : claimedKey naming record = some key)
    (first : registry.firstClaimant naming order key = some slot)
    : registry.duplicateOf naming order slot = none := by
  simp [duplicateOf, found, claims, first]

/-- A later claimant is reported, with the name and the type that has it. -/
theorem duplicateOf_of_later {first : Slot} {owner : TypeRecord}
    (found : registry.get? slot = some record) (final : record.finalName naming = some name)
    (claims : claimedKey naming record = some key)
    (leads : registry.firstClaimant naming order key = some first)
    (foundOwner : registry.get? first = some owner) (other : first ≠ slot)
    : registry.duplicateOf naming order slot
      = some (Problem.nameTaken name owner.definition.id.name).toError := by
  simp [duplicateOf, found, final, claims, leads, foundOwner, other]

end Registry

def SchemaError.isDuplicate (error : SchemaError) : Bool :=
  error.code = .duplicateName

namespace Plan

open Registry Schedule

variable {plan : Plan} {start progress : Progress} {order done rest : List Slot} {slot : Slot}
  {record : TypeRecord} {name : String}

/-- The progress when the turn of the slots has been, out of the whole order of turns. -/
structure ClaimedSoFar (plan : Plan) (start : Progress) (order done : List Slot)
    (progress : Progress)
    : Prop where
  anchored : progress.registry.Anchored
  pending : ∀ slot, slot ∉ done → progress.registry.get? slot = start.registry.get? slot
  ids
    : ∀ slot,
        (progress.registry.get? slot).map (fun record => record.definition.id)
        = (start.registry.get? slot).map fun record => record.definition.id
  holders
    : ∀ key,
        Entries.get? progress.registry.byName key
        = start.registry.firstClaimant plan.options.naming done key
  reports
    : ∃ reported,
        progress.errors = start.errors ++ reported
        ∧ reported.filter SchemaError.isDuplicate
          = done.filterMap (start.registry.duplicateOf plan.options.naming order)

/-- Before the first call, no name is registered. -/
theorem claimedSoFar_nil (plan : Plan) (anchored : start.registry.Anchored)
    (unnamed : start.registry.byName = []) (order : List Slot)
    : ClaimedSoFar plan start order [] start where
  anchored
  pending _ _ := rfl
  ids _ := rfl
  holders key := by
    rw [unnamed]
    rfl
  reports := ⟨[], by simp, rfl⟩

/-- What one turn comes to: the type claims its key, and is reported as a duplicate if it is one.
Witness: the first claimant in a longer order is the one in the shorter order, or else the slot
itself.
-/
theorem ClaimedSoFar.step (sofar : ClaimedSoFar plan start order done progress)
    {after : Progress} (found : progress.registry.get? slot = some record)
    (anchored : after.registry.Anchored)
    (others : ∀ other, slot ≠ other → after.registry.get? other = progress.registry.get? other)
    (same
      : ∃ later,
          after.registry.get? slot = some later ∧ later.definition.id = record.definition.id)
    (names
      : ∀ key,
          Entries.get? after.registry.byName key
          = (Entries.get? progress.registry.byName key).or
              (if start.registry.claim plan.options.naming slot = some key then some slot
                else none))
    (reports
      : ∃ reported,
          after.errors = progress.errors ++ reported
          ∧ reported.filter SchemaError.isDuplicate
            = (start.registry.duplicateOf plan.options.naming order slot).toList)
    : ClaimedSoFar plan start order (done ++ [slot]) after where
  anchored
  pending other undone := by
    rw [List.mem_append, List.mem_singleton, not_or] at undone
    rw [others other (Ne.symm undone.2), sofar.pending other undone.1]
  ids other := by
    rw [← sofar.ids]
    by_cases own : slot = other
    · subst own
      obtain ⟨later, there, same⟩ := same
      rw [there, found, Option.map_some, Option.map_some, same]
    · rw [others other own]
  holders key := by rw [names, sofar.holders, firstClaimant_concat]
  reports := by
    obtain ⟨reported, errors, duplicates⟩ := reports
    obtain ⟨earlier, before, sofar⟩ := sofar.reports
    refine ⟨earlier ++ reported, by rw [errors, before, List.append_assoc], ?_⟩
    rw [List.filter_append, sofar, duplicates, List.filterMap_append]
    cases claimed : start.registry.duplicateOf plan.options.naming order slot <;>
      simp [claimed]

/-- The registry once the type is stored under the name that it is to have. -/
def storeNamed (plan : Plan) (registry : Registry) (record : TypeRecord) : Registry :=
  (registry.register (record.named plan.options.naming)).1

/-- A type that is named is stored over itself. -/
theorem stores_storeNamed (plan : Plan) {registry : Registry} (anchored : registry.Anchored)
    (found : registry.get? slot = some record)
    : Stores registry slot (record.named plan.options.naming) (plan.storeNamed registry record) :=
  anchored.stores found TypeRecord.references_named

/-- Its name is not registered by that. -/
theorem byName_storeNamed (plan : Plan) (registry : Registry) (record : TypeRecord)
    : (plan.storeNamed registry record).byName = registry.byName :=
  byName_register ..

/-- A type that is stored under its name claims its key, whether or not that is registered.
Witness: the key that would be registered is the one that the type claims, and it is held where it
was claimed before.
-/
theorem ClaimedSoFar.store (sofar : ClaimedSoFar plan start order done progress)
    {after : Progress} (here : progress.registry.get? slot = some record)
    (found : start.registry.get? slot = some record)
    (final : record.finalName plan.options.naming = some name)
    (valid : Naming.isValidName name = true)
    (outcome
      : let stored := plan.storeNamed progress.registry record
        (∃ holder, stored.registerName slot = .error holder ∧ after.registry = stored)
        ∨ stored.registerName slot = .ok after.registry)
    (reports
      : ∃ reported,
          after.errors = progress.errors ++ reported
          ∧ reported.filter SchemaError.isDuplicate
            = (start.registry.duplicateOf plan.options.naming order slot).toList)
    : ClaimedSoFar plan start order (done ++ [slot]) after := by
  have stores := stores_storeNamed plan sofar.anchored here
  have anchored : (plan.storeNamed progress.registry record).Anchored :=
    sofar.anchored.register here TypeRecord.references_named
  have claims
      : ((plan.storeNamed progress.registry record).get? slot).bind nameKey
        = start.registry.claim plan.options.naming slot := by
    rw [stores.self, claim, found, Option.bind_some, Option.bind_some]
    exact finalKey_eq_claimedKey final valid
  have kept {other : Slot}
      : after.registry.get? other = (plan.storeNamed progress.registry record).get? other := by
    rcases outcome with ⟨-, -, same⟩ | done
    · rw [same]
    · exact get?_registerName done other
  refine sofar.step here ?_ ?_ ⟨_, kept.trans stores.self, TypeRecord.id_named⟩ ?_ reports
  · rcases outcome with ⟨-, -, same⟩ | done
    · exact same ▸ anchored
    · exact anchored.unmoved (unmoved_registerName done)
  · exact fun other different => kept.trans (stores.others other different)
  · intro key
    rw [← claims, ← byName_storeNamed plan progress.registry record]
    rcases outcome with ⟨holder, taken, same⟩ | done
    · obtain ⟨own, keyed, held, -⟩ := exists_key_of_error taken
      rw [same, keyed]
      by_cases equal : own = key
      · subst equal
        rw [byName_storeNamed] at held ⊢
        simp [held]
      · simp [equal]
    · exact get?_byName_of_ok done key

/-- Where the key belongs to another type, that type has claimed it first, and is the one that the
error names.
Witness: who holds a key is its first claimant, by the invariant, and its identity never changes.
-/
theorem ClaimedSoFar.duplicateOf_of_error
    (sofar : ClaimedSoFar plan start (done ++ slot :: rest) done progress)
    (here : progress.registry.get? slot = some record)
    (found : start.registry.get? slot = some record)
    (final : record.finalName plan.options.naming = some name)
    (valid : Naming.isValidName name = true) {holder : Slot}
    (taken : (plan.storeNamed progress.registry record).registerName slot = .error holder)
    : start.registry.duplicateOf plan.options.naming (done ++ slot :: rest) slot
      = some (duplicateName (plan.storeNamed progress.registry record) slot holder) := by
  have stores := stores_storeNamed plan sofar.anchored here
  obtain ⟨key, keyed, held, different⟩ := exists_key_of_error taken
  have claims : claimedKey plan.options.naming record = some key := by
    rw [← finalKey_eq_claimedKey final valid, ← keyed, stores.self, Option.bind_some]
    rfl
  have leads
      : start.registry.firstClaimant plan.options.naming (done ++ slot :: rest) key
        = some holder := by
    rw [byName_storeNamed, sofar.holders] at held
    rw [firstClaimant_append, held, Option.some_or]
  obtain ⟨-, owner, foundOwner, -⟩ := firstClaimant_some leads
  have id
      : ((plan.storeNamed progress.registry record).get? holder).map
          (fun record => record.definition.id)
        = some owner.definition.id := by
    rw [stores.others holder (Ne.symm different), sofar.ids, foundOwner, Option.map_some]
  obtain ⟨later, there, same⟩ := Option.map_eq_some_iff.mp id
  rw [duplicateOf_of_later found final claims leads foundOwner different]
  simp [duplicateName, stores.self, there, same, TypeRecord.displayName,
    TypeRecord.name_named final]

/-- Where the key is registered, the type is the first one that claims it.
Witness: the key leads to the type then, and the holder of a key is its first claimant.
-/
theorem ClaimedSoFar.duplicateOf_of_ok
    (sofar : ClaimedSoFar plan start (done ++ slot :: rest) done progress)
    (here : progress.registry.get? slot = some record)
    (found : start.registry.get? slot = some record)
    (final : record.finalName plan.options.naming = some name)
    (valid : Naming.isValidName name = true) {after : Registry}
    (registered : (plan.storeNamed progress.registry record).registerName slot = .ok after)
    : start.registry.duplicateOf plan.options.naming (done ++ slot :: rest) slot = none := by
  have stores := stores_storeNamed plan sofar.anchored here
  cases claims : claimedKey plan.options.naming record with
  | none => exact duplicateOf_of_unclaimed found claims
  | some key =>
      have keyed : nameKey (record.named plan.options.naming) = some key :=
        (finalKey_eq_claimedKey final valid).trans claims
      have own : start.registry.claim plan.options.naming slot = some key := by
        simp [claim, found, claims]
      have first
          : start.registry.firstClaimant plan.options.naming (done ++ [slot]) key = some slot := by
        have leads := get?_byName_of_ok registered key
        rw [get?_byName_registerName registered stores.self keyed, stores.self, Option.bind_some,
          keyed, byName_storeNamed, sofar.holders] at leads
        rw [firstClaimant_concat, own]
        exact leads.symm
      apply duplicateOf_of_first found claims
      rw [List.append_cons, firstClaimant_append, first, Option.some_or]

/-- The turn of a type that has not been before.
Witness: either no name is stored, or it is stored and registered, or it is stored and belongs to
another type.
-/
theorem ClaimedSoFar.nameType
    (sofar : ClaimedSoFar plan start (done ++ slot :: rest) done progress)
    (found : start.registry.get? slot = some record) (undone : slot ∉ done)
    : ClaimedSoFar plan start (done ++ slot :: rest) (done ++ [slot])
        (plan.nameType slot progress).2 := by
  have here : progress.registry.get? slot = some record :=
    (sofar.pending slot undone).trans found
  rcases plan.nameType_outcome here with
    ⟨problem, code, invalid, -, same, errors⟩ | ⟨name, chosen, valid, outcome⟩
  · have unclaimed : claimedKey plan.options.naming record = none := claimedKey_of_invalid invalid
    refine sofar.step here (same ▸ sofar.anchored) (fun other _ => by rw [same])
      ⟨record, by rw [same, here], rfl⟩ ?_ ⟨_, errors, ?_⟩
    · intro key
      simp [same, claim, found, unclaimed]
    · rw [duplicateOf_of_unclaimed found unclaimed]
      simp [SchemaError.isDuplicate, code_toError, code]
  · have final := TypeRecord.finalName_eq_some_iff.mpr chosen
    dsimp only at outcome
    rw [← TypeRecord.named_eq final] at outcome
    rcases outcome with ⟨holder, taken, -, same, errors⟩ | ⟨-, registered, errors⟩
    · refine sofar.store here found final valid (Or.inl ⟨holder, taken, same⟩) ⟨_, errors, ?_⟩
      have reported := sofar.duplicateOf_of_error here found final valid taken
      rw [storeNamed] at reported
      have code {registry : Registry}
          : (duplicateName registry slot holder).code = .duplicateName :=
        code_toError _
      simp [reported, SchemaError.isDuplicate, code]
    · refine sofar.store here found final valid (Or.inr registered) ⟨[], by simp [errors], ?_⟩
      simp [sofar.duplicateOf_of_ok here found final valid registered]

/-- The invariant holds behind all calls, by induction on the slots that remain. -/
theorem ClaimedSoFar.afterAllCalls (sofar : ClaimedSoFar plan start (done ++ rest) done progress)
    (inside : ∀ slot ∈ rest, slot < start.registry.size) (once : (done ++ rest).Nodup)
    : ClaimedSoFar plan start (done ++ rest) (done ++ rest)
        (afterCalls plan.nameType rest progress) := by
  induction rest generalizing done progress with
  | nil => simpa using sofar
  | cons slot rest ih =>
      obtain ⟨record, found⟩ := exists_get?_of_lt (inside slot List.mem_cons_self)
      have undone : slot ∉ done := by
        intro member
        exact List.disjoint_of_nodup_append once member List.mem_cons_self
      have step := sofar.nameType found undone
      rw [List.append_cons] at once step ⊢
      exact ih step (fun other member => inside other (List.mem_cons_of_mem slot member)) once

/-- Deadlocks are reported by other errors than names that are taken. -/
theorem filter_isDuplicate_deadlockErrors (registry : Registry) (phase : Phase)
    (processed : List Reference) (stuck : List Slot)
    : (deadlockErrors registry phase processed stuck).filter SchemaError.isDuplicate = [] := by
  rw [List.filter_eq_nil_iff]
  intro error member
  obtain ⟨slot, -, reported⟩ := List.mem_filterMap.mp member
  obtain ⟨record, -, rfl⟩ := Option.map_eq_some_iff.mp reported
  simp [SchemaError.isDuplicate, stuckProblem, code_toError, Problem.code]

/-- Of the types whose turn comes in a run, the first one that claims a key holds it at the end, and
each other one that claims it is reported once, with the identity of the first. Extensions claim
nothing.
Witness: the invariant of the calls, for the order in which the batches run.
-/
theorem naming_holders (plan : Plan) {progress : Progress}
    (anchored : progress.registry.Anchored) (unnamed : progress.registry.byName = [])
    : let naming := plan.options.naming
      let result := Schedule.run .named plan.nameType progress
      let order := result.1.batches.flatten
      order.Nodup
      ∧ (∀ key,
          Entries.get? result.2.registry.byName key
          = progress.registry.firstClaimant naming order key)
      ∧ (∃ reported,
          result.2.errors = progress.errors ++ reported
          ∧ reported.filter SchemaError.isDuplicate
            = order.filterMap (progress.registry.duplicateOf naming order))
      ∧ ∀ slot record,
          progress.registry.get? slot = some record
          → record.isExtension = true
          → progress.registry.duplicateOf naming order slot = none
            ∧ ∀ key, Entries.get? result.2.registry.byName key ≠ some slot := by
  intro naming result order
  have once : order.Nodup :=
    (List.nodup_append.mp
      ((run_perm .named plan.nameType progress).nodup_iff.mpr List.nodup_range)).1
  have inside (slot : Slot) (member : slot ∈ order) : slot < progress.registry.size :=
    lt_size_of_mem_run .named plan.nameType progress (List.mem_append_left _ member)
  have all : ClaimedSoFar plan progress order order (afterCalls plan.nameType order progress) :=
    (claimedSoFar_nil plan anchored unnamed ([] ++ order)).afterAllCalls inside once
  have holders (key : String)
      : Entries.get? result.2.registry.byName key
        = progress.registry.firstClaimant naming order key := by
    rw [run_registry]
    exact all.holders key
  refine ⟨once, holders, ?_, ?_⟩
  · obtain ⟨reported, errors, duplicates⟩ := all.reports
    have whole := congrArg Workspace.errors (run_workspace .named plan.nameType progress)
    refine ⟨_, whole.trans ((congrArg (fun sofar => sofar ++ _) errors).trans
      (List.append_assoc ..)), ?_⟩
    rw [List.filter_append, duplicates]
    split
    · rw [filter_isDuplicate_deadlockErrors, List.append_nil]
    · exact List.append_nil _
  · intro slot record found extension
    have unclaimed : claimedKey naming record = none := claimedKey_of_isExtension extension
    refine ⟨duplicateOf_of_unclaimed found unclaimed, ?_⟩
    intro key holds
    obtain ⟨-, owner, there, claims⟩ := firstClaimant_some ((holders key).symm.trans holds)
    cases Option.some.inj (found.symm.trans there)
    cases unclaimed.symm.trans claims

end Plan

namespace Festivals

def scalar (id : String) (name : Option String) (host : String) : Definition :=
  .scalar ⟨⟨⟨id⟩, name, none, .generic host []⟩⟩

def tag : Definition :=
  .directive ⟨⟨⟨"Tag"⟩, some "Event", none, .generic "Tag" []⟩, [], .empty, false⟩

/-- All four are to have the same name: the first one gets it from its host type, and the second one
is an extension.
-/
def definitions : List Definition :=
  [scalar "EventType" none "Event", .extension (scalar "More" (some "Event") "More"), tag,
    scalar "Fair" (some "Event") "Fair"]

def progress : Progress :=
  { Progress.start with
    registry :=
      Registry.empty.applyAll <|
        definitions.map fun definition =>
          .register (TypeRecord.new definition [] [] .nothing) }

end Festivals

namespace Plan

theorem festivals_holders
    : let progress := Festivals.progress
      let result := Schedule.run .named Calendar.plan.nameType progress
      progress.registry.Anchored
      ∧ progress.registry.byName = []
      ∧ result.1.batches = [[0, 1, 2, 3]]
      ∧ Entries.get? result.2.registry.byName "Event" = some 0
      ∧ Entries.get? result.2.registry.byName "@Event" = some 2
      ∧ ∃ reported,
          result.2.errors = progress.errors ++ reported
          ∧ reported.filter SchemaError.isDuplicate
            = [(Problem.nameTaken "Event" "EventType").toError] := by
  intro progress result
  have anchored : progress.registry.Anchored :=
    ⟨by decide +kernel, by decide +kernel, by decide +kernel⟩
  have formed : result.1.batches = [[0, 1, 2, 3]] :=
    Schedule.run_batches_of_ready (by decide +kernel) (by decide +kernel)
  obtain ⟨-, holders, ⟨reported, errors, duplicates⟩, -⟩ :=
    naming_holders Calendar.plan anchored rfl
  rw [formed] at holders duplicates
  exact ⟨anchored, rfl, formed, (holders "Event").trans (by decide +kernel),
    (holders "@Event").trans (by decide +kernel), reported, errors,
    duplicates.trans (by decide +kernel)⟩

end Plan
end SchemaGraph
