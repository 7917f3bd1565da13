import SchemaGraph.Linking
import SchemaGraph.Proofs.Construction.Integrity
import SchemaGraph.Proofs.Registry.Handles

/-! Where the links to implicit interfaces lead.
Linking gives every object with a concrete host type a dependency on each interface that the host
type can stand for, and changes no other type. The link names the host type of the interface outside
of all scopes; so it leads to the first type that is found by that host type there.
-/

namespace SchemaGraph

open Registry

variable {registry : Registry} {sofar : Registry × Nat} {inspector : Inspector}
  {interfaces : List RuntimeType} {slot other : Slot} {record object interface : TypeRecord}

/-- The type with its links, if it is an object with a concrete host type. -/
def TypeRecord.linked (inspector : Inspector) (interfaces : List RuntimeType) (record : TypeRecord)
    : TypeRecord :=
  if isConcrete .object record then
    record.addDependencies (interfaceLinks inspector interfaces record.runtime)
  else record

theorem TypeRecord.standing_linked (inspector : Inspector) (interfaces : List RuntimeType)
    (record : TypeRecord)
    : (record.linked inspector interfaces).standing = record.standing := by
  unfold TypeRecord.linked
  split <;> rfl

/-- The dependency on the interfaces with the host type. -/
def interfaceLink (host : RuntimeType) : Dependency :=
  ⟨.runtime host .output, .completed⟩

theorem agrees_interfaceLink_iff {host other : RuntimeType}
    : (interfaceLink host).agrees (interfaceLink other) = true ↔ host = other := by
  simp [interfaceLink, Dependency.agrees, Reference.agrees_iff, Reference.runtime,
    Position.compatible]

namespace Registry

-----------------------------------------------------------------------------------------
-- What linking does to each type
-----------------------------------------------------------------------------------------

/-- Linking an object adds its links in its slot. Nothing else changes. -/
theorem linkObject_get? (anchored : sofar.1.Anchored) (inspector : Inspector)
    (interfaces : List RuntimeType) (target : Slot × RuntimeType)
    : let after := (linkObject inspector interfaces sofar target).1
      after.Anchored
      ∧ after.get? target.1
        = (sofar.1.get? target.1).map
            (TypeRecord.addDependencies · (interfaceLinks inspector interfaces target.2))
      ∧ ∀ other, other ≠ target.1 → after.get? other = sofar.1.get? other := by
  unfold linkObject
  cases found : sofar.1.get? target.1 with
  | none => exact ⟨anchored, found, fun _ _ => rfl⟩
  | some record =>
      cases links : interfaceLinks inspector interfaces target.2 with
      | nil => exact ⟨anchored, found, fun _ _ => rfl⟩
      | cons link rest =>
          let linked := record.addDependencies (link :: rest)
          have stores : Stores sofar.1 target.1 linked (sofar.1.register linked).1 :=
            anchored.stores found rfl
          exact ⟨anchored.register found rfl, stores.self,
            fun other different => stores.others other different.symm⟩

/-- Each object has its links in the end, and every other slot holds what it held.
Witness: induction on the objects, no two of which share a slot.
-/
theorem linkObjects_get? (anchored : sofar.1.Anchored) (inspector : Inspector)
    (interfaces : List RuntimeType) {targets : List (Slot × RuntimeType)}
    (nodup : (targets.map Prod.fst).Nodup)
    : let after := (targets.foldl (linkObject inspector interfaces) sofar).1
      after.Anchored
      ∧ (∀ target ∈ targets,
          after.get? target.1
          = (sofar.1.get? target.1).map
              (TypeRecord.addDependencies · (interfaceLinks inspector interfaces target.2)))
      ∧ ∀ other, other ∉ targets.map Prod.fst → after.get? other = sofar.1.get? other := by
  induction targets generalizing sofar with
  | nil => exact ⟨anchored, fun _ member => absurd member List.not_mem_nil, fun _ _ => rfl⟩
  | cons first rest ih =>
      obtain ⟨fresh, further⟩ := List.nodup_cons.mp nodup
      obtain ⟨next, own, others⟩ := linkObject_get? anchored inspector interfaces first
      obtain ⟨last, each, untouched⟩ := ih next further
      refine ⟨last, ?_, ?_⟩
      · intro target member
        rcases List.mem_cons.mp member with rfl | later
        · exact (untouched target.1 fresh).trans own
        · have different : target.1 ≠ first.1 := fun same =>
            fresh (same ▸ List.mem_map_of_mem later)
          rw [← others target.1 different]
          exact each target later
      · intro other absent
        rw [List.map_cons, List.mem_cons, not_or] at absent
        exact (untouched other absent.2).trans (others other absent.1)

theorem mem_objectRuntimes {type : RuntimeType}
    : (slot, type) ∈ registry.objectRuntimes
      ↔ ∃ record,
          registry.get? slot = some record
          ∧ isConcrete .object record = true
          ∧ record.runtime = type := by
  simp only [objectRuntimes, List.mem_map, List.mem_filter, Prod.exists, Prod.mk.injEq,
    List.mem_zipIdx_iff_getElem?, get?]
  constructor
  · rintro ⟨record, here, ⟨found, concrete⟩, rfl, rfl⟩
    exact ⟨record, found, concrete, rfl⟩
  · rintro ⟨record, found, concrete, rfl⟩
    exact ⟨record, slot, ⟨found, concrete⟩, rfl, rfl⟩

/-- The objects come in the order of their slots. -/
theorem ascending_objectRuntimes (registry : Registry)
    : (registry.objectRuntimes.map Prod.fst).Pairwise (· < ·) := by
  rw [objectRuntimes, List.map_map]
  have slots : (registry.records.zipIdx.map Prod.snd).Pairwise (· < ·) := by
    rw [List.zipIdx_map_snd]
    exact List.pairwise_lt_range'
  exact slots.sublist (List.filter_sublist.map Prod.snd)

theorem nodup_objectRuntimes (registry : Registry)
    : (registry.objectRuntimes.map Prod.fst).Nodup :=
  registry.ascending_objectRuntimes.imp Nat.ne_of_lt

/-- Every slot holds the type that it held, with its links.
Witness: a slot is that of an object, which has its turn, or its type has no links.
-/
theorem linkInterfaces_get? (anchored : registry.Anchored) (inspector : Inspector) (slot : Slot)
    : (registry.linkInterfaces inspector).1.get? slot
      = (registry.get? slot).map (TypeRecord.linked inspector registry.interfaceRuntimes) := by
  obtain ⟨-, each, untouched⟩ :=
    @linkObjects_get? (registry, 0) anchored inspector registry.interfaceRuntimes
      registry.objectRuntimes registry.nodup_objectRuntimes
  rw [show (registry.linkInterfaces inspector).1
      = (registry.objectRuntimes.foldl (linkObject inspector registry.interfaceRuntimes)
          (registry, 0)).1.rebuild from rfl, get?_rebuild]
  by_cases target : ∃ type, (slot, type) ∈ registry.objectRuntimes
  · obtain ⟨type, member⟩ := target
    obtain ⟨record, found, concrete, rfl⟩ := mem_objectRuntimes.mp member
    rw [each _ member]
    simp [found, TypeRecord.linked, concrete]
  · have absent : slot ∉ registry.objectRuntimes.map Prod.fst := by
      intro member
      obtain ⟨⟨here, type⟩, listed, rfl⟩ := List.mem_map.mp member
      exact target ⟨type, listed⟩
    rw [untouched slot absent]
    cases found : registry.get? slot with
    | none => rfl
    | some record =>
        have plain : isConcrete .object record = false := by
          rw [Bool.eq_false_iff]
          exact fun concrete =>
            target ⟨record.runtime, mem_objectRuntimes.mpr ⟨record, found, concrete, rfl⟩⟩
        simp [TypeRecord.linked, plain]

-----------------------------------------------------------------------------------------
-- Where the links lead
-----------------------------------------------------------------------------------------

/-- An interface with a concrete host type is found by it in the scope of its discovery. -/
theorem host_mem_handles (concrete : isConcrete .interface interface = true)
    : ⟨.runtime interface.runtime, .output, interface.discovered.scope⟩ ∈ interface.handles := by
  simp only [isConcrete, Bool.and_eq_true, Bool.not_eq_true', decide_eq_true_eq] at concrete
  obtain ⟨⟨base, hosted⟩, kind⟩ := concrete
  have named : interface.isNamedType = true :=
    TypeRecord.isNamedType_of_kind (by simp [kind]) base
  have entered
      : ⟨interface.runtime, .output, interface.discovered.scope, 0⟩
        ∈ runtimeEntries 0 interface := by
    simp [runtimeEntries, named, hosted, kind, Kind.position]
  exact mem_handles_of_entry entered

theorem mem_interfaceLinks (found : registry.get? other = some interface)
    (concrete : isConcrete .interface interface = true) {type : RuntimeType}
    (different : interface.runtime ≠ type)
    (accepts : inspector.accepts interface.runtime type = true)
    : ⟨.runtime interface.runtime .output, .completed⟩
      ∈ interfaceLinks inspector registry.interfaceRuntimes type := by
  have listed : interface.runtime ∈ registry.interfaceRuntimes :=
    List.mem_map_of_mem (List.mem_filter.mpr ⟨mem_records_of_get? found, concrete⟩)
  refine List.mem_map.mpr ⟨interface.runtime, List.mem_filter.mpr ⟨listed, ?_⟩, rfl⟩
  simp [different, accepts]

/-- A type that is given links has each of them, unless it had a dependency that agrees. -/
theorem exists_of_mem_interfaceLinks {type : RuntimeType} {link : Dependency}
    (member : link ∈ interfaceLinks inspector interfaces type) (record : TypeRecord)
    : ∃ dependency
        ∈ (record.addDependencies (interfaceLinks inspector interfaces type)).dependencies,
        dependency.agrees link = true
        ∧ (dependency = link ∨ dependency ∈ record.dependencies) := by
  have given : link.isIn
      (Dependency.addAll record.dependencies (interfaceLinks inspector interfaces type)) = true :=
    Dependency.absorbing_addTo.gains_foldl record.dependencies member
  obtain ⟨dependency, held, agrees⟩ := List.any_eq_true.mp given
  refine ⟨dependency, held, agrees, ?_⟩
  rcases Dependency.mem_addAll held with old | added
  · exact .inr old
  · obtain ⟨host, -, rfl⟩ := List.mem_map.mp member
    obtain ⟨named, -, rfl⟩ := List.mem_map.mp added
    obtain rfl : named = host := agrees_interfaceLink_iff.mp agrees
    exact .inl rfl

/-- The host type of an interface without a scope is led to the interface, unless a type with an
earlier slot is found by it, too.
Witness: links change no handle, and rebuilt indexes lead a host type to the first slot that has one
for it.
-/
theorem canonical_linkInterfaces (anchored : registry.Anchored) (inspector : Inspector)
    (found : registry.get? slot = some interface)
    (concrete : isConcrete .interface interface = true)
    (unscoped : interface.discovered.scope = none) {reference : Reference}
    (agrees : reference.agrees (.runtime interface.runtime .output) = true)
    (first
      : ∀ earlier < slot,
          ∀ record ∈ registry.get? earlier, reference.isIn record.handles = false)
    : (registry.linkInterfaces inspector).1.canonical reference = .ok interface.primary := by
  let linked := (registry.linkInterfaces inspector).1
  let last := interface.linked inspector registry.interfaceRuntimes
  have stored := registry.linkInterfaces_get? anchored inspector
  have same : last.standing = interface.standing := TypeRecord.standing_linked _ _ _
  have here : linked.get? slot = some last := by rw [stored, found, Option.map_some]
  have holds : reference.isIn last.handles = true := by
    rw [handles_congr same]
    have own := host_mem_handles concrete
    rw [unscoped] at own
    exact Reference.isIn_iff.mpr ⟨_, own, Reference.agrees_comm _ _ ▸ agrees⟩
  have rebuilt : linked.rebuild.find reference = some slot := by
    refine find_rebuild_of_first (isKey_of_agrees agrees) here holds ?_
    intro earlier before record there
    rw [Option.mem_def, stored] at there
    obtain ⟨old, held, rfl⟩ := Option.map_eq_some_iff.mp there
    rw [handles_congr (TypeRecord.standing_linked _ _ old)]
    exact first earlier before old held
  -- Linking has rebuilt the indexes already, and the reference is one to a host type.
  have current : linked.Current := current_rebuild _
  have decides : linked.Decides reference :=
    decides_of_pinned (pinned_of_not_isKey (isKey_of_agrees agrees))
  have leads : linked.find reference = some slot :=
    (decides.find_congr (current reference)).symm.trans rebuilt
  rw [canonical, resolve, locate_of_find leads, Option.bind_some, here]
  exact congrArg Except.ok (TypeRecord.primary_congr (references_congr same))

/-- Each object waits for the completion of the host type of each interface that it can stand for,
by the link or by a dependency that it had. Where the interface has no scope, the dependency is led
to it unless a type with an earlier slot is found by it, too.
-/
theorem linkInterfaces_leads (anchored : registry.Anchored) (inspector : Inspector)
    (found : registry.get? slot = some object) (concrete : isConcrete .object object = true)
    (foundInterface : registry.get? other = some interface)
    (concreteInterface : isConcrete .interface interface = true)
    (different : interface.runtime ≠ object.runtime)
    (accepts : inspector.accepts interface.runtime object.runtime = true)
    : let linked := (registry.linkInterfaces inspector).1
      let link := Reference.runtime interface.runtime .output
      ∃ later dependency,
        linked.get? slot = some later
        ∧ dependency ∈ later.dependencies
        ∧ dependency.phase = .completed
        ∧ dependency.reference.agrees link = true
        ∧ (dependency.reference = link ∨ dependency ∈ object.dependencies)
        ∧ (interface.discovered.scope = none
          → (∀ earlier < other,
              ∀ record ∈ registry.get? earlier,
                dependency.reference.isIn record.handles = false)
          → linked.canonical dependency.reference = .ok interface.primary) := by
  intro linked link
  have listed := mem_interfaceLinks foundInterface concreteInterface different accepts
  obtain ⟨dependency, held, agrees, origin⟩ := exists_of_mem_interfaceLinks listed object
  obtain ⟨leads, phase⟩ := Bool.and_eq_true_iff.mp agrees
  have given : linked.get? slot
      = some (object.addDependencies
          (interfaceLinks inspector registry.interfaceRuntimes object.runtime)) := by
    rw [linkInterfaces_get? anchored, found, Option.map_some, TypeRecord.linked, if_pos concrete]
  exact ⟨_, dependency, given, held, of_decide_eq_true phase, leads,
    origin.imp_left (congrArg Dependency.reference),
    fun unscoped =>
      canonical_linkInterfaces anchored inspector foundInterface concreteInterface unscoped leads⟩

-----------------------------------------------------------------------------------------
-- An object and its interface
-----------------------------------------------------------------------------------------

def nodeInterface (scope : Option String) : TypeRecord :=
  TypeRecord.new
    (.interface
      {
        header := ⟨⟨"INode"⟩, none, none, .named "INode"⟩
        fields := []
        interfaces := []
        implemented := []
      })
    [] [] { Discovered.nothing with scope }

def userObject (scope : Option String) : TypeRecord :=
  TypeRecord.new
    (.object
      {
        header := ⟨⟨"User"⟩, none, none, .named "User"⟩
        fields := []
        interfaces := []
        implemented := []
        isOfType := none
        isQueryType := false
      })
    [] [] { Discovered.nothing with scope }

/-- Users are nodes. -/
def userTable : RuntimeTable :=
  RuntimeTable.empty.implement (.named "User") (.named "INode")

/-- Both types, discovered in the scope. -/
def accounts (scope : Option String) : Registry :=
  empty.applyAll [.register (nodeInterface scope), .register (userObject scope)]

theorem accounts_linked
    : (accounts none).Anchored
      ∧ ∃ later dependency,
          ((accounts none).linkInterfaces userTable.inspector).1.get? 1 = some later
          ∧ dependency ∈ later.dependencies
          ∧ dependency.phase = .completed
          ∧ ((accounts none).linkInterfaces userTable.inspector).1.canonical dependency.reference
            = .ok (.schema ⟨"INode"⟩) := by
  have anchored : (accounts none).Anchored :=
    ⟨by decide +kernel, by decide +kernel, by decide +kernel⟩
  obtain ⟨later, dependency, here, held, phase, -, -, leads⟩ :=
    @linkInterfaces_leads (accounts none) 1 0 (userObject none) (nodeInterface none) anchored
      userTable.inspector rfl (by decide +kernel) rfl (by decide +kernel) (by decide +kernel)
        (by decide +kernel)
  refine ⟨anchored, later, dependency, here, held, phase, leads rfl ?_⟩
  intro earlier before
  exact absurd before (Nat.not_lt_zero earlier)

/-- In a scope, the link leads nowhere, and the object has no other dependency on the interface. -/
theorem secluded_accounts_not_linked
    : let registry := accounts (some "admin")
      let linked := (registry.linkInterfaces userTable.inspector).1
      registry.Anchored
      ∧ registry.get? 0 = some (nodeInterface (some "admin"))
      ∧ registry.get? 1 = some (userObject (some "admin"))
      ∧ isConcrete .interface (nodeInterface (some "admin")) = true
      ∧ isConcrete .object (userObject (some "admin")) = true
      ∧ userTable.inspector.accepts (.named "INode") (.named "User") = true
      ∧ ¬∃ later ∈ linked.get? 1,
          ∃ dependency ∈ later.dependencies,
            dependency.phase = .completed
            ∧ linked.canonical dependency.reference
              = .ok (nodeInterface (some "admin")).primary := by
  intro registry linked
  have nowhere : ∀ later ∈ linked.get? 1,
      ∀ dependency ∈ later.dependencies, linked.locate dependency.reference = none := by
    decide +kernel
  refine ⟨⟨by decide +kernel, by decide +kernel, by decide +kernel⟩, rfl, rfl, by decide +kernel,
    by decide +kernel, by decide +kernel, ?_⟩
  rintro ⟨later, here, dependency, held, -, leads⟩
  rw [canonical, resolve, nowhere later here dependency held] at leads
  cases leads

end Registry
end SchemaGraph
