import SchemaGraph.Proofs.Construction.Linking
import SchemaGraph.Proofs.Data.Distinct

/-! Linking exactly once.
Linking gives each object the links that it has no dependency for, each once and behind the
dependencies that it has, and it counts them. Linking again finds nothing to add. But it stores the
types again, and looks them up in rebuilt indexes for that: where the canonical reference of a type
leads to another type by now, the type is stored over that one.
-/

namespace SchemaGraph

/-- Items that weigh nothing may be left out. -/
theorem sum_map_filter {α : Type} {keep : α → Bool} {weight : α → Nat} {items : List α}
    (light : ∀ item ∈ items, keep item = false → weight item = 0)
    : ((items.filter keep).map weight).sum = (items.map weight).sum := by
  induction items with
  | nil => rfl
  | cons item rest ih =>
      have further := ih fun other member => light other (List.mem_cons_of_mem item member)
      cases kept : keep item with
      | true => simp [kept, further]
      | false => simp [kept, further, light item List.mem_cons_self kept]

namespace Dependency

variable {dependencies : List Dependency} {hosts : List RuntimeType} {host : RuntimeType}

/-- The links to the host types, each once, as far as no dependency agrees with them. -/
def linksBeside (dependencies : List Dependency) (hosts : List RuntimeType) : List Dependency :=
  (hosts.eraseDups.map interfaceLink).filter fun link => !link.isIn dependencies

/-- A link stands beside the dependencies if it leads to one of the hosts and none of them equals
it.
-/
theorem mem_linksBeside {link : Dependency}
    : link ∈ linksBeside dependencies hosts
      ↔ (∃ host ∈ hosts, interfaceLink host = link) ∧ link.isIn dependencies = false := by
  simp only [linksBeside, List.mem_filter, List.mem_map, List.mem_eraseDups, Bool.not_eq_true']

/-- With the links beside them, the dependencies have a link to each of the hosts. -/
theorem isIn_append_linksBeside
    : (interfaceLink host).isIn (dependencies ++ linksBeside dependencies hosts) = true
      ↔ (interfaceLink host).isIn dependencies = true ∨ host ∈ hosts := by
  constructor
  · intro here
    obtain ⟨other, member, agrees⟩ := List.any_eq_true.mp here
    rcases List.mem_append.mp member with old | new
    · exact .inl (List.any_eq_true.mpr ⟨other, old, agrees⟩)
    · obtain ⟨⟨linked, listed, rfl⟩, -⟩ := mem_linksBeside.mp new
      exact .inr (agrees_interfaceLink_iff.mp agrees ▸ listed)
  · intro either
    by_cases known : (interfaceLink host).isIn dependencies = true
    · exact isIn_mono (List.subset_append_left _ _) known
    · have missing : (interfaceLink host).isIn dependencies = false := by simpa using known
      have new : interfaceLink host ∈ linksBeside dependencies hosts :=
        mem_linksBeside.mpr ⟨⟨host, either.resolve_left known, rfl⟩, missing⟩
      exact List.any_eq_true.mpr
        ⟨_, List.mem_append_right _ new, agrees_interfaceLink_iff.mpr rfl⟩

/-- A further host brings one link, unless there was one already. -/
theorem linksBeside_concat
    : linksBeside dependencies (hosts ++ [host])
      = if (interfaceLink host).isIn dependencies = true ∨ host ∈ hosts then
          linksBeside dependencies hosts
        else linksBeside dependencies hosts ++ [interfaceLink host] := by
  rw [linksBeside, linksBeside, eraseDups_concat]
  by_cases known : (interfaceLink host).isIn dependencies = true <;>
    by_cases old : host ∈ hosts <;> simp_all

/-- Adding links puts those that are missing behind the dependencies. -/
theorem addAll_links (dependencies : List Dependency) (hosts : List RuntimeType)
    : addAll dependencies (hosts.map interfaceLink)
      = dependencies ++ linksBeside dependencies hosts := by
  induction hosts using List.reverseRecOn with
  | nil => simp [addAll, linksBeside]
  | append_singleton front last ih =>
      have step
          : addAll dependencies ((front ++ [last]).map interfaceLink)
            = (interfaceLink last).addTo (dependencies ++ linksBeside dependencies front) := by
        rw [← ih, List.map_append]
        exact List.foldl_concat ..
      rw [step, addTo, linksBeside_concat]
      simp only [isIn_append_linksBeside]
      split
      · rfl
      · exact List.append_assoc ..

end Dependency

namespace Registry

variable {registry base : Registry} {sofar : Registry × Nat} {inspector : Inspector}
  {interfaces : List RuntimeType} {slot : Slot} {record : TypeRecord}

-----------------------------------------------------------------------------------------
-- The links that are missing
-----------------------------------------------------------------------------------------

/-- The host types of the interfaces that the object can stand for, in the order of registration. -/
def interfaceHosts (registry : Registry) (inspector : Inspector) (object : TypeRecord)
    : List RuntimeType :=
  let awaited :=
    registry.records.filter fun interface =>
      interface.runtime ≠ object.runtime
        && inspector.accepts interface.runtime object.runtime
        && isConcrete .interface interface
  awaited.map TypeRecord.runtime

/-- The links that an object with a concrete host type has no dependency for. -/
def missingLinks (registry : Registry) (inspector : Inspector) (object : TypeRecord)
    : List Dependency :=
  if isConcrete .object object then
    Dependency.linksBeside object.dependencies (registry.interfaceHosts inspector object)
  else []

/-- The links of an object lead to the hosts of its interfaces, in the order of these. -/
theorem interfaceLinks_interfaceRuntimes (registry : Registry) (inspector : Inspector)
    (object : TypeRecord)
    : interfaceLinks inspector registry.interfaceRuntimes object.runtime
      = (registry.interfaceHosts inspector object).map interfaceLink := by
  rw [interfaceLinks, interfaceRuntimes, List.filter_map, List.filter_filter, interfaceHosts]
  rfl

/-- The links that are new stand behind the dependencies, each once. -/
theorem dependencies_addLinks (registry : Registry) (inspector : Inspector) (object : TypeRecord)
    : (object.addDependencies
        (interfaceLinks inspector registry.interfaceRuntimes object.runtime)).dependencies
      = object.dependencies
        ++ Dependency.linksBeside object.dependencies
            (registry.interfaceHosts inspector object) := by
  rw [interfaceLinks_interfaceRuntimes]
  exact Dependency.addAll_links ..

/-- A type is linked by putting the missing links behind its dependencies. -/
theorem linked_eq (registry : Registry) (inspector : Inspector) (record : TypeRecord)
    : record.linked inspector registry.interfaceRuntimes
      = { record with
          dependencies := record.dependencies ++ registry.missingLinks inspector record } := by
  unfold TypeRecord.linked missingLinks
  split
  · rw [← dependencies_addLinks]
    rfl
  · rw [List.append_nil]

/-- Linking changes types in their slots.
Witness: every object has its turn once, and the types stored over others are the ones that were
there.
-/
theorem records_linkInterfaces (anchored : registry.Anchored) (inspector : Inspector)
    : (registry.linkInterfaces inspector).1.records
      = registry.records.map (TypeRecord.linked inspector registry.interfaceRuntimes) := by
  apply List.ext_getElem?
  intro slot
  rw [List.getElem?_map]
  exact registry.linkInterfaces_get? anchored inspector slot

-----------------------------------------------------------------------------------------
-- The number of links
-----------------------------------------------------------------------------------------

/-- How many links the type in the slot is given. -/
def addedLinks (registry : Registry) (inspector : Inspector) (interfaces : List RuntimeType)
    (target : Slot × RuntimeType)
    : Nat :=
  match registry.get? target.1 with
  | none => 0
  | some record =>
      (record.addDependencies (interfaceLinks inspector interfaces target.2)).dependencies.length
        - record.dependencies.length

/-- The count grows by what the dependencies of the object grow by. -/
theorem linkObject_snd (inspector : Inspector) (interfaces : List RuntimeType)
    (sofar : Registry × Nat) (target : Slot × RuntimeType)
    : (linkObject inspector interfaces sofar target).2
      = sofar.2 + sofar.1.addedLinks inspector interfaces target := by
  unfold linkObject addedLinks
  cases sofar.1.get? target.1 with
  | none => rfl
  | some record =>
      cases interfaceLinks inspector interfaces target.2 with
      | nil => simp [TypeRecord.addDependencies, Dependency.addAll]
      | cons link rest => rfl

/-- In the end it has grown by the links of all objects.
Witness: no object is stored over another one, so the links of the later ones can be counted at the
start.
-/
theorem linkObjects_snd (anchored : sofar.1.Anchored) (inspector : Inspector)
    (interfaces : List RuntimeType) {targets : List (Slot × RuntimeType)}
    (nodup : (targets.map Prod.fst).Nodup)
    : (targets.foldl (linkObject inspector interfaces) sofar).2
      = sofar.2 + (targets.map (sofar.1.addedLinks inspector interfaces)).sum := by
  induction targets generalizing sofar with
  | nil => rfl
  | cons first rest ih =>
      obtain ⟨fresh, further⟩ := List.nodup_cons.mp nodup
      obtain ⟨next, -, others⟩ := linkObject_get? anchored inspector interfaces first
      have untouched
          : rest.map ((linkObject inspector interfaces sofar first).1.addedLinks inspector
              interfaces)
            = rest.map (sofar.1.addedLinks inspector interfaces) := by
        refine List.map_congr_left fun target member => ?_
        have different : target.1 ≠ first.1 := fun same =>
          fresh (same ▸ List.mem_map_of_mem member)
        rw [addedLinks, addedLinks, others target.1 different]
      rw [List.foldl_cons, ih next further, untouched, linkObject_snd, List.map_cons,
        List.sum_cons, Nat.add_assoc]

/-- Linking stores all objects with their links and rebuilds the indexes. -/
theorem linkInterfaces_eq (registry : Registry) (inspector : Inspector)
    : registry.linkInterfaces inspector
      = let stored :=
          registry.objectRuntimes.foldl (linkObject inspector registry.interfaceRuntimes)
            (registry, 0)
        (stored.1.rebuild, stored.2) :=
  rfl

/-- The count is that of the missing links of all types.
Witness: the objects are the concrete ones among the types, and types of other kinds miss no links.
-/
theorem linkInterfaces_snd (anchored : registry.Anchored) (inspector : Inspector)
    : (registry.linkInterfaces inspector).2
      = (registry.records.flatMap (registry.missingLinks inspector)).length := by
  let missing (entry : TypeRecord × Slot) : Nat :=
    (registry.missingLinks inspector entry.1).length
  have added
      : ∀ entry ∈ registry.records.zipIdx.filter fun entry => isConcrete .object entry.1,
          registry.addedLinks inspector registry.interfaceRuntimes (entry.2, entry.1.runtime)
            = missing entry := by
    rintro ⟨record, slot⟩ member
    obtain ⟨entered, concrete⟩ := List.mem_filter.mp member
    have found : registry.get? slot = some record := List.mem_zipIdx_iff_getElem?.mp entered
    simp only [addedLinks, found, dependencies_addLinks, List.length_append,
      Nat.add_sub_cancel_left, missing, missingLinks]
    rw [if_pos concrete]
  have none
      : ∀ entry ∈ registry.records.zipIdx,
          isConcrete .object entry.1 = false → missing entry = 0 := by
    intro entry _ other
    simp [missing, missingLinks, other]
  calc
    (registry.linkInterfaces inspector).2
        = (registry.objectRuntimes.map
            (registry.addedLinks inspector registry.interfaceRuntimes)).sum := by
      rw [linkInterfaces_eq, linkObjects_snd anchored _ _ registry.nodup_objectRuntimes]
      exact Nat.zero_add _
    _ = ((registry.records.zipIdx.filter fun entry => isConcrete .object entry.1).map
          missing).sum := by
      rw [objectRuntimes, List.map_map]
      exact congrArg List.sum (List.map_congr_left added)
    _ = (registry.records.zipIdx.map missing).sum := sum_map_filter none
    _ = (registry.records.flatMap (registry.missingLinks inspector)).length := by
      rw [List.length_flatMap, ← List.zipIdx_map_fst 0 registry.records, List.map_map]
      simp [missing, Function.comp_def]

-----------------------------------------------------------------------------------------
-- Types that are linked already
-----------------------------------------------------------------------------------------

theorem isConcrete_linked (kind : Kind) (record : TypeRecord)
    : isConcrete kind (record.linked inspector interfaces) = isConcrete kind record := by
  unfold TypeRecord.linked
  split <;> rfl

theorem runtime_linked (record : TypeRecord)
    : (record.linked inspector interfaces).runtime = record.runtime :=
  congrArg Standing.runtime (record.standing_linked inspector interfaces)

/-- A type that has its links is not changed by linking it. -/
theorem linked_linked (record : TypeRecord)
    : (record.linked inspector interfaces).linked inspector interfaces
      = record.linked inspector interfaces := by
  rw [TypeRecord.linked, isConcrete_linked, runtime_linked]
  unfold TypeRecord.linked
  split
  · rw [TypeRecord.addDependencies, TypeRecord.addDependencies]
    congr 1
    exact Dependency.absorbing_addTo.foldl_twice _ record.dependencies
  · rfl

/-- Linked types have the interfaces that they had. -/
theorem interfaceRuntimes_linkInterfaces (anchored : registry.Anchored) (inspector : Inspector)
    : (registry.linkInterfaces inspector).1.interfaceRuntimes = registry.interfaceRuntimes := by
  rw [interfaceRuntimes, interfaceRuntimes, records_linkInterfaces anchored, List.filter_map,
    List.map_map]
  simp only [Function.comp_def, isConcrete_linked, runtime_linked]

/-- Linked types stand where they stood. -/
theorem standings_linkInterfaces (anchored : registry.Anchored) (inspector : Inspector)
    : (registry.linkInterfaces inspector).1.standings = registry.standings := by
  rw [standings, standings, records_linkInterfaces anchored, List.map_map]
  exact List.map_congr_left fun record _ => record.standing_linked _ _

/-- Every type of linked types has its links. -/
theorem linked_of_mem (anchored : registry.Anchored)
    (member : record ∈ (registry.linkInterfaces inspector).1.records)
    : record.linked inspector (registry.linkInterfaces inspector).1.interfaceRuntimes
      = record := by
  rw [interfaceRuntimes_linkInterfaces anchored]
  rw [records_linkInterfaces anchored] at member
  obtain ⟨old, -, rfl⟩ := List.mem_map.mp member
  exact linked_linked old

/-- So linked types miss no links. -/
theorem missingLinks_of_mem (anchored : registry.Anchored)
    (member : record ∈ (registry.linkInterfaces inspector).1.records)
    : (registry.linkInterfaces inspector).1.missingLinks inspector record = [] := by
  have has := linked_of_mem anchored member
  rw [linked_eq] at has
  exact List.append_right_eq_self.mp (congrArg TypeRecord.dependencies has)

-----------------------------------------------------------------------------------------
-- Linking again
-----------------------------------------------------------------------------------------

/-- Links bring no key. -/
theorem byReference_linkObjects (anchored : sofar.1.Anchored) (inspector : Inspector)
    (interfaces : List RuntimeType) (targets : List (Slot × RuntimeType))
    : (targets.foldl (linkObject inspector interfaces) sofar).1.byReference
      = sofar.1.byReference := by
  induction targets generalizing sofar with
  | nil => rfl
  | cons first rest ih =>
      obtain ⟨next, -⟩ := linkObject_get? anchored inspector interfaces first
      rw [List.foldl_cons, ih next]
      rcases linkObject_cases inspector interfaces sofar first with
        same | ⟨record, links, found, stored⟩
      · rw [same]
      · rw [stored]
        exact anchored.byReference_register found rfl

/-- The indexes of linked types are the ones that would be rebuilt without linking them. -/
theorem find_linkInterfaces (anchored : registry.Anchored) (inspector : Inspector)
    : (registry.linkInterfaces inspector).1.find = registry.rebuild.find := by
  let stored :=
    (registry.objectRuntimes.foldl (linkObject inspector registry.interfaceRuntimes)
      (registry, 0)).1
  have standings : stored.standings = registry.standings :=
    stored.standings_rebuild.symm.trans (standings_linkInterfaces anchored inspector)
  have keys : stored.byReference = registry.byReference :=
    @byReference_linkObjects (registry, 0) anchored inspector registry.interfaceRuntimes _
  exact find_rebuild_congr standings (congrArg KeyTable.buckets keys)

/-- Linked types are found by their canonical references as far as rebuilt indexes find them. -/
theorem anchored_linkInterfaces (anchored : registry.Anchored) (inspector : Inspector)
    (owned : registry.rebuild.CanonicalOwned)
    : (registry.linkInterfaces inspector).1.Anchored := by
  have rebuilt : registry.rebuild.Anchored :=
    ⟨by simpa using anchored.keyed, owned, registry.keysIndexed_rebuild⟩
  refine rebuilt.unmoved (unmoved_of_find (find_linkInterfaces anchored inspector) ?_)
  rw [standings_linkInterfaces anchored, standings_rebuild]

section

variable (anchored : registry.Anchored) (inspector : Inspector)
  (owned : registry.rebuild.CanonicalOwned)
include anchored owned

/-- Where all types are found in rebuilt indexes, each gets back the links that it has. -/
theorem records_linkInterfaces_twice
    : let linked := (registry.linkInterfaces inspector).1
      (linked.linkInterfaces inspector).1.records = linked.records := by
  intro linked
  rw [records_linkInterfaces (anchored_linkInterfaces anchored inspector owned)]
  calc
    linked.records.map (TypeRecord.linked inspector linked.interfaceRuntimes)
        = linked.records.map id :=
      List.map_congr_left fun record member => linked_of_mem anchored member
    _ = linked.records := List.map_id linked.records

/-- So there is nothing to count either. -/
theorem linkInterfaces_twice_snd
    : ((registry.linkInterfaces inspector).1.linkInterfaces inspector).2 = 0 := by
  rw [linkInterfaces_snd (anchored_linkInterfaces anchored inspector owned),
    List.length_eq_zero_iff, List.flatMap_eq_nil_iff]
  exact fun record member => missingLinks_of_mem anchored member

/-- Witness: the indexes were rebuilt for types of the same standings already. -/
theorem mayFind_linkInterfaces_twice (reference : Reference) (slot : Slot)
    : let linked := (registry.linkInterfaces inspector).1
      (linked.linkInterfaces inspector).1.MayFind reference slot
      ↔ linked.MayFind reference slot := by
  intro linked
  let again := (linked.linkInterfaces inspector).1
  have standings : again.standings = linked.standings :=
    standings_linkInterfaces (anchored_linkInterfaces anchored inspector owned) inspector
  have current : linked.Current := current_rebuild _
  have currentAgain : again.Current := current_rebuild _
  rw [← currentAgain, mayFind_rebuild_congr standings]
  exact current reference slot

end

-----------------------------------------------------------------------------------------
-- Linking exactly once
-----------------------------------------------------------------------------------------

/-- Linking puts the missing links of every type behind its dependencies and leaves the rest of all
types as it is, and it counts the links. If every type is still found by its canonical reference in
rebuilt indexes, linking again counts none, leaves all types as they are, and may find the same.
Witness: links change no standing, so where they leave every type to be found, the second linking
meets the types that have theirs.
-/
theorem linkInterfaces_exact (anchored : registry.Anchored) (inspector : Inspector)
    : let linked := registry.linkInterfaces inspector
      let again := linked.1.linkInterfaces inspector
      linked.1.records
        = (registry.records.map fun record =>
            { record with
              dependencies := record.dependencies ++ registry.missingLinks inspector record })
      ∧ linked.2 = (registry.records.flatMap (registry.missingLinks inspector)).length
      ∧ (registry.rebuild.CanonicalOwned
        → again.2 = 0
          ∧ again.1.records = linked.1.records
          ∧ ∀ reference slot,
              again.1.MayFind reference slot ↔ linked.1.MayFind reference slot) := by
  intro linked again
  refine ⟨?_, linkInterfaces_snd anchored inspector, fun owned => ⟨?_, ?_, ?_⟩⟩
  · rw [records_linkInterfaces anchored]
    exact List.map_congr_left fun record _ => registry.linked_eq inspector record
  · exact linkInterfaces_twice_snd anchored inspector owned
  · exact records_linkInterfaces_twice anchored inspector owned
  · exact mayFind_linkInterfaces_twice anchored inspector owned

-----------------------------------------------------------------------------------------
-- Users and guests
-----------------------------------------------------------------------------------------

def hostedInterface (name host : String) : TypeRecord :=
  TypeRecord.new
    (.interface
      {
        header := ⟨⟨name⟩, none, none, .named host⟩
        fields := []
        interfaces := []
        implemented := []
      })
    [] [] Discovered.nothing

def hostedObject (name : String) (synonyms : List Reference) (dependencies : List Dependency)
    : TypeRecord :=
  TypeRecord.new
    (.object
      {
        header := ⟨⟨name⟩, none, none, .named name⟩
        fields := []
        interfaces := []
        implemented := []
        isOfType := none
        isQueryType := false
      })
    synonyms dependencies Discovered.nothing

/-- Users are nodes and entities, and they wait for entities as it is. Two interfaces are nodes. -/
def entities : Registry :=
  empty.applyAll
    [
      .register (hostedObject "User" [] [⟨.runtime (.named "IEntity") .any, .completed⟩]),
      .register (hostedInterface "INode" "INode"),
      .register (hostedInterface "IEntity" "IEntity"),
      .register (hostedInterface "IRecord" "INode")
    ]

def entityTable : RuntimeTable :=
  userTable.implement (.named "User") (.named "IEntity")

theorem entities_linked_once
    : let linked := entities.linkInterfaces entityTable.inspector
      let again := linked.1.linkInterfaces entityTable.inspector
      entities.Anchored
      ∧ entities.rebuild.CanonicalOwned
      ∧ linked.1.records.map TypeRecord.dependencies
        = [
            [⟨.runtime (.named "IEntity") .any, .completed⟩, interfaceLink (.named "INode")],
            [],
            [],
            []
          ]
      ∧ linked.2 = 1
      ∧ again.2 = 0
      ∧ again.1.records = linked.1.records := by
  intro linked again
  have anchored : entities.Anchored :=
    ⟨by decide +kernel, by decide +kernel, by decide +kernel⟩
  have owned : entities.rebuild.CanonicalOwned := by decide +kernel
  obtain ⟨records, count, twice⟩ := linkInterfaces_exact anchored entityTable.inspector
  obtain ⟨nothing, same, -⟩ := twice owned
  refine ⟨anchored, owned, ?_, ?_, nothing, same⟩
  · rw [records]
    decide +kernel
  · rw [count]
    decide +kernel

/-- Guests take an alias that leads to users, who came in before the guests had it. -/
def overtakenUsers : Registry :=
  empty.applyAll
    [
      .register (hostedObject "Guest" [] []),
      .register (hostedObject "User" [] []),
      .register (hostedObject "Guest" [.schema ⟨"User"⟩] []),
      .register (hostedInterface "INode" "INode")
    ]

/-- Linking again stores the users over the guests, who have no links and were given none. -/
theorem overtakenUsers_linked_over
    : let linked := (overtakenUsers.linkInterfaces userTable.inspector).1
      let again := (linked.linkInterfaces userTable.inspector).1
      overtakenUsers.Anchored
      ∧ linked.records.map (fun record => (record.primary, record.dependencies))
        = [
            (.schema ⟨"Guest"⟩, []),
            (.schema ⟨"User"⟩, [interfaceLink (.named "INode")]),
            (.schema ⟨"INode"⟩, [])
          ]
      ∧ again.records.map (fun record => (record.primary, record.dependencies))
        = [
            (.schema ⟨"User"⟩, [interfaceLink (.named "INode")]),
            (.schema ⟨"User"⟩, [interfaceLink (.named "INode")]),
            (.schema ⟨"INode"⟩, [])
          ] := by
  refine ⟨⟨by decide +kernel, by decide +kernel, by decide +kernel⟩, ?_, ?_⟩ <;> decide +kernel

end Registry
end SchemaGraph
