import Mathlib
import SchemaGraph.Proofs.Data.Distinct
import SchemaGraph.Proofs.Data.Insertion
import SchemaGraph.Proofs.Data.Reachability
import SchemaGraph.Proofs.Registry.Changes
import SchemaGraph.Registry.DependencyGraph

/-! Cycles of the dependency graph are its components that hold a way round.
The slots that a cycle lists are all those that reach each other, so that two cycles share no slot,
and ordering them by their first slots orders them as lists. The same cycles come out, at the same
slots, when the strongly connected components of the graph are given in any order, those with a way
round are sorted, and each slot is entered with the number of its cycle.
-/

namespace SchemaGraph.DependencyGraph

open Reachable Relation

variable {graph : DependencyGraph} {slot other target : Slot} {cycle component : List Slot}
  {components : List (List Slot)}

/-- An edge leads from the slot to the target. -/
def Links (graph : DependencyGraph) (slot target : Slot) : Prop :=
  (slot, target) ∈ graph.edges

/-- All edges are between slots of the graph. -/
def Inside (graph : DependencyGraph) : Prop :=
  ∀ ⦃slot target⦄, graph.Links slot target → slot < graph.size ∧ target < graph.size

/-- One or more edges lead from each of the two slots to the other. -/
def BothWays (graph : DependencyGraph) (slot other : Slot) : Prop :=
  TransGen graph.Links slot other ∧ TransGen graph.Links other slot

-----------------------------------------------------------------------------------------
-- Slots that reach each other
-----------------------------------------------------------------------------------------

theorem BothWays.symm (ways : graph.BothWays slot other) : graph.BothWays other slot :=
  ⟨ways.2, ways.1⟩

/-- Types that lead to a third one and back lead to one another through it. -/
theorem BothWays.trans (ways : graph.BothWays slot other)
    (further : graph.BothWays other target)
    : graph.BothWays slot target :=
  ⟨ways.1.trans further.1, further.2.trans ways.2⟩

/-- On a way round, slots reach each other by some edges when they do so by any number of them. -/
theorem bothWays_iff (round : TransGen graph.Links slot slot)
    : graph.BothWays slot other
      ↔ ReflTransGen graph.Links slot other ∧ ReflTransGen graph.Links other slot := by
  constructor
  · rintro ⟨there, back⟩
    exact ⟨there.to_reflTransGen, back.to_reflTransGen⟩
  · rintro ⟨there, back⟩
    exact ⟨round.trans_left there, round.trans_right back⟩

/-- A way round is one among slots that all reach each other. -/
theorem transGen_bothWays (round : TransGen graph.Links slot slot)
    (path : TransGen graph.Links slot target) (back : ReflTransGen graph.Links target slot)
    : TransGen (fun point next => graph.Links point next ∧ graph.BothWays slot next) slot
        target := by
  induction path with
  | single link => exact .single ⟨link, .single link, round.trans_right back⟩
  | tail path link ih =>
      exact (ih (back.head link)).tail ⟨link, path.tail link, round.trans_right back⟩

/-- Where a path starts, there is a type. -/
theorem lt_size_of_transGen (inside : graph.Inside) (path : TransGen graph.Links slot other)
    : slot < graph.size := by
  obtain ⟨next, link, -⟩ := TransGen.head'_iff.mp path
  exact (inside link).1

-----------------------------------------------------------------------------------------
-- The cycle through a slot
-----------------------------------------------------------------------------------------

theorem mem_successors_iff : target ∈ graph.successors slot ↔ graph.Links slot target := by
  simp [successors, Links]

theorem mem_predecessors_iff : slot ∈ graph.predecessors target ↔ graph.Links slot target := by
  simp [predecessors, Links]

/-- The descendants are what a path of links leads to.
Witness: the search reaches what steps into unseen slots reach, and every link is such a step.
-/
theorem mem_descendants_iff (inside : graph.Inside)
    : target ∈ graph.descendants slot ↔ TransGen graph.Links slot target := by
  have steps : StepInto graph.successors graph.slots = graph.Links := by
    ext point next
    simp only [StepInto, mem_successors_iff, slots, List.mem_range]
    exact and_iff_left_of_imp fun link => (inside link).2
  rw [descendants, mem_reached_iff, steps]

/-- The ancestors are what a path of links comes from, by the search along the links turned round.
-/
theorem mem_ancestors_iff (inside : graph.Inside)
    : slot ∈ graph.ancestors target ↔ TransGen graph.Links slot target := by
  have steps : StepInto graph.predecessors graph.slots = Function.swap graph.Links := by
    ext point before
    simp only [StepInto, mem_predecessors_iff, slots, List.mem_range, Function.swap]
    exact and_iff_left_of_imp fun link => (inside link).1
  rw [ancestors, mem_reached_iff, steps, transGen_swap]

/-- A path is empty or leads to a descendant. -/
theorem reflTransGen_links_iff (inside : graph.Inside)
    : ReflTransGen graph.Links slot other ↔ other = slot ∨ other ∈ graph.descendants slot := by
  rw [reflTransGen_iff_eq_or_transGen, mem_descendants_iff inside]

/-- There is a cycle through the slots on a way round, and it lists all slots that this one reaches
and is reached by.
Witness: the members are searched along the links and against them, in the order of the slots.
-/
theorem cycleOf_eq_some_iff (inside : graph.Inside)
    : graph.cycleOf slot = some cycle
      ↔ TransGen graph.Links slot slot
        ∧ cycle.Pairwise (· < ·)
        ∧ ∀ other, other ∈ cycle ↔ graph.BothWays slot other := by
  let members := graph.slots.filter fun other =>
    other ∈ graph.descendants slot && other ∈ graph.ancestors slot
  have ascending : members.Pairwise (· < ·) := List.pairwise_lt_range.filter _
  have mem_iff (other : Slot) : other ∈ members ↔ graph.BothWays slot other := by
    simp only [members, List.mem_filter, Bool.and_eq_true, decide_eq_true_eq,
      mem_descendants_iff inside, mem_ancestors_iff inside, slots, List.mem_range]
    exact and_iff_right_of_imp fun ways => lt_size_of_transGen inside ways.2
  have found : graph.cycleOf slot = if slot ∈ graph.descendants slot then some members else none :=
    rfl
  rw [found, ← mem_descendants_iff inside]
  constructor
  · intro some
    split at some
    · next round => exact Option.some.inj some ▸ ⟨round, ascending, mem_iff⟩
    · cases some
  · rintro ⟨round, sorted, same⟩
    rw [if_pos round,
      ascending.eq_of_mem_iff sorted fun other => (mem_iff other).trans (same other).symm]

/-- A type without a cycle is on no path that leads back to it. -/
theorem cycleOf_eq_none_iff (inside : graph.Inside)
    : graph.cycleOf slot = none ↔ ¬TransGen graph.Links slot slot := by
  unfold cycleOf
  simp [mem_descendants_iff inside]

/-- On a cycle, the cycle through any slot is this very one. -/
theorem cycleOf_of_mem (inside : graph.Inside) (found : graph.cycleOf slot = some cycle)
    (member : other ∈ cycle)
    : graph.cycleOf other = some cycle := by
  obtain ⟨-, ascending, mem_iff⟩ := (cycleOf_eq_some_iff inside).mp found
  have ways := (mem_iff other).mp member
  refine (cycleOf_eq_some_iff inside).mpr ⟨ways.2.trans ways.1, ascending, fun third => ?_⟩
  rw [mem_iff]
  exact ⟨ways.symm.trans, ways.trans⟩

/-- A type is a member of its cycle. -/
theorem mem_of_cycleOf (inside : graph.Inside) (found : graph.cycleOf slot = some cycle)
    : slot ∈ cycle := by
  obtain ⟨round, -, mem_iff⟩ := (cycleOf_eq_some_iff inside).mp found
  exact (mem_iff slot).mpr ⟨round, round⟩

-----------------------------------------------------------------------------------------
-- All cycles
-----------------------------------------------------------------------------------------

/-- The cycles are those of the types, each listed at the first of them. -/
theorem mem_cycles_iff (inside : graph.Inside)
    : cycle ∈ graph.cycles ↔ ∃ slot, graph.cycleOf slot = some cycle := by
  simp only [cycles, List.mem_filterMap, Option.filter_eq_some_iff, decide_eq_true_eq]
  constructor
  · rintro ⟨slot, -, found, -⟩
    exact ⟨slot, found⟩
  · rintro ⟨slot, found⟩
    have some : cycle ≠ [] := List.ne_nil_of_mem (mem_of_cycleOf inside found)
    have first := cycleOf_of_mem inside found (List.head_mem some)
    have round := ((cycleOf_eq_some_iff inside).mp first).1
    exact ⟨cycle.head some, List.mem_range.mpr (lt_size_of_transGen inside round), first,
      List.head?_eq_some_head some⟩

/-- The cycle through a slot is the one that lists it. -/
theorem cycleOf_eq_some_iff_mem (inside : graph.Inside)
    : graph.cycleOf slot = some cycle ↔ cycle ∈ graph.cycles ∧ slot ∈ cycle := by
  constructor
  · intro found
    exact ⟨(mem_cycles_iff inside).mpr ⟨slot, found⟩, mem_of_cycleOf inside found⟩
  · rintro ⟨listed, member⟩
    obtain ⟨first, found⟩ := (mem_cycles_iff inside).mp listed
    exact cycleOf_of_mem inside found member

/-- The cycles are listed in lexicographic order, since they are in the order of their heads. -/
theorem cycles_ascending (graph : DependencyGraph) : graph.cycles.Pairwise (· < ·) := by
  refine List.Pairwise.filterMap _ ?_ List.pairwise_lt_range
  intro slot other before cycle found later foundLater
  simp only [Option.filter_eq_some_iff, decide_eq_true_eq, List.head?_eq_some_iff]
    at found foundLater
  obtain ⟨-, rest, rfl⟩ := found
  obtain ⟨-, more, rfl⟩ := foundLater
  exact List.cons_lt_cons_iff.mpr (Or.inl before)

-----------------------------------------------------------------------------------------
-- Cycles as sets of slots
-----------------------------------------------------------------------------------------

/-- From each slot of the set, edges lead to all the others. -/
def Connected (graph : DependencyGraph) (members : Set Slot) : Prop :=
  ∀ slot ∈ members, ∀ other ∈ members, ReflTransGen graph.Links slot other

/-- The set is a largest one of connected slots of the graph, and edges inside of it lead from one
of its slots back to that slot. The way round may be a single edge.
-/
structure IsCycle (graph : DependencyGraph) (members : Set Slot) : Prop where
  largest
    : Maximal (fun members => (∀ slot ∈ members, slot < graph.size) ∧ graph.Connected members)
        members
  round
    : ∃ slot ∈ members,
        TransGen (fun point next => graph.Links point next ∧ next ∈ members) slot slot

theorem BothWays.reflTransGen (ways : graph.BothWays slot other)
    (further : graph.BothWays slot target)
    : ReflTransGen graph.Links other target :=
  (ways.2.trans further.1).to_reflTransGen

/-- Round each slot that is reached from itself, there is one such set. -/
theorem isCycle_bothWays (inside : graph.Inside) (round : TransGen graph.Links slot slot)
    : graph.IsCycle {other | graph.BothWays slot other} where
  largest := by
    refine ⟨⟨fun other ways => lt_size_of_transGen inside ways.2, ?_⟩, ?_⟩
    · exact fun other ways target further => ways.reflTransGen further
    · rintro larger ⟨-, connected⟩ includes other member
      have here : slot ∈ larger := includes ⟨round, round⟩
      have there := connected slot here other member
      have back := connected other member slot here
      exact (bothWays_iff round).mpr ⟨there, back⟩
  round := ⟨slot, ⟨round, round⟩, transGen_bothWays round round .refl⟩

/-- And there is no other. -/
theorem IsCycle.exists_eq {members : Set Slot} (inside : graph.Inside)
    (isCycle : graph.IsCycle members)
    : ∃ slot, TransGen graph.Links slot slot ∧ members = {other | graph.BothWays slot other} := by
  obtain ⟨slot, member, within⟩ := isCycle.round
  have round : TransGen graph.Links slot slot := TransGen.mono (fun _ _ link => link.1) _ _ within
  refine ⟨slot, round, isCycle.largest.eq_of_le (isCycle_bothWays inside round).largest.1 ?_⟩
  intro other here
  have there := isCycle.largest.1.2 slot member other here
  have back := isCycle.largest.1.2 other here slot member
  exact (bothWays_iff round).mpr ⟨there, back⟩

/-- The listed cycles are just these sets, each of them once.
Witness: a largest set on a way round is all that one of its slots reaches and is reached by.
-/
theorem isCycle_iff (inside : graph.Inside) {members : Set Slot}
    : graph.IsCycle members ↔ ∃! cycle, cycle ∈ graph.cycles ∧ members = {slot | slot ∈ cycle} := by
  constructor
  · intro isCycle
    obtain ⟨slot, round, rfl⟩ := isCycle.exists_eq inside
    have some : graph.cycleOf slot ≠ none := by
      rw [Ne, cycleOf_eq_none_iff inside, not_not]
      exact round
    obtain ⟨cycle, found⟩ := Option.ne_none_iff_exists'.mp some
    obtain ⟨-, -, mem_iff⟩ := (cycleOf_eq_some_iff inside).mp found
    refine ⟨cycle, ⟨(mem_cycles_iff inside).mpr ⟨slot, found⟩, ?_⟩, ?_⟩
    · exact Set.ext fun other => (mem_iff other).symm
    · rintro again ⟨listed, same⟩
      have member : slot ∈ {slot | slot ∈ again} := by
        rw [← same]
        exact ⟨round, round⟩
      have foundAgain := (cycleOf_eq_some_iff_mem inside).mpr ⟨listed, member⟩
      exact Option.some.inj (foundAgain.symm.trans found)
  · rintro ⟨cycle, ⟨listed, rfl⟩, -⟩
    obtain ⟨slot, found⟩ := (mem_cycles_iff inside).mp listed
    obtain ⟨round, -, mem_iff⟩ := (cycleOf_eq_some_iff inside).mp found
    rw [show {other | other ∈ cycle} = {other | graph.BothWays slot other} from Set.ext mem_iff]
    exact isCycle_bothWays inside round

-----------------------------------------------------------------------------------------
-- Cycles from the components
-----------------------------------------------------------------------------------------

/-- The strongly connected components of the graph, in any order and each of them in any order. Each
slot is in one component, once, and those in a component with it are the slots that it reaches and
is reached by.
-/
structure AreComponents (graph : DependencyGraph) (components : List (List Slot)) : Prop where
  perm : components.flatten.Perm graph.slots
  nonempty : [] ∉ components
  mem_iff
    : ∀ component ∈ components,
        ∀ slot ∈ component,
          ∀ other ∈ graph.slots,
            other ∈ component
            ↔ ReflTransGen graph.Links slot other ∧ ReflTransGen graph.Links other slot

/-- A component with a way round has several slots, or one that is linked to itself. -/
def isCyclic (graph : DependencyGraph) (component : List Slot) : Bool :=
  1 < component.length || component.head?.any fun slot => (slot, slot) ∈ graph.edges

/-- The components with a way round, each in order, and all of them in lexicographic order. -/
def cyclesAmong (graph : DependencyGraph) (components : List (List Slot)) : List (List Slot) :=
  ((components.filter graph.isCyclic).map fun component => component.mergeSort).mergeSort

/-- Each slot on a cycle with the number of that cycle, as they are entered one cycle after the
other.
-/
def numbering (cycles : List (List Slot)) : Entries Slot Nat :=
  Entries.insertAll [] (cycles.zipIdx.flatMap fun entry => entry.1.map fun slot => (slot, entry.2))

/-- The cycle with the number that is entered for the slot. -/
def numberedCycle (cycles : List (List Slot)) (slot : Slot) : Option (List Slot) :=
  (Entries.get? (numbering cycles) slot).bind fun number => cycles[number]?

/-- No component has a slot twice, and no two share one. -/
theorem AreComponents.distinct (are : graph.AreComponents components)
    : (∀ component ∈ components, component.Nodup) ∧ components.Pairwise List.Disjoint :=
  List.nodup_flatten.mp (are.perm.nodup_iff.mpr List.nodup_range)

theorem AreComponents.mem_slots (are : graph.AreComponents components)
    (listed : component ∈ components) (member : slot ∈ component)
    : slot ∈ graph.slots :=
  are.perm.mem_iff.mp (List.mem_flatten.mpr ⟨component, listed, member⟩)

/-- The slots of a component are on a way round if and only if the component passes for one.
Witness: a component of several slots is a way round through any of them, and one of a single slot
needs a link to itself.
-/
theorem AreComponents.isCyclic_iff (inside : graph.Inside) (are : graph.AreComponents components)
    (listed : component ∈ components) (member : slot ∈ component)
    : graph.isCyclic component = true ↔ TransGen graph.Links slot slot := by
  have mem_iff := are.mem_iff component listed slot member
  simp only [isCyclic, Bool.or_eq_true, decide_eq_true_eq, Option.any_eq_true]
  constructor
  · rintro (several | ⟨first, head, link⟩)
    · have different : ∃ other ∈ component, other ≠ slot := by
        by_contra! only
        have distinct := are.distinct.1 component listed
        rw [List.eq_replicate_of_mem only, List.nodup_replicate] at distinct
        omega
      obtain ⟨other, here, different⟩ := different
      obtain ⟨there, back⟩ := (mem_iff other (are.mem_slots listed here)).mp here
      exact ((reflTransGen_iff_eq_or_transGen.mp there).resolve_left different).trans_left back
    · have here := List.mem_of_mem_head? head
      obtain ⟨there, back⟩ := (mem_iff first (are.mem_slots listed here)).mp here
      exact (TransGen.tail' there link).trans_left back
  · intro round
    obtain ⟨next, link, back⟩ := TransGen.head'_iff.mp round
    have here := (mem_iff next (List.mem_range.mpr (inside link).2)).mpr ⟨.single link, back⟩
    match component, member, here with
    | [_], member, here =>
        rw [List.mem_singleton] at member here
        subst member here
        exact Or.inr ⟨next, rfl, link⟩
    | _ :: _ :: _, _, _ => exact Or.inl (by simp)

/-- Sorted, a component with a way round is the cycle through its slots. -/
theorem AreComponents.cycleOf_eq (inside : graph.Inside) (are : graph.AreComponents components)
    (listed : component ∈ components) (member : slot ∈ component)
    (cyclic : graph.isCyclic component = true)
    : graph.cycleOf slot = some component.mergeSort := by
  have round := (are.isCyclic_iff inside listed member).mp cyclic
  refine (cycleOf_eq_some_iff inside).mpr ⟨round, ?_, fun other => ?_⟩
  · have sorted : component.mergeSort.Pairwise (· ≤ ·) := List.pairwise_mergeSort' _ component
    have distinct : component.mergeSort.Nodup :=
      (List.mergeSort_perm _ _).nodup_iff.mpr (are.distinct.1 component listed)
    exact (sorted.and distinct).imp fun both => lt_of_le_of_ne both.1 both.2
  · rw [List.mem_mergeSort, bothWays_iff round]
    constructor
    · intro here
      exact (are.mem_iff component listed slot member other (are.mem_slots listed here)).mp here
    · intro both
      have ways := (bothWays_iff round).mpr both
      have bound := List.mem_range.mpr (lt_size_of_transGen inside ways.2)
      exact (are.mem_iff component listed slot member other bound).mpr both

/-- The components give the cycles, whatever order they come in.
Witness: both lists ascend, and they have the same members, each once.
-/
theorem AreComponents.cyclesAmong_eq (inside : graph.Inside)
    (are : graph.AreComponents components)
    : graph.cyclesAmong components = graph.cycles := by
  let sorted := (components.filter graph.isCyclic).map fun component => component.mergeSort
  have exists_slot {component : List Slot} (listed : component ∈ components)
      : ∃ slot, slot ∈ component := by
    refine List.exists_mem_of_ne_nil component ?_
    rintro rfl
    exact are.nonempty listed
  have mem_iff (cycle : List Slot) : cycle ∈ sorted ↔ cycle ∈ graph.cycles := by
    simp only [sorted, List.mem_map, List.mem_filter, mem_cycles_iff inside]
    constructor
    · rintro ⟨component, ⟨listed, cyclic⟩, rfl⟩
      obtain ⟨slot, member⟩ := exists_slot listed
      exact ⟨slot, are.cycleOf_eq inside listed member cyclic⟩
    · rintro ⟨slot, found⟩
      have round := ((cycleOf_eq_some_iff inside).mp found).1
      have covered := are.perm.mem_iff.mpr (List.mem_range.mpr (lt_size_of_transGen inside round))
      obtain ⟨component, listed, member⟩ := List.mem_flatten.mp covered
      have cyclic := (are.isCyclic_iff inside listed member).mpr round
      have same := are.cycleOf_eq inside listed member cyclic
      exact ⟨component, ⟨listed, cyclic⟩, Option.some.inj (same.symm.trans found)⟩
  have distinct : sorted.Nodup := by
    refine List.pairwise_map.mpr ((are.distinct.2.imp_of_mem ?_).filter _)
    intro left right listed _ disjoint same
    obtain ⟨slot, member⟩ := exists_slot listed
    have again : slot ∈ right.mergeSort := same ▸ List.mem_mergeSort.mpr member
    exact disjoint member (List.mem_mergeSort.mp again)
  have ascending : (graph.cyclesAmong components).Pairwise (· ≤ ·) :=
    List.pairwise_mergeSort' _ sorted
  have perm : (graph.cyclesAmong components).Perm graph.cycles :=
    (List.mergeSort_perm sorted _).trans <|
      (List.perm_ext_iff_of_nodup distinct graph.cycles_ascending.nodup).mpr mem_iff
  exact perm.eq_of_pairwise' ascending (graph.cycles_ascending.imp le_of_lt)

/-- The number that is entered for a slot is the one of a cycle that lists it. -/
theorem exists_of_numbering {cycles : List (List Slot)} {number : Nat}
    (entered : Entries.get? (numbering cycles) slot = some number)
    : ∃ cycle, cycles[number]? = some cycle ∧ slot ∈ cycle := by
  rw [numbering, Entries.get?_insertAll, Entries.get?, List.lookup_nil, Option.or_none] at entered
  have member := List.mem_reverse.mp (Entries.mem_of_get? entered)
  obtain ⟨⟨cycle, index⟩, counted, made⟩ := List.mem_flatMap.mp member
  obtain ⟨other, listed, same⟩ := List.mem_map.mp made
  cases same
  exact ⟨cycle, List.mem_zipIdx_iff_getElem?.mp counted, listed⟩

/-- Each slot that a cycle lists has a number. -/
theorem isSome_numbering {cycles : List (List Slot)} (listed : cycle ∈ cycles)
    (member : slot ∈ cycle)
    : (Entries.get? (numbering cycles) slot).isSome = true := by
  obtain ⟨index, here⟩ := List.mem_iff_getElem?.mp listed
  have counted : (cycle, index) ∈ cycles.zipIdx := List.mem_zipIdx_iff_getElem?.mpr here
  have entry
      : (slot, index)
        ∈ cycles.zipIdx.flatMap fun entry => entry.1.map fun slot => (slot, entry.2) :=
    List.mem_flatMap.mpr ⟨_, counted, List.mem_map.mpr ⟨slot, member, rfl⟩⟩
  exact Entries.contains_insertAll [] entry

/-- The numbers lead each slot to its cycle. -/
theorem numberedCycle_eq (inside : graph.Inside) (slot : Slot)
    : numberedCycle graph.cycles slot = graph.cycleOf slot := by
  ext cycle
  rw [cycleOf_eq_some_iff_mem inside, numberedCycle, Option.bind_eq_some_iff]
  constructor
  · rintro ⟨number, entered, here⟩
    obtain ⟨found, there, member⟩ := exists_of_numbering entered
    cases Option.some.inj (here.symm.trans there)
    exact ⟨List.mem_of_getElem? here, member⟩
  · rintro ⟨listed, member⟩
    obtain ⟨number, entered⟩ := Option.isSome_iff_exists.mp (isSome_numbering listed member)
    obtain ⟨found, here, again⟩ := exists_of_numbering entered
    have first := (cycleOf_eq_some_iff_mem inside).mpr ⟨listed, member⟩
    have second := (cycleOf_eq_some_iff_mem inside).mpr ⟨List.mem_of_getElem? here, again⟩
    cases Option.some.inj (first.symm.trans second)
    exact ⟨number, entered, here⟩

-----------------------------------------------------------------------------------------
-- The graph of a registry
-----------------------------------------------------------------------------------------

variable {registry : Registry} {phase : Phase} {locate : Reference → Option Slot}

/-- A slot is linked to those that a dependency of its type leads to. -/
theorem links_build_iff
    : (build registry phase locate).Links slot target
      ↔ ∃ record,
          registry.get? slot = some record
          ∧ ∃ reference ∈ record.dependenciesOf phase, locate reference = some target := by
  simp only [Links, build, List.mem_eraseDups, List.mem_flatMap, edgesFrom, List.mem_filterMap,
    Option.map_eq_some_iff, Prod.exists, List.mem_zipIdx_iff_getElem?, Prod.mk.injEq]
  constructor
  · rintro ⟨record, _, found, reference, declared, _, leads, rfl, rfl⟩
    exact ⟨record, found, reference, declared, leads⟩
  · rintro ⟨record, found, reference, declared, leads⟩
    exact ⟨record, slot, found, reference, declared, target, leads, rfl, rfl⟩

/-- A graph that is built from look-ups into the registry stays inside it. -/
theorem inside_build
    (leadsInside : ∀ reference target, locate reference = some target → target < registry.size)
    : (build registry phase locate).Inside := by
  intro slot target link
  obtain ⟨record, found, reference, -, leads⟩ := links_build_iff.mp link
  exact ⟨Registry.lt_size_of_get? found, leadsInside reference target leads⟩

/-- In the graph of a registry there is one edge for each two slots of which the first one depends
on the second, however often. The cycles are exactly the largest sets of slots that all reach each
other and hold a way round, each of them once; they ascend and are listed in lexicographic order. A
slot has a cycle if and only if it is on a way round, and it is the one that lists it. The same
comes out from any list of the strongly connected components.
Witness: the edges are the dependencies of the registry, and the search finds what they lead to.
-/
theorem build_cycles (registry : Registry) (phase : Phase) (locate : Reference → Option Slot)
    (leadsInside : ∀ reference target, locate reference = some target → target < registry.size)
    : let graph := build registry phase locate
      (graph.edges.Nodup
        ∧ ∀ slot target,
            (slot, target) ∈ graph.edges
            ↔ ∃ record,
                registry.get? slot = some record
                ∧ ∃ reference ∈ record.dependenciesOf phase, locate reference = some target)
      ∧ (∀ members,
          graph.IsCycle members
          ↔ ∃! cycle, cycle ∈ graph.cycles ∧ members = {slot | slot ∈ cycle})
      ∧ (∀ cycle ∈ graph.cycles, cycle.Pairwise (· < ·))
      ∧ graph.cycles.Pairwise (· < ·)
      ∧ (∀ slot cycle, graph.cycleOf slot = some cycle ↔ cycle ∈ graph.cycles ∧ slot ∈ cycle)
      ∧ (∀ slot, graph.cycleOf slot = none ↔ ¬TransGen graph.Links slot slot)
      ∧ ∀ components,
          graph.AreComponents components
          → graph.cyclesAmong components = graph.cycles
            ∧ ∀ slot,
                numberedCycle (graph.cyclesAmong components) slot = graph.cycleOf slot := by
  intro graph
  have inside : graph.Inside := inside_build leadsInside
  refine ⟨⟨nodup_eraseDups _, fun _ _ => links_build_iff⟩, fun _ => isCycle_iff inside, ?_,
    graph.cycles_ascending, fun _ _ => cycleOf_eq_some_iff_mem inside,
    fun _ => cycleOf_eq_none_iff inside, ?_⟩
  · intro cycle listed
    obtain ⟨slot, found⟩ := (mem_cycles_iff inside).mp listed
    exact ((cycleOf_eq_some_iff inside).mp found).2.1
  · intro components are
    have same := are.cyclesAmong_eq inside
    refine ⟨same, fun slot => ?_⟩
    rw [same, numberedCycle_eq inside]

/-- A scalar type that is complete when the types with these identities are. -/
def linkedType (name : String) (synonyms : List Reference) (targets : List String)
    : TypeRecord :=
  TypeRecord.new (.scalar ⟨⟨⟨name⟩, some name, none, RuntimeType.object⟩⟩) synonyms
    (targets.map fun target => ⟨.schema ⟨target⟩, .completed⟩) Discovered.nothing

/-- Two types that wait for each other, one of them by two references, a type that waits for itself,
and one that waits for the first two and for a type that is not there.
-/
def entangled : Registry :=
  Registry.empty.applyAll
    [.register (linkedType "First" [.schema ⟨"Former"⟩] ["Second"]),
      .register (linkedType "Second" [] ["First", "Former"]),
      .register (linkedType "Third" [] ["Third"]),
      .register (linkedType "Fourth" [] ["Second", "Fifth", "First"])]

theorem entangled_cycles
    : let graph := build entangled .completed entangled.find
      let components := [[1, 0], [3], [2]]
      (∀ reference target, entangled.find reference = some target → target < entangled.size)
      ∧ graph.edges = [(0, 1), (1, 0), (2, 2), (3, 1), (3, 0)]
      ∧ graph.cycles = [[0, 1], [2]]
      ∧ graph.IsCycle {slot | slot ∈ [2]}
      ∧ graph.cycleOf 1 = some [0, 1]
      ∧ graph.cycleOf 3 = none
      ∧ graph.AreComponents components
      ∧ graph.cyclesAmong components = graph.cycles := by
  intro graph components
  have leadsInside (reference : Reference) (target : Slot)
      (leads : entangled.find reference = some target)
      : target < entangled.size :=
    (show entangled.IsBuilt from ⟨_, rfl⟩).bounded.find_lt leads
  have inside : graph.Inside := inside_build leadsInside
  have edges : graph.edges = [(0, 1), (1, 0), (2, 2), (3, 1), (3, 0)] := by decide +kernel
  have size : graph.size = 4 := by decide +kernel
  have same : graph = ⟨4, [(0, 1), (1, 0), (2, 2), (3, 1), (3, 0)]⟩ := by rw [← edges, ← size]
  have listed : graph.cycles = [[0, 1], [2]] := by
    rw [same]
    cbv
  have reached : [0, 1, 2, 3].map graph.descendants = [[1, 0], [0, 1], [2], [0, 1]] := by
    rw [same]
    cbv
  simp only [List.map_cons, List.map_nil, List.cons.injEq, and_true] at reached
  obtain ⟨first, second, third, fourth⟩ := reached
  have are : graph.AreComponents components := by
    have slots : graph.slots = [0, 1, 2, 3] := by
      rw [same]
      rfl
    refine ⟨by rw [slots]; decide, by decide, ?_⟩
    simp [components, slots, reflTransGen_links_iff inside, first, second, third, fourth]
  obtain ⟨-, isCycle_iff, -, -, cycleOf_iff, none_iff, among⟩ :=
    build_cycles entangled .completed entangled.find leadsInside
  refine ⟨leadsInside, by rw [same], listed, ?_, ?_, ?_, are, (among components are).1⟩
  · refine (isCycle_iff _).mpr ⟨[2], ⟨by rw [listed]; decide, rfl⟩, ?_⟩
    rintro cycle ⟨member, equal⟩
    have here : 2 ∈ {slot | slot ∈ cycle} := equal ▸ List.mem_singleton_self 2
    rw [listed, List.mem_cons, List.mem_singleton] at member
    rcases member with rfl | rfl
    · exact absurd here (by simp)
    · rfl
  · exact (cycleOf_iff 1 [0, 1]).mpr (by rw [listed]; decide)
  · rw [none_iff 3, ← mem_descendants_iff inside, fourth]
    decide

end SchemaGraph.DependencyGraph
