import SchemaGraph.Proofs.Completion.Idempotence

/-! What a type waits for once its extensions are merged into it.
Dependencies are only added: those of an extension that lead to something the base does not wait
for. These are then compared once more, as they are written, and there an open position agrees with
every other one. So a dependency may be left out for another one that is written alike and leads
elsewhere. One that leads to the base itself is added like any other.
-/

namespace SchemaGraph

open Registry

variable {dependency : Dependency} {dependencies : List Dependency}

/-- Another dependency is written alike, for another position. -/
def Dependency.Shadowed (dependency : Dependency) (dependencies : List Dependency) : Prop :=
  ∃ other ∈ dependencies,
    other.agrees dependency = true ∧ other.reference.position ≠ dependency.reference.position

instance (dependency : Dependency) (dependencies : List Dependency)
    : Decidable (dependency.Shadowed dependencies) :=
  inferInstanceAs (Decidable (∃ other ∈ dependencies, _ ∧ _))

theorem Dependency.mem_or_shadowed (isIn : dependency.isIn dependencies = true)
    : dependency ∈ dependencies ∨ dependency.Shadowed dependencies := by
  obtain ⟨other, member, agrees⟩ := List.any_eq_true.mp isIn
  by_cases samePosition : other.reference.position = dependency.reference.position
  · simp only [Dependency.agrees, Bool.and_eq_true, decide_eq_true_eq] at agrees
    have sameReference := Reference.eq_of_agrees agrees.1 samePosition
    have same : other = dependency := by
      cases other
      cases dependency
      simp_all
    exact Or.inl (same ▸ member)
  · exact Or.inr ⟨other, member, agrees, samePosition⟩

namespace Registry

variable {registry : Registry} {phase : Phase} {canonical : Reference}

/-- One of the dependencies is for the phase and leads to the canonical reference. -/
def Awaits (registry : Registry) (dependencies : List Dependency) (phase : Phase)
    (canonical : Reference)
    : Prop :=
  ∃ dependency ∈ dependencies,
    dependency.phase = phase
    ∧ (registry.canonicalOrSelf dependency.reference).agrees canonical = true

instance (registry : Registry) (dependencies : List Dependency) (phase : Phase)
    (canonical : Reference)
    : Decidable (registry.Awaits dependencies phase canonical) :=
  inferInstanceAs (Decidable (∃ dependency ∈ dependencies, _ ∧ _))

/-- The dependencies lead to what the dependency leads to, in its phase. -/
abbrev AwaitsAs (registry : Registry) (dependencies : List Dependency) (dependency : Dependency)
    : Prop :=
  registry.Awaits dependencies dependency.phase (registry.canonicalOrSelf dependency.reference)

theorem awaitsAs_of_mem (member : dependency ∈ dependencies)
    : registry.AwaitsAs dependencies dependency :=
  ⟨dependency, member, rfl, Reference.agrees_refl _⟩

theorem awaitsAs_iff
    : registry.AwaitsAs dependencies dependency
      ↔ (Merging.canonicalDependency registry dependency).isIn
          (dependencies.map (Merging.canonicalDependency registry)) = true := by
  simp only [Awaits, Dependency.isIn, Dependency.agrees, List.any_map, List.any_eq_true,
    Function.comp_apply, Bool.and_eq_true, decide_eq_true_eq]
  simp only [Merging.canonicalDependency, and_comm]

/-- What several dependencies lead to, one of those that they come from leads to. -/
theorem Awaits.of_origins (awaits : registry.Awaits dependencies phase canonical)
    {base extension : List Dependency}
    (origins : ∀ dependency ∈ dependencies, dependency ∈ base ∨ dependency ∈ extension)
    : registry.Awaits base phase canonical ∨ registry.Awaits extension phase canonical := by
  obtain ⟨dependency, member, leads⟩ := awaits
  exact (origins dependency member).imp (fun own => ⟨dependency, own, leads⟩)
    fun added => ⟨dependency, added, leads⟩

end Registry

namespace Merging

variable {registry : Registry} {base extension : TypeRecord}

-----------------------------------------------------------------------------------------
-- The dependencies of an extension
-----------------------------------------------------------------------------------------

/-- The merged dependencies go on where those of the base end. What a dependency of the extension
leads to, they lead to as well, unless it is shadowed.
-/
structure TakesUp (registry : Registry) (base extension merged : List Dependency) : Prop where
  goesOn : base <+: merged
  takes
    : ∀ dependency ∈ extension,
        registry.AwaitsAs merged dependency ∨ dependency.Shadowed merged

theorem DependsAs.takesUp {merged : List Dependency}
    (dependsAs : DependsAs registry merged extension) (goesOn : base.dependencies <+: merged)
    : TakesUp registry base.dependencies extension.dependencies merged := by
  refine ⟨goesOn, fun dependency declared => ?_⟩
  rcases dependsAs dependency declared with known | own
  · exact Or.inl (awaitsAs_iff.mpr known)
  · exact (Dependency.mem_or_shadowed own).imp_left awaitsAs_of_mem

theorem takesUp_mergedRecord (registry : Registry) (base extension : TypeRecord)
    : TakesUp registry base.dependencies extension.dependencies
        (mergedRecord registry base extension).dependencies :=
  ((absorbing_mergedDependencies registry).gains base.dependencies extension).takesUp
    (Dependency.prefix_addAll _ _)

/-- Each dependency of a merged type is one of the base or of the extension. -/
theorem mem_dependencies_mergedRecord
    (member : dependency ∈ (mergedRecord registry base extension).dependencies)
    : dependency ∈ base.dependencies ∨ dependency ∈ extension.dependencies :=
  (Dependency.mem_addAll member).imp_right List.mem_of_mem_filter

/-- With several extensions, the dependencies of each are taken up. -/
theorem takesUp_extended (registry : Registry) (base : TypeRecord) {additions : List Addition}
    {addition : Addition} (member : addition ∈ additions)
    : TakesUp registry base.dependencies addition.extension.dependencies
        (extended registry additions addition.baseSlot base).dependencies := by
  rw [extended, foldl_mergedRecord]
  have own
      : addition.extension
        ∈ (additions.filter fun other => other.baseSlot = addition.baseSlot).map
            Addition.extension :=
    List.mem_map_of_mem (List.mem_filter.mpr ⟨member, by simp⟩)
  refine ((absorbing_mergedDependencies registry).gains_foldl _ own).takesUp ?_
  exact prefix_foldl id (fun _ _ => Dependency.prefix_addAll _ _) _ _

/-- Merging an extension keeps every dependency of the base, and every dependency of the extension
by what it leads to, except for those that are shadowed. So does a run with all extensions that are
merged into a base, by the look-ups before it.
Witness: all that is merged into a base is there at the end, and none of it is taken back.
-/
theorem run_takesUp (merging : Merging) (policy : UnmatchedPolicy)
    : (∀ registry base extension,
        TakesUp registry base.dependencies extension.dependencies
          (mergedRecord registry base extension).dependencies)
      ∧ (merging.registry.IsBuilt
        → merging.registry.Anchored
        → ∀ slot base,
            merging.registry.get? slot = some base
            → ∃ final,
                (run policy merging).registry.get? slot = some final
                ∧ ∀ merge ∈ merges merging.registry,
                    merge.baseSlot = slot
                    → TakesUp merging.registry base.dependencies merge.extension.dependencies
                        final.dependencies) := by
  refine ⟨takesUp_mergedRecord, fun built anchored slot base found => ?_⟩
  have stored := get?_run_merges anchored built.covered policy slot
  rw [found, Option.map_some] at stored
  refine ⟨_, stored, fun merge member into => ?_⟩
  subst into
  exact takesUp_extended merging.registry base (List.mem_map_of_mem member)

end Merging

namespace Ratings

def rating : RuntimeType :=
  .named "Rating"

/-- The type for results and the type for inputs that have the host type, and an album that waits
for the host type without a position, with an extension that waits for more.
-/
def registry (awaited : List Dependency) : Registry :=
  Registry.empty.applyAll
    [
      .register
        (TypeRecord.new (.object ⟨⟨⟨"Rating"⟩, none, none, rating⟩, [], [], [], none, false⟩) [] []
          .nothing),
      .register
        (TypeRecord.new (.inputObject ⟨⟨⟨"RatingInput"⟩, none, none, rating⟩, []⟩) [] [] .nothing),
      .register
        (TypeRecord.new (Albums.album "Album" "title" (.schema ⟨"Text"⟩)) []
          [⟨.runtime rating .any, .completed⟩] .nothing),
      .register
        (TypeRecord.new (.extension (Albums.album "Credits" "artist" (.schema ⟨"Text"⟩))) []
          awaited .nothing),
      .registerName 2,
      .rebuild
    ]

def merging (awaited : List Dependency) : Merging :=
  ⟨registry awaited, [], [], [], 0, 0⟩

/-- The type for results by its canonical reference, and the type for inputs. -/
def canonically : List Dependency :=
  [⟨.schema ⟨"Rating"⟩, .completed⟩, ⟨.schema ⟨"RatingInput"⟩, .completed⟩]

/-- The type for inputs, by the host type that the base waits for. -/
def byPosition : List Dependency :=
  [⟨.runtime rating .input, .completed⟩]

/-- The album itself, by its name. -/
def itself : List Dependency :=
  [⟨.named "Album" .any, .completed⟩]

end Ratings

namespace Merging

variable {registry : Registry}

theorem ratings_takesUp
    : let start := (Ratings.merging Ratings.canonically).registry
      let done := (run .report (Ratings.merging Ratings.canonically)).registry
      start.IsBuilt
      ∧ start.Anchored
      ∧ (merges start).map (fun merge => (merge.baseSlot, merge.slot)) = [(2, 3)]
      ∧ (done.get? 2).map TypeRecord.dependencies
        = some [⟨.runtime Ratings.rating .any, .completed⟩, ⟨.schema ⟨"RatingInput"⟩, .completed⟩]
      ∧ ∃ final,
          done.get? 2 = some final
          ∧ ∀ merge ∈ merges start,
              merge.baseSlot = 2
              → TakesUp start [⟨.runtime Ratings.rating .any, .completed⟩]
                  merge.extension.dependencies final.dependencies := by
  have built : (Ratings.merging Ratings.canonically).registry.IsBuilt := ⟨_, rfl⟩
  have anchored : (Ratings.merging Ratings.canonically).registry.Anchored :=
    ⟨by decide +kernel, by decide +kernel, by decide +kernel⟩
  exact ⟨built, anchored, by decide +kernel, by decide +kernel,
    (run_takesUp (Ratings.merging Ratings.canonically) .report).2 built anchored 2 _ rfl⟩

/-- The extension waits for the type for inputs, and the merged album does not. -/
theorem ratings_byPosition_lost
    : let start := (Ratings.merging Ratings.byPosition).registry
      let done := (run .report (Ratings.merging Ratings.byPosition)).registry
      start.IsBuilt
      ∧ start.Anchored
      ∧ start.canonicalOrSelf (.runtime Ratings.rating .any) = .schema ⟨"Rating"⟩
      ∧ start.canonicalOrSelf (.runtime Ratings.rating .input) = .schema ⟨"RatingInput"⟩
      ∧ (merges start).map (fun merge => (merge.baseSlot, merge.slot)) = [(2, 3)]
      ∧ (done.get? 2).map TypeRecord.dependencies
        = some [⟨.runtime Ratings.rating .any, .completed⟩]
      ∧ (∀ dependency ∈ Ratings.byPosition,
          dependency.Shadowed [⟨.runtime Ratings.rating .any, .completed⟩])
      ∧ ¬∀ merge ∈ merges start,
          ∀ final ∈ done.get? merge.baseSlot,
            ∀ dependency ∈ merge.extension.dependencies,
              start.AwaitsAs final.dependencies dependency :=
  ⟨⟨_, rfl⟩, ⟨by decide +kernel, by decide +kernel, by decide +kernel⟩, by decide +kernel,
    by decide +kernel, by decide +kernel, by decide +kernel, by decide, by decide +kernel⟩

-----------------------------------------------------------------------------------------
-- Types that wait for themselves
-----------------------------------------------------------------------------------------

/-- What merging an extension keeps of its base, a run keeps of all types. -/
theorem Traced.forall_records {holds : TypeRecord → Prop} {merges : List Merge}
    (traced : Traced registry merges)
    (merged
      : ∀ merge ∈ merges,
          ∀ registry,
            holds merge.base → holds (mergedRecord registry merge.base merge.extension))
    (start : ∀ record ∈ registry.records, holds record)
    : ∀ record ∈ (merges.foldl store registry).records, holds record := by
  induction merges generalizing registry with
  | nil => exact start
  | cons merge rest ih =>
      obtain ⟨found, -, -, later⟩ := traced
      have further := fun other member => merged other (List.mem_cons_of_mem merge member)
      have own := merged merge List.mem_cons_self registry (start _ (mem_records_of_get? found))
      exact ih later further (forall_records_register start own)

/-- If neither a type nor an extension that is merged into it waits for the type, it does not wait
for itself after a run. That is so by the look-ups before the run, and where every type is found by
its canonical reference and rebuilding moves nothing, by those after it.
Witness: each dependency of a merged type is one of its own or of an extension, so none of them is
new.
-/
theorem run_not_awaits_itself {merging : Merging} (policy : UnmatchedPolicy) (phase : Phase)
    (canonical : Reference)
    (bases
      : ∀ record ∈ merging.registry.records,
          record.primary = canonical
          → ¬merging.registry.Awaits record.dependencies phase canonical)
    (extensions
      : ∀ merge ∈ merges merging.registry,
          merge.base.primary = canonical
          → ¬merging.registry.Awaits merge.extension.dependencies phase canonical)
    : ∀ record ∈ (run policy merging).registry.records,
        record.primary = canonical
        → ¬merging.registry.Awaits record.dependencies phase canonical
          ∧ (merging.registry.Steady
            → ¬(run policy merging).registry.Awaits record.dependencies phase canonical) := by
  intro record member own
  have alone : ¬merging.registry.Awaits record.dependencies phase canonical := by
    rw [registry_run, records_rebuild] at member
    refine (traced_merges merging.registry).forall_records ?_ bases record member own
    intro merge listed registry before primary
    have same : merge.base.primary = canonical :=
      primary ▸ (TypeRecord.primary_congr
        (references_congr (standing_mergedRecord registry merge.base merge.extension))).symm
    intro awaits
    rcases awaits.of_origins fun _ => mem_dependencies_mergedRecord with base | extension
    · exact before same base
    · exact extensions merge listed same extension
  refine ⟨alone, fun steady => ?_⟩
  rwa [Awaits, canonicalOrSelf_congr (keeps_run steady policy).tracks]

theorem ratings_not_await_themselves
    : let start := (Ratings.merging Ratings.canonically).registry
      let done := (run .report (Ratings.merging Ratings.canonically)).registry
      start.Steady
      ∧ (merges start).map (fun merge => (merge.baseSlot, merge.slot)) = [(2, 3)]
      ∧ ∀ record ∈ done.records,
          record.primary = .schema ⟨"Album"⟩
          → ¬start.Awaits record.dependencies .completed (.schema ⟨"Album"⟩)
            ∧ ¬done.Awaits record.dependencies .completed (.schema ⟨"Album"⟩) := by
  have steady : (Ratings.merging Ratings.canonically).registry.Steady :=
    steady_rebuild ⟨by decide +kernel, by decide +kernel, by decide +kernel⟩ (by decide +kernel)
  refine ⟨steady, by decide +kernel, fun record member own => ?_⟩
  have apart :=
    run_not_awaits_itself .report .completed _ (by decide +kernel) (by decide +kernel) record member
      own
  exact ⟨apart.1, apart.2 steady⟩

/-- The album takes over that the extension waits for it. -/
theorem ratings_itself_awaited
    : let start := (Ratings.merging Ratings.itself).registry
      let done := (run .report (Ratings.merging Ratings.itself)).registry
      start.Steady
      ∧ (merges start).map (fun merge => (merge.baseSlot, merge.slot)) = [(2, 3)]
      ∧ (∀ base ∈ start.get? 2,
          ¬start.Awaits base.dependencies .completed base.primary)
      ∧ ¬∀ final ∈ done.get? 2,
          ¬done.Awaits final.dependencies .completed final.primary :=
  ⟨steady_rebuild ⟨by decide +kernel, by decide +kernel, by decide +kernel⟩ (by decide +kernel),
    by decide +kernel, by decide +kernel, by decide +kernel⟩

end Merging
end SchemaGraph
