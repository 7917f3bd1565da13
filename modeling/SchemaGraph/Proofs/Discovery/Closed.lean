import Mathlib
import SchemaGraph.Proofs.Discovery.Ownership

/-! What discovery reaches.
Where discovery reports nothing, every reference that a seed or a registered type mentions was
described or could be found. A reference that was described can be found from then on, unless it
has a position and agrees with an alias that has none: such an alias is indexed for the position of
its type alone, and under a schema identity or a name not beside an opposite one.
-/

namespace SchemaGraph

/-- Everything that a registered type mentions: what it waits for, and then all references of the
structure.
-/
def TypeRecord.mentions (record : TypeRecord) : List Reference :=
  record.dependencies.map Dependency.reference ++ record.definition.references

/-- A kind fits no position that is opposed to its own one. -/
theorem Kind.fits_of_not_compatible {kind : Kind} {position : Position}
    (h : kind.position.compatible position = false)
    : kind.fits position = false := by
  revert h
  cases kind <;> cases position <;> decide

namespace Registry

variable {registry before after : Registry} {slot : Slot} {record : TypeRecord}
  {reference : Reference}

/-- A type has an alias without a position that agrees with the reference, which has one. The alias
does not lead from the reference to the type: its kind does not fit the position, or the alias came
behind a reference to the same in the opposite position.
-/
def Hidden (registry : Registry) (reference : Reference) : Prop :=
  reference.position ≠ .any
  ∧ ∃ record ∈ registry.records,
      ∃ synonym ∈ record.aliases,
        synonym.position = .any
        ∧ synonym.agrees reference = true
        ∧ (isKey reference = false → record.kind.fits reference.position = false)
        ∧ (isKey reference = true
          → ∃ other ∈ registry.records,
              ∃ claim ∈ other.references,
                claim.agrees synonym = true ∧ claim.agrees reference = false)

/-- The reference is a name, which discovery passes over, or it is found, or it is hidden. -/
def Reached (registry : Registry) (reference : Reference) : Prop :=
  reference.isName = true ∨ (registry.find reference).isSome = true ∨ registry.Hidden reference

-----------------------------------------------------------------------------------------
-- Registries that grow
-----------------------------------------------------------------------------------------

/-- What discovery changes: types are added, and types get further aliases. -/
structure Enlarged (before after : Registry) : Prop
    extends Grows before after where
  records
    : ∀ record ∈ before.records,
        ∃ later ∈ after.records,
          later.definition = record.definition
          ∧ later.primary = record.primary
          ∧ ∀ synonym ∈ record.aliases, synonym ∈ later.aliases

theorem Hidden.enlarged (hidden : before.Hidden reference) (enlarged : Enlarged before after)
    : after.Hidden reference := by
  obtain ⟨positioned, record, member, synonym, carried, bare, agrees, unfit, claimed⟩ := hidden
  obtain ⟨later, laterMember, definition, -, aliases⟩ := enlarged.records record member
  refine ⟨positioned, later, laterMember, synonym, aliases synonym carried, bare, agrees, ?_, ?_⟩
  · simpa only [TypeRecord.kind, definition] using unfit
  · intro key
    obtain ⟨other, otherMember, claim, claims, first, opposed⟩ := claimed key
    obtain ⟨others, othersMember, -, primary, more⟩ := enlarged.records other otherMember
    refine ⟨others, othersMember, claim, ?_, first, opposed⟩
    rcases List.mem_cons.mp claims with rfl | declared
    · exact primary ▸ List.mem_cons_self
    · exact List.mem_cons_of_mem _ (more claim declared)

theorem Reached.enlarged (reached : before.Reached reference) (enlarged : Enlarged before after)
    : after.Reached reference := by
  rcases reached with name | found | hidden
  · exact Or.inl name
  · exact Or.inr (Or.inl (enlarged.toGrows.isSome_find found))
  · exact Or.inr (Or.inr (hidden.enlarged enlarged))

-----------------------------------------------------------------------------------------
-- References that agree with one of an indexed type
-----------------------------------------------------------------------------------------

/-- A reference that agrees with one of an indexed type is reached.
Witness: where it leads nowhere, it agrees with an alias without a position. Under a schema identity
or a name, the key that stands for the alias does not agree with it.
-/
theorem Indexed.reached (indexed : registry.Indexed slot record) (gathered : registry.Gathered)
    (found : registry.get? slot = some record)
    (listed : reference.isIn record.references = true)
    : registry.Reached reference := by
  obtain ⟨synonym, member, agrees⟩ := Reference.isIn_iff.mp listed
  cases leads : registry.find reference with
  | some target => exact Or.inr (Or.inl (by rw [leads]; rfl))
  | none =>
      obtain ⟨bare, positioned, opposed⟩ := indexed.opposed_of_find member agrees leads
      have sameKind : isKey synonym = isKey reference := by
        simp only [isKey, (Reference.agrees_iff.mp agrees).2.2]
      have declared : synonym ∈ record.aliases := by
        refine (List.mem_cons.mp member).resolve_left ?_
        rintro rfl
        obtain ⟨key, own⟩ := gathered.found found
        rw [find_of_isKey (sameKind ▸ key)] at leads
        exact not_agrees_of_findKey leads own agrees
      refine Or.inr (Or.inr ⟨positioned, record, mem_records_of_get? found, synonym, declared, bare,
        agrees, fun noKey => Kind.fits_of_not_compatible (opposed noKey), ?_⟩)
      intro key
      rw [find_of_isKey key] at leads
      obtain ⟨holder, first⟩ :=
        Option.isSome_iff_exists.mp (indexed.keys synonym member (sameKind.trans key))
      obtain ⟨claim, inside, claims, -⟩ := exists_mem_of_findKey first
      obtain ⟨other, there, carried⟩ := gathered.carried claim inside
      have unclaimed := not_agrees_of_findKey leads inside
      exact ⟨other, mem_records_of_get? there, claim.1, carried, claims, by simpa using unclaimed⟩

-----------------------------------------------------------------------------------------
-- Steps of discovery
-----------------------------------------------------------------------------------------

/-- A record enlarges the registry over an earlier record of its type, or in a slot of its own. -/
theorem Stores.enlarged (stores : Stores before slot record after)
    (replaces
      : ∀ earlier,
          before.get? slot = some earlier
          → record.definition = earlier.definition
            ∧ record.primary = earlier.primary
            ∧ ∀ synonym ∈ earlier.aliases, synonym ∈ record.aliases)
    : Enlarged before after := by
  refine ⟨stores.toGrows, ?_⟩
  intro earlier member
  obtain ⟨other, here⟩ := exists_get?_of_mem member
  by_cases own : slot = other
  · subst own
    exact ⟨record, mem_records_of_get? stores.self, replaces earlier here⟩
  · have kept := (stores.others other own).trans here
    exact ⟨earlier, mem_records_of_get? kept, rfl, rfl, fun _ declared => declared⟩

-----------------------------------------------------------------------------------------
-- The walk
-----------------------------------------------------------------------------------------

/-- What holds between two steps of discovery: the references that were taken from the queue are
reached, and what a registered type mentions is reached or still in the queue.
-/
structure Frontier (registry : Registry) (seen queue : List Reference) : Prop where
  gathered : registry.Gathered
  seen : ∀ reference ∈ seen, registry.Reached reference
  mentioned
    : ∀ record ∈ registry.records,
        ∀ reference ∈ record.mentions, reference ∈ queue ∨ registry.Reached reference

/-- A step that reaches the first reference of the queue moves the frontier on. What a new type
mentions joins the queue.
Witness: what a type mentions was in the queue or is reached, and only the first of the queue has
left it.
-/
theorem Frontier.step {seen rest more : List Reference}
    (frontier : Frontier before seen (reference :: rest)) (gathered : after.Gathered)
    (enlarged : Enlarged before after) (reached : after.Reached reference)
    (mentioned
      : ∀ record ∈ after.records,
          (∃ earlier ∈ before.records, record.mentions = earlier.mentions)
          ∨ ∀ mention ∈ record.mentions, mention ∈ more)
    : Frontier after (reference :: seen) (rest ++ more) := by
  refine ⟨gathered, ?_, ?_⟩
  · intro other member
    rcases List.mem_cons.mp member with rfl | earlier
    · exact reached
    · exact (frontier.seen other earlier).enlarged enlarged
  · intro record member mention inRecord
    rcases mentioned record member with ⟨earlier, earlierMember, same⟩ | joined
    · rcases frontier.mentioned earlier earlierMember mention (same ▸ inRecord) with
        queued | known
      · rcases List.mem_cons.mp queued with rfl | later
        · exact Or.inr reached
        · exact Or.inl (List.mem_append_left more later)
      · exact Or.inr (known.enlarged enlarged)
    · exact Or.inl (List.mem_append_right rest (joined mention inRecord))

theorem Frontier.skip {seen rest : List Reference}
    (frontier : Frontier registry seen (reference :: rest))
    (reached : registry.Reached reference)
    : Frontier registry (reference :: seen) rest := by
  have enlarged : Enlarged registry registry :=
    ⟨.refl registry, fun record member => ⟨record, member, rfl, rfl, fun _ declared => declared⟩⟩
  have further : Frontier registry (reference :: seen) (rest ++ []) :=
    frontier.step frontier.gathered enlarged reached fun record member =>
      Or.inl ⟨record, member, rfl⟩
  rwa [List.append_nil] at further

/-- A described type that is registered already is reached by the reference from now on.
Witness: the record grows by the reference alone, so what was reached is reached still.
-/
theorem Frontier.again {seen rest : List Reference}
    (frontier : Frontier registry seen (reference :: rest))
    (found : registry.get? slot = some record)
    : Frontier (registry.register (record.withReference reference)).1 (reference :: seen)
        rest := by
  have gathered := frontier.gathered.register_again found reference
  have stores := frontier.gathered.stores_again found reference
  have listed : reference.isIn (record.withReference reference).references = true := by
    rw [TypeRecord.references_withReference]
    exact Reference.absorbing_addTo.gains record.references reference
  have enlarged : Enlarged registry (registry.register (record.withReference reference)).1 := by
    refine stores.enlarged ?_
    intro earlier here
    cases Option.some.inj (found.symm.trans here)
    exact ⟨record.definition_withReference reference, record.primary_withReference reference,
      fun synonym => TypeRecord.mem_aliases_withReference_of_mem reference⟩
  have mentioned
      : ∀ later ∈ (registry.register (record.withReference reference)).1.records,
          ∃ earlier ∈ registry.records, later.mentions = earlier.mentions := by
    refine stores.forall_records (fun earlier member => ⟨earlier, member, rfl⟩) ?_
    exact ⟨record, mem_records_of_get? found, by simp [TypeRecord.mentions]⟩
  have further
      : Frontier (registry.register (record.withReference reference)).1 (reference :: seen)
          (rest ++ []) :=
    frontier.step gathered enlarged (stores.indexed.reached gathered stores.self listed)
      fun later member => Or.inl (mentioned later member)
  rwa [List.append_nil] at further

variable {descriptor : Descriptor}

/-- What the record of a descriptor mentions, the descriptor mentions. -/
theorem mem_mentions_toRecord {mention : Reference}
    (h : mention ∈ (descriptor.toRecord reference).mentions)
    : mention ∈ descriptor.mentions := by
  rw [TypeRecord.mentions, Descriptor.toRecord, TypeRecord.definition_new,
    TypeRecord.dependencies_new] at h
  rcases List.mem_append.mp h with awaited | structural
  · obtain ⟨dependency, member, rfl⟩ := List.mem_map.mp awaited
    have declared := (Dependency.mem_addAll member).resolve_left List.not_mem_nil
    exact List.mem_append_left _ (List.mem_map_of_mem declared)
  · exact List.mem_append_right _ structural

/-- A described type that is not registered yet is found by its canonical reference and reached by
the reference.
-/
theorem Frontier.new {seen rest : List Reference}
    (frontier : Frontier registry seen (reference :: rest))
    (unknown : registry.findKey descriptor.schemaReference = none)
    : Frontier (registry.register (descriptor.toRecord reference)).1 (reference :: seen)
        (rest ++ descriptor.mentions) := by
  have gathered := frontier.gathered.register_new unknown reference
  have stores := stores_toRecord unknown reference
  have listed : reference.isIn (descriptor.toRecord reference).references = true := by
    simp only [Descriptor.toRecord, TypeRecord.references_new]
    exact Reference.isIn_addAll_of_mem (by simp)
  have enlarged : Enlarged registry (registry.register (descriptor.toRecord reference)).1 := by
    refine stores.enlarged ?_
    intro earlier here
    exact absurd (lt_size_of_get? here) (Nat.lt_irrefl registry.size)
  exact frontier.step gathered enlarged (stores.indexed.reached gathered stores.self listed)
    (stores.forall_records (fun earlier member => Or.inl ⟨earlier, member, rfl⟩)
      (Or.inr fun mention => mem_mentions_toRecord))

theorem isSome_find_of_denotesUsable (h : registry.denotesUsable reference = true)
    : (registry.find reference).isSome = true := by
  unfold denotesUsable at h
  cases leads : registry.find reference with
  | some slot => rfl
  | none => simp [leads] at h

/-- At the end of a walk without errors everything is reached that was taken from the queue, or was
in it, or is mentioned by a registered type.
Witness: induction on the walk, with the frontier as its invariant.
-/
theorem Frontier.discoverFrom {catalog : Catalog} {seen queue : List Reference}
    (frontier : Frontier registry seen queue)
    (clean : (discoverFrom catalog registry seen queue).errors = [])
    : let final := (discoverFrom catalog registry seen queue).registry
      (∀ reference ∈ seen ++ queue, final.Reached reference)
      ∧ ∀ record ∈ final.records, ∀ reference ∈ record.mentions, final.Reached reference := by
  fun_induction Registry.discoverFrom catalog registry seen queue with
  | case1 registry seen =>
      refine ⟨fun reference member => frontier.seen reference (by simpa using member), ?_⟩
      intro record member reference mentioned
      exact (frontier.mentioned record member reference mentioned).resolve_left
        List.not_mem_nil
  | case2 registry seen reference rest skip ih =>
      have known : reference.isName = true ∨ reference ∈ seen := by simpa using skip
      have reached : registry.Reached reference := known.elim Or.inl (frontier.seen reference)
      have further := frontier.skip reached
      obtain ⟨taken, mentioned⟩ :=
        ih ⟨further.gathered, frontier.seen, further.mentioned⟩ clean
      refine ⟨?_, mentioned⟩
      intro other member
      rcases List.mem_cons.mp (List.perm_middle.mem_iff.mp member) with rfl | rest
      · exact known.elim Or.inl fun earlier => taken other (List.mem_append_left _ earlier)
      · exact taken other rest
  | case3 registry seen reference rest fresh usable ih =>
      have reached : registry.Reached reference :=
        Or.inr (Or.inl (isSome_find_of_denotesUsable usable))
      obtain ⟨taken, mentioned⟩ := ih (frontier.skip reached) clean
      exact ⟨fun other member => taken other (by simpa using mem_after_step [] member), mentioned⟩
  | case4 registry seen reference rest fresh unusable refused ih => cases clean
  | case5 registry seen reference rest fresh unusable descriptor described slot known record
      found ih =>
      obtain ⟨taken, mentioned⟩ := ih (frontier.again found) clean
      exact ⟨fun other member => taken other (by simpa using mem_after_step [] member), mentioned⟩
  | case6 registry seen reference rest fresh unusable descriptor described slot known found ih =>
      obtain ⟨key, inside, -, rfl⟩ := exists_mem_of_findKey known
      obtain ⟨owner, here, -⟩ := frontier.gathered.carried key inside
      rw [found] at here
      cases here
  | case7 registry seen reference rest fresh unusable descriptor described unknown ih =>
      obtain ⟨taken, mentioned⟩ := ih (frontier.new unknown) clean
      exact ⟨fun other member => taken other (mem_after_step descriptor.mentions member), mentioned⟩

/-- Whatever the catalogue and the seeds are: where discovery into an empty registry reports
nothing, every reference but a name that a seed or a registered type mentions is found, unless it is
hidden.
Witness: at the end the queue is empty, so that all that is mentioned is reached.
-/
theorem discover_reached {catalog : Catalog} {seeds : List Reference}
    (clean : (empty.discover catalog seeds).errors = [])
    : let registry := (empty.discover catalog seeds).registry
      ∀ reference ∈ seeds ++ registry.records.flatMap TypeRecord.mentions,
        reference.isName = false
        → (registry.find reference).isSome = true ∨ registry.Hidden reference := by
  have start : Frontier empty [] seeds :=
    ⟨gathered_empty, fun _ member => absurd member List.not_mem_nil,
      fun _ member => absurd member List.not_mem_nil⟩
  obtain ⟨taken, mentioned⟩ := start.discoverFrom clean
  intro registry reference member noName
  have reached : registry.Reached reference := by
    rcases List.mem_append.mp member with seed | inType
    · exact taken reference seed
    · obtain ⟨record, recordMember, inRecord⟩ := List.mem_flatMap.mp inType
      exact mentioned record recordMember reference inRecord
  rcases reached with name | reached
  · rw [noName] at name
    cases name
  · exact reached

-----------------------------------------------------------------------------------------
-- A hidden reference
-----------------------------------------------------------------------------------------

namespace Profiles

/-- The schema identity that both types of the catalogue can be found by. -/
def profile (position : Position) : Reference :=
  (Reference.schema ⟨"Profile"⟩).withPosition position

def inputForm : Definition :=
  .inputObject ⟨⟨⟨"ProfileInput"⟩, none, none, RuntimeType.object⟩, []⟩

def person : Definition :=
  .object
    {
      header := ⟨⟨"Person"⟩, none, none, RuntimeType.object⟩
      fields := []
      interfaces := []
      implemented := []
      isOfType := none
      isQueryType := false
    }

/-- An input object type that is a profile as an input, and an object type that is one anywhere. -/
def catalog : Catalog :=
  [
    { Descriptor.ofDefinition inputForm with aliases := [profile .input] },
    { Descriptor.ofDefinition person with aliases := [profile .any] }
  ]

def seeds : List Reference :=
  [.schema ⟨"ProfileInput"⟩, profile .output]

end Profiles

/-- What the walk comes to: no errors, and nothing is found by the last seed. -/
theorem Profiles.discovered
    : let discovery := empty.discover Profiles.catalog Profiles.seeds
      (discovery.errors, discovery.registry.find (Profiles.profile .output)) = ([], none) := by
  cbv

theorem Profiles.errors_discover
    : (empty.discover Profiles.catalog Profiles.seeds).errors = [] :=
  congrArg Prod.fst Profiles.discovered

theorem Profiles.find_profile_output
    : (empty.discover Profiles.catalog Profiles.seeds).registry.find (Profiles.profile .output)
      = none :=
  congrArg Prod.snd Profiles.discovered

/-- Discovery reports nothing, although the object type is not found by the reference that it was
described by.
-/
theorem profiles_not_found
    : let discovery := empty.discover Profiles.catalog Profiles.seeds
      discovery.errors = []
      ∧ ¬∀ reference ∈
            Profiles.seeds ++ discovery.registry.records.flatMap TypeRecord.mentions,
          reference.isName = false → (discovery.registry.find reference).isSome = true := by
  refine ⟨Profiles.errors_discover, ?_⟩
  intro closed
  have found := closed (Profiles.profile .output) (by simp [Profiles.seeds]) rfl
  rw [Profiles.find_profile_output] at found
  cases found

/-- The reference has a position, and the object type an alias for it that has none. -/
theorem profiles_hidden
    : let discovery := empty.discover Profiles.catalog Profiles.seeds
      discovery.errors = [] ∧ discovery.registry.Hidden (Profiles.profile .output) := by
  have seed : Profiles.profile .output ∈ Profiles.seeds := by simp [Profiles.seeds]
  have reached := discover_reached Profiles.errors_discover _ (List.mem_append_left _ seed) rfl
  rw [Profiles.find_profile_output] at reached
  exact ⟨Profiles.errors_discover, reached.resolve_left (by simp)⟩

end Registry
end SchemaGraph
