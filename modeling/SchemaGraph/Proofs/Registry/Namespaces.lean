import SchemaGraph.Proofs.Data.Insertion
import SchemaGraph.Proofs.Registry.Names
import SchemaGraph.Proofs.Registry.Permanence

/-! Names of types and of directives.
Both are held in one index, the names of directives behind a sign. In a rebuilt index every name
leads to a type that has it. No more than the sign sets the names apart: a name that begins with it
is that of a type or, without the sign, that of a directive.
-/

namespace SchemaGraph.Registry

variable {registry : Registry} {slot : Slot} {name : String}

-----------------------------------------------------------------------------------------
-- Keys that are held once
-----------------------------------------------------------------------------------------

/-- No key of a name is held twice. -/
def NamesDistinct (registry : Registry) : Prop :=
  (Entries.keys registry.byName).Nodup

theorem NamesDistinct.apply (distinct : registry.NamesDistinct) (change : Change)
    : (registry.apply change).NamesDistinct := by
  cases change with
  | register record =>
      rw [Registry.apply, NamesDistinct, byName_register]
      exact distinct
  | registerName slot =>
      simp only [Registry.apply]
      split
      · next named done =>
          rcases registerName_cases done with rfl | ⟨record, key, -, -, -, rfl⟩
          · exact distinct
          · exact Entries.nodup_keys_insert distinct
      · exact distinct
  | rebuild => exact distinct.sublist (List.filter_sublist.map Prod.fst)

theorem namesDistinct_applyAll (changes : List Change) : (empty.applyAll changes).NamesDistinct :=
  applyAll_induction (fun _ change kept => kept.apply change) changes List.nodup_nil

-----------------------------------------------------------------------------------------
-- Rebuilt names
-----------------------------------------------------------------------------------------

/-- Rebuilding drops the keys that are not the key of their type any more. -/
theorem NamesDistinct.findByName_rebuild_iff (distinct : registry.NamesDistinct)
    : registry.rebuild.findByName name = some slot
      ↔ registry.findByName name = some slot
        ∧ ∃ record, registry.rebuild.get? slot = some record ∧ nameKey record = some name := by
  constructor
  · intro leads
    have member : (name, slot) ∈ registry.rebuild.byName := Entries.mem_of_get? leads
    have held := registry.namesHold_rebuild (name, slot) member
    refine ⟨?_, Option.bind_eq_some_iff.mp held⟩
    exact Entries.get?_of_mem distinct (List.mem_of_mem_filter member)
  · rintro ⟨leads, record, found, keyed⟩
    rw [get?_rebuild] at found
    exact get?_byName_rebuild leads found keyed

/-- After a rebuilding, a name leads where it led before if the type there still has it: the named
type of that name, or the directive of the name without the sign. The name of a directive leads to
the directive, or to a named type that has the name with the sign.
Witness: no key comes twice, so an entry is kept with its look-up or not at all.
-/
theorem rebuilt_namespaces (changes : List Change) (name : String) (slot : Slot)
    : let registry := empty.applyAll changes
      let rebuilt := registry.rebuild
      (rebuilt.findByName name = some slot
        ↔ registry.findByName name = some slot
          ∧ ∃ record,
              rebuilt.get? slot = some record
              ∧ (record.HasTypeName name
                ∨ ∃ own, name = "@" ++ own ∧ record.HasDirectiveName own))
      ∧ (rebuilt.findDirective name = some slot
        ↔ registry.findDirective name = some slot
          ∧ ∃ record,
              rebuilt.get? slot = some record
              ∧ (record.HasDirectiveName name ∨ record.HasTypeName ("@" ++ name))) := by
  intro registry rebuilt
  have distinct : registry.NamesDistinct := namesDistinct_applyAll changes
  have signed (record : TypeRecord)
      : nameKey record = some ("@" ++ name)
        ↔ record.HasDirectiveName name ∨ record.HasTypeName ("@" ++ name) := by
    simp [nameKey_eq_some_iff, or_comm]
  constructor
  · simp only [distinct.findByName_rebuild_iff, nameKey_eq_some_iff, rebuilt]
  · simp only [← signed]
    exact distinct.findByName_rebuild_iff

def cachedDirective : TypeRecord :=
  TypeRecord.new
    (.directive ⟨⟨⟨"CachedDirective"⟩, some "cached", none, .object⟩, [], .empty, false⟩) [] []
    Discovered.nothing

/-- The record, named and indexed anew. -/
def renewed (record : TypeRecord) : Registry :=
  (empty.applyAll [.register record, .registerName 0]).rebuild

/-- A directive is found as a type by its name with the sign, and a type whose name has the sign is
found as a directive.
-/
theorem cached_namespaces_meet
    : (∃ slot record,
        (renewed cachedDirective).findByName "@cached" = some slot
        ∧ (renewed cachedDirective).get? slot = some record
        ∧ ¬record.HasTypeName "@cached")
      ∧ ∃ slot record,
          (renewed (scalarType "@cached" [])).findDirective "cached" = some slot
          ∧ (renewed (scalarType "@cached" [])).get? slot = some record
          ∧ ¬record.HasDirectiveName "cached" :=
  ⟨⟨0, cachedDirective, by decide +kernel, rfl, by decide +kernel⟩,
    ⟨0, scalarType "@cached" [], by decide +kernel, rfl, by decide +kernel⟩⟩

end SchemaGraph.Registry
