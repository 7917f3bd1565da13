import SchemaGraph.Proofs.Completion.Complete
import SchemaGraph.Proofs.Registry.Names

/-! Members of unions.
A member is accepted when it denotes something of the kind of objects. An extension of an object has
that kind, too, so that a resolved member need not be the name of a type.
-/

namespace SchemaGraph

/-- The resolved members of a union; other definitions have none. -/
def Definition.memberNames : Definition → List String
  | .union type => type.resolvedMembers
  | _ => []

/-- Each resolved member is the name of an object type, and no extension, that a member denotes. -/
def UnionType.HasObjects (type : UnionType) (registry : Registry) : Prop :=
  ∀ name ∈ type.resolvedMembers,
    ∃ reference ∈ type.members,
      ∃ target,
        registry.resolve reference = some target
        ∧ target.kind = .object
        ∧ target.isExtension = false
        ∧ target.name = some name

namespace Completion

variable {completion : Completion} {registry : Registry} {type completed : UnionType}
  {reference : Reference} {owner name : String}

theorem memberName_eq_ok_iff
    : memberName registry owner reference = .ok name
      ↔ ∃ target,
          registry.resolve reference = some target
          ∧ target.kind = .object
          ∧ target.displayName = name := by
  unfold memberName
  cases registry.resolve reference with
  | none => simp
  | some target =>
      by_cases kind : target.kind = .object <;> simp [kind]

/-- A union without a problem has members, and the names that they resolve to. -/
theorem complete_union_ok (h : completion.complete (.union type) = (.union completed, []))
    : completed.members = type.members
      ∧ (∀ reference ∈ type.members,
          ∃ name, memberName completion.registry (ownerName type.header) reference = .ok name)
      ∧ ∀ name,
          name ∈ completed.resolvedMembers
          ↔ ∃ reference ∈ type.members,
              memberName completion.registry (ownerName type.header) reference = .ok name := by
  simp only [complete, completeUnion] at h
  split at h
  · simp at h
  · simp only [Prod.mk.injEq, Definition.union.injEq, List.filterMap_map,
      List.filterMap_eq_nil_iff] at h
    obtain ⟨rfl, fine⟩ := h
    refine ⟨rfl, fun reference member => isOk_of_problemOf (fine reference member), ?_⟩
    simp [mem_distinctNames]

/-- The resolved members are the names under which the members show. -/
theorem mem_resolvedMembers_iff
    (h : completion.complete (.union type) = (.union completed, []))
    : name ∈ completed.resolvedMembers
      ↔ ∃ reference ∈ type.members,
          ∃ target,
            completion.registry.resolve reference = some target
            ∧ target.kind = .object
            ∧ target.displayName = name := by
  rw [(complete_union_ok h).2.2]
  simp only [memberName_eq_ok_iff]

/-- A union has objects only, unless a member denotes an extension, or a type without a name, whose
place no other member takes.
Witness: every member that is resolved is of the kind of objects, so only extensions and types
without a name can be in the way.
-/
theorem hasObjects_iff (h : completion.complete (.union type) = (.union completed, []))
    : completed.HasObjects completion.registry
      ↔ ∀ reference ∈ type.members,
          ∀ target,
            completion.registry.resolve reference = some target
            → target.isExtension = true ∨ target.name = none
            → ∃ other ∈ type.members,
                ∃ base,
                  completion.registry.resolve other = some base
                  ∧ base.isExtension = false
                  ∧ base.name = some target.displayName := by
  obtain ⟨sameMembers, all, -⟩ := complete_union_ok h
  have kind {reference : Reference} (member : reference ∈ type.members) {target : TypeRecord}
      (resolved : completion.registry.resolve reference = some target)
      : target.kind = .object := by
    obtain ⟨name, isMember⟩ := all reference member
    obtain ⟨other, found, isObject, -⟩ := memberName_eq_ok_iff.mp isMember
    cases Option.some.inj (resolved.symm.trans found)
    exact isObject
  constructor
  · intro objects reference member target resolved _
    have resolvedMember : target.displayName ∈ completed.resolvedMembers :=
      (mem_resolvedMembers_iff h).mpr
        ⟨reference, member, target, resolved, kind member resolved, rfl⟩
    obtain ⟨other, there, base, found, -, isBase, isNamed⟩ := objects _ resolvedMember
    exact ⟨other, sameMembers ▸ there, base, found, isBase, isNamed⟩
  · intro replaced name resolvedMember
    obtain ⟨reference, member, target, resolved, isObject, shown⟩ :=
      (mem_resolvedMembers_iff h).mp resolvedMember
    rw [sameMembers]
    by_cases strange : target.isExtension = true ∨ target.name = none
    · obtain ⟨other, there, base, found, isBase, isNamed⟩ :=
        replaced reference member target resolved strange
      exact ⟨other, there, base, found, kind there found, isBase, shown ▸ isNamed⟩
    · rw [not_or, Bool.not_eq_true] at strange
      obtain ⟨own, isNamed⟩ := Option.ne_none_iff_exists'.mp strange.2
      refine ⟨reference, member, target, resolved, isObject, strange.1, ?_⟩
      rw [← shown, TypeRecord.displayName, isNamed, Option.getD_some]

end Completion
end SchemaGraph
