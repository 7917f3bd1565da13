import SchemaGraph.Data.Entries

/-! Membership in keyed values. -/

namespace SchemaGraph.Entries

variable {κ α : Type} [DecidableEq κ]

theorem mem_of_get? {entries : Entries κ α} {key : κ} {value : α}
    (h : get? entries key = some value)
    : (key, value) ∈ entries := by
  obtain ⟨before, after, rfl, -⟩ := List.lookup_eq_some_iff.mp h
  simp

/-- After a store an entry is an old one or the stored one. -/
theorem mem_insert {entries : Entries κ α} {key : κ} {value : α} {entry : κ × α}
    (h : entry ∈ insert entries key value)
    : entry ∈ entries ∨ entry = (key, value) := by
  induction entries with
  | nil => exact Or.inr (List.mem_singleton.mp h)
  | cons head rest ih =>
      obtain ⟨first, old⟩ := head
      unfold insert at h
      split at h
      · next same =>
          rcases List.mem_cons.mp h with rfl | later
          · exact Or.inr (by rw [same])
          · exact Or.inl (List.mem_cons_of_mem _ later)
      · rcases List.mem_cons.mp h with rfl | later
        · exact Or.inl List.mem_cons_self
        · exact (ih later).imp_left (List.mem_cons_of_mem _)

end SchemaGraph.Entries
