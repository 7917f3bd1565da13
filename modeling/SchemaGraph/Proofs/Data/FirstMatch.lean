/-! The first item that matches, with its index. -/

namespace SchemaGraph

variable {α : Type} {items : List α} {has : α × Nat → Bool} {index : Nat}

/-- The first match is at an index if what is there matches and nothing before it does. -/
theorem find?_zipIdx_eq_some_iff
    : (items.zipIdx.find? has).map Prod.snd = some index
      ↔ (∃ item, items[index]? = some item ∧ has (item, index) = true)
        ∧ ∀ lower item,
            lower < index → items[lower]? = some item → has (item, lower) = false := by
  rw [Option.map_eq_some_iff]
  constructor
  · rintro ⟨⟨item, _⟩, first, rfl⟩
    obtain ⟨holds, position, inside, here, before⟩ := List.find?_eq_some_iff_getElem.mp first
    rw [List.getElem_zipIdx, Nat.zero_add] at here
    obtain ⟨rfl, rfl⟩ := Prod.mk.inj here
    have short : position < items.length := by simpa using inside
    refine ⟨⟨_, List.getElem?_eq_getElem short, holds⟩, ?_⟩
    intro lower item below there
    obtain ⟨_, rfl⟩ := List.getElem?_eq_some_iff.mp there
    simpa using before lower below
  · rintro ⟨⟨item, here, holds⟩, before⟩
    obtain ⟨inside, rfl⟩ := List.getElem?_eq_some_iff.mp here
    refine ⟨(items[index], index), List.find?_eq_some_iff_getElem.mpr ⟨holds, index, ?_⟩, rfl⟩
    refine ⟨by simpa using inside, by simp, fun lower below => ?_⟩
    have there := before lower _ below (List.getElem?_eq_getElem (Nat.lt_trans below inside))
    simpa using there

/-- There is no first match if and only if nothing matches. -/
theorem find?_zipIdx_eq_none_iff
    : (items.zipIdx.find? has).map Prod.snd = none
      ↔ ∀ index item, items[index]? = some item → has (item, index) = false := by
  rw [Option.map_eq_none_iff, List.find?_eq_none]
  simp only [Prod.forall, List.mem_zipIdx_iff_getElem?, Bool.not_eq_true]
  exact ⟨fun none index item => none item index, fun none item index => none index item⟩

end SchemaGraph
