import Mathlib.Data.List.Induction
import Mathlib.Data.List.Nodup

/-! Items kept once each, in the order in which they first come. -/

namespace SchemaGraph

variable {α β : Type}

/-- An item that comes last is kept unless it came before. -/
theorem eraseDups_concat [BEq α] [LawfulBEq α] (items : List α) (last : α)
    : (items ++ [last]).eraseDups
      = if last ∈ items then items.eraseDups else items.eraseDups ++ [last] := by
  rw [List.eraseDups_append]
  split
  · next old => simp [List.removeAll, old]
  · next new =>
      have kept : [last].removeAll items = [last] := by simp [List.removeAll, new]
      rw [kept, List.eraseDups_cons]
      simp

theorem nodup_eraseDups [BEq α] [LawfulBEq α] (items : List α) : items.eraseDups.Nodup := by
  induction items using List.reverseRecOn with
  | nil => simp
  | append_singleton items last ih =>
      rw [eraseDups_concat]
      split
      · exact ih
      · next new => exact ih.append (List.nodup_singleton last) (by simpa using new)

/-- The items that are not known, each once, in the order in which they first come. -/
def newItems [DecidableEq α] (known items : List α) : List α :=
  items.eraseDups.filter fun item => item ∉ known

/-- Appending each item unless it is there appends the new ones. -/
theorem foldl_append_unless_mem [DecidableEq α] (known items : List α)
    : items.foldl (fun list item => if item ∈ list then list else list ++ [item]) known
      = known ++ newItems known items := by
  induction items using List.reverseRecOn with
  | nil => simp [newItems]
  | append_singleton items last ih =>
      rw [List.foldl_concat, ih, newItems, newItems, eraseDups_concat]
      by_cases here : last ∈ known <;> by_cases earlier : last ∈ items <;>
        simp [here, earlier]

theorem nodup_append_newItems [DecidableEq α] {known : List α} (distinct : known.Nodup)
    (items : List α)
    : (known ++ newItems known items).Nodup := by
  refine distinct.append ((nodup_eraseDups items).filter _) ?_
  intro item here new
  simp [newItems, here] at new

theorem mem_append_newItems [DecidableEq α] {known items : List α} {item : α}
    : item ∈ known ++ newItems known items ↔ item ∈ known ∨ item ∈ items := by
  simp only [newItems, List.mem_append, List.mem_filter, List.mem_eraseDups, decide_eq_true_eq]
  by_cases here : item ∈ known <;> simp [here]

/-- Among items with distinct keys, the first one with the key of an item is that item. -/
theorem find?_of_nodup_map [DecidableEq β] {key : α → β} {items : List α} {item : α}
    (distinct : (items.map key).Nodup) (member : item ∈ items)
    : items.find? (fun other => key other = key item) = some item := by
  cases found : items.find? fun other => key other = key item with
  | none => exact absurd (decide_eq_true rfl) (List.find?_eq_none.mp found item member)
  | some other =>
      have same : key other = key item := by simpa using List.find?_some found
      rw [List.inj_on_of_nodup_map distinct (List.mem_of_find?_eq_some found) member same]

end SchemaGraph
