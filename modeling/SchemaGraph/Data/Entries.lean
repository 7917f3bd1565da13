/-! Keyed values in the order in which their keys first came.
Storing a value under a key that is present keeps the key's place.
-/

namespace SchemaGraph

abbrev Entries (κ α : Type) := List (κ × α)

namespace Entries

variable {κ α : Type} [DecidableEq κ]

/-- The value of the first entry with the key. -/
abbrev get? (entries : Entries κ α) (key : κ) : Option α :=
  entries.lookup key

def contains (entries : Entries κ α) (key : κ) : Bool :=
  (get? entries key).isSome

def keys (entries : Entries κ α) : List κ :=
  entries.map Prod.fst

/-- Stores the value, over the one that the key has or else behind all others. -/
def insert : Entries κ α → κ → α → Entries κ α
  | [], key, value => [(key, value)]
  | (first, old) :: rest, key, value =>
      if first = key then (first, value) :: rest else (first, old) :: insert rest key value

/-- Stores the value unless the key has one. -/
def insertNew (entries : Entries κ α) (key : κ) (value : α) : Entries κ α :=
  if contains entries key then entries else entries ++ [(key, value)]

def ofList (entries : List (κ × α)) : Entries κ α :=
  entries.foldl (fun sofar entry => insert sofar entry.1 entry.2) []

theorem get?_cons (first key : κ) (value : α) (rest : Entries κ α)
    : get? ((first, value) :: rest) key = if first = key then some value else get? rest key := by
  rw [get?, List.lookup_cons]
  split
  · next same => rw [if_pos (beq_iff_eq.mp same).symm]
  · next different => rw [if_neg (Ne.symm (beq_eq_false_iff_ne.mp different))]

/-- A store changes the look-up of its own key only. -/
theorem get?_insert (entries : Entries κ α) (key other : κ) (value : α)
    : get? (insert entries key value) other
      = if key = other then some value else get? entries other := by
  induction entries with
  | nil => simp [insert, get?_cons]
  | cons entry rest ih =>
      obtain ⟨first, old⟩ := entry
      by_cases hk : first = key
      · subst hk
        simp only [insert, if_true, get?_cons]
        split <;> rfl
      · simp only [insert, hk, if_false, get?_cons, ih]
        by_cases ho : first = other
        · simp [ho, show key ≠ other from fun h => hk (ho.trans h.symm)]
        · simp [ho]

theorem get?_insertNew (entries : Entries κ α) (key other : κ) (value : α)
    : get? (insertNew entries key value) other
      = (get? entries other).or (if key = other then some value else none) := by
  unfold insertNew contains
  split
  · next h =>
    by_cases hk : key = other
    · subst hk
      obtain ⟨old, ho⟩ := Option.isSome_iff_exists.mp h
      simp [ho]
    · simp [hk]
  · rw [get?, List.lookup_append]
    exact congrArg _ (get?_cons key other value [])

/-- A key keeps its place, and a new one comes last. -/
theorem keys_insert (entries : Entries κ α) (key : κ) (value : α)
    : keys (insert entries key value)
      = if contains entries key then keys entries else keys entries ++ [key] := by
  induction entries with
  | nil => simp [insert, keys, contains]
  | cons entry rest ih =>
      obtain ⟨first, old⟩ := entry
      simp only [keys, contains, get?_cons] at *
      by_cases hk : first = key
      · simp [insert, hk]
      · simp only [insert, hk, if_false, List.map_cons, ih]
        split <;> rename_i h <;> simp [h]

end Entries
end SchemaGraph
