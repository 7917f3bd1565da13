import SchemaGraph.Proofs.Data.Entries
import Mathlib.Data.List.Induction
import Mathlib.Data.List.Nodup

/-! Storing one value after the other.
Of several values that are stored under a key the last one stays, over the one that the key had; and
storing the same values again changes nothing.
-/

namespace SchemaGraph.Entries

variable {κ α : Type} [DecidableEq κ] {entries : Entries κ α} {key other : κ} {value : α}

/-- Stores the values in order, each over the one that its key has. -/
def insertAll (entries : Entries κ α) (additions : List (κ × α)) : Entries κ α :=
  additions.foldl (fun sofar entry => insert sofar entry.1 entry.2) entries

/-- Stores the values in order, each unless its key has one. -/
def insertAllNew (entries : Entries κ α) (additions : List (κ × α)) : Entries κ α :=
  additions.foldl (fun sofar entry => insertNew sofar entry.1 entry.2) entries

/-- The value of the last entry with the key. -/
def last? (entries : List (κ × α)) (key : κ) : Option α :=
  get? entries.reverse key

theorem insertAll_cons (entries : Entries κ α) (entry : κ × α) (rest : List (κ × α))
    : insertAll entries (entry :: rest) = insertAll (insert entries entry.1 entry.2) rest :=
  rfl

theorem insertAll_append (entries : Entries κ α) (first rest : List (κ × α))
    : insertAll entries (first ++ rest) = insertAll (insertAll entries first) rest :=
  List.foldl_append

/-- An entry is an old one or one of the stored ones. -/
theorem mem_insertAll {additions : List (κ × α)} {entry : κ × α}
    (member : entry ∈ insertAll entries additions)
    : entry ∈ entries ∨ entry ∈ additions := by
  induction additions generalizing entries with
  | nil => exact .inl member
  | cons head rest ih =>
      rcases ih member with earlier | later
      · rcases mem_insert earlier with old | rfl
        · exact .inl old
        · exact .inr List.mem_cons_self
      · exact .inr (List.mem_cons_of_mem head later)

/-- What is stored is there, and so is what was there before. -/
theorem contains_insert
    : contains (insert entries key value) other = (decide (key = other) || contains entries other)
    := by
  unfold contains
  rw [get?_insert]
  split
  · next same => simp [same]
  · next different => simp [different]

-----------------------------------------------------------------------------------------
-- Look-ups
-----------------------------------------------------------------------------------------

/-- The first entry counts where no later one has the key. -/
theorem last?_cons (entry : κ × α) (rest : List (κ × α)) (key : κ)
    : last? (entry :: rest) key
      = (last? rest key).or (if entry.1 = key then some entry.2 else none) := by
  rw [last?, List.reverse_cons, get?, List.lookup_append]
  exact congrArg _ (get?_cons entry.1 key entry.2 [])

/-- The last of the stored values decides, and the old value where none has the key. -/
theorem get?_insertAll (entries : Entries κ α) (additions : List (κ × α)) (key : κ)
    : get? (insertAll entries additions) key = (last? additions key).or (get? entries key) := by
  induction additions generalizing entries with
  | nil => rfl
  | cons entry rest ih =>
      rw [insertAll_cons, ih, get?_insert, last?_cons, Option.or_assoc]
      split <;> rfl

/-- The old value decides, and where there is none the first of the new ones. -/
theorem get?_insertAllNew (entries : Entries κ α) (additions : List (κ × α)) (key : κ)
    : get? (insertAllNew entries additions) key
      = (get? entries key).or (get? additions key) := by
  induction additions generalizing entries with
  | nil => simp [insertAllNew]
  | cons entry rest ih =>
      obtain ⟨first, value⟩ := entry
      have further
          : get? (insertAllNew (insertNew entries first value) rest) key
            = (get? (insertNew entries first value) key).or (get? rest key) :=
        ih _
      rw [insertAllNew, List.foldl_cons]
      refine further.trans ?_
      rw [get?_insertNew, get?_cons, Option.or_assoc]
      split <;> rfl

/-- In several lists one after the other, the first one with the key decides. -/
theorem get?_flatMap {β : Type} (items : List β) (entriesOf : β → List (κ × α)) (key : κ)
    : get? (items.flatMap entriesOf) key = items.findSome? fun item => get? (entriesOf item) key
    := by
  induction items with
  | nil => rfl
  | cons item rest ih =>
      have apart
          : get? ((item :: rest).flatMap entriesOf) key
            = (get? (entriesOf item) key).or (get? (rest.flatMap entriesOf) key) :=
        List.lookup_append
      rw [apart, ih, List.findSome?_cons]
      cases get? (entriesOf item) key <;> rfl

/-- In several lists one after the other, the last one with the key decides. -/
theorem last?_flatMap {β : Type} (items : List β) (entriesOf : β → List (κ × α)) (key : κ)
    : last? (items.flatMap entriesOf) key
      = items.reverse.findSome? fun item => last? (entriesOf item) key := by
  rw [last?, List.reverse_flatMap, get?_flatMap]
  rfl

/-- What is found in changed entries is what was found, with the change. -/
theorem get?_map {β : Type} (change : α → β) (entries : Entries κ α) (key : κ)
    : get? (entries.map fun entry => (entry.1, change entry.2)) key
      = (get? entries key).map change := by
  simp only [get?, List.lookup_eq_findSome?, List.findSome?_map, List.map_findSome?]
  refine congrArg (List.findSome? · entries) (funext fun entry => ?_)
  simp only [Function.comp_apply]
  split <;> rfl

/-- So it is with the last entry of a key. -/
theorem last?_map {β : Type} (change : α → β) (entries : List (κ × α)) (key : κ)
    : last? (entries.map fun entry => (entry.1, change entry.2)) key
      = (last? entries key).map change := by
  rw [last?, ← List.map_reverse, get?_map, last?]

/-- The keys are those by which something is found. -/
theorem mem_keys_iff : key ∈ keys entries ↔ (get? entries key).isSome = true := by
  rw [keys, List.mem_map, get?, List.lookup_isSome_iff]
  exact exists_congr fun entry => and_congr_right fun _ => eq_comm.trans beq_iff_eq.symm

/-- Where no key comes twice, every entry is what its key leads to. -/
theorem get?_of_mem (distinct : (keys entries).Nodup) (member : (key, value) ∈ entries)
    : get? entries key = some value := by
  induction entries with
  | nil => cases member
  | cons entry rest ih =>
      obtain ⟨first, held⟩ := entry
      obtain ⟨fresh, further⟩ := List.nodup_cons.mp distinct
      rw [get?_cons]
      rcases List.mem_cons.mp member with same | later
      · cases same
        exact if_pos rfl
      · have different : first ≠ key := fun same =>
          fresh (List.mem_map.mpr ⟨(key, value), later, same.symm⟩)
        rw [if_neg different, ih further later]

/-- A stored value brings no key a second time. -/
theorem nodup_keys_insert (distinct : (keys entries).Nodup)
    : (keys (insert entries key value)).Nodup := by
  rw [keys_insert]
  split
  · exact distinct
  · next absent =>
      refine distinct.append (List.nodup_singleton key) ?_
      rw [List.disjoint_singleton, mem_keys_iff]
      exact absent

-----------------------------------------------------------------------------------------
-- Storing the same values again
-----------------------------------------------------------------------------------------

/-- Storing what the key has changes nothing. -/
theorem insert_of_get? (here : get? entries key = some value)
    : insert entries key value = entries := by
  induction entries with
  | nil => cases here
  | cons entry rest ih =>
      obtain ⟨first, old⟩ := entry
      rw [get?_cons] at here
      unfold insert
      split at here
      · next same => rw [if_pos same, Option.some.inj here]
      · next different => rw [if_neg different, ih here]

/-- Of two values that are stored under a key one after the other, the second one stays. -/
theorem insert_insert_self (entries : Entries κ α) (key : κ) (first second : α)
    : insert (insert entries key first) key second = insert entries key second := by
  induction entries with
  | nil => simp [insert]
  | cons entry rest ih =>
      obtain ⟨head, old⟩ := entry
      by_cases same : head = key
      · simp [insert, same]
      · simp [insert, same, ih]

/-- A key that is there keeps its place, so the order of two stores does not matter. -/
theorem insert_comm {first second : α} (different : key ≠ other)
    (here : contains entries other = true)
    : insert (insert entries key first) other second
      = insert (insert entries other second) key first := by
  induction entries with
  | nil => cases here
  | cons entry rest ih =>
      obtain ⟨head, old⟩ := entry
      by_cases isKey : head = key
      · simp [insert, isKey, different]
      · by_cases isOther : head = other
        · simp [insert, isOther, Ne.symm different]
        · have further : contains rest other = true := by
            simpa [contains, get?_cons, isOther] using here
          simp [insert, isKey, isOther, ih further]

/-- What a key had before other keys are stored does not matter if the key is stored behind them. -/
theorem insert_insertAll_insert {additions : List (κ × α)}
    (here : ∀ entry ∈ additions, contains entries entry.1 = true)
    : insert (insertAll (insert entries key value) additions) key value
      = insert (insertAll entries additions) key value := by
  induction additions generalizing entries with
  | nil => exact insert_insert_self entries key value value
  | cons entry rest ih =>
      obtain ⟨first, stored⟩ := entry
      have present : contains entries first = true := here (first, stored) List.mem_cons_self
      have further : ∀ entry ∈ rest, contains (insert entries first stored) entry.1 = true := by
        intro entry member
        rw [contains_insert, here entry (List.mem_cons_of_mem _ member), Bool.or_true]
      rw [insertAll_cons, insertAll_cons]
      by_cases own : key = first
      · subst own
        rw [insert_insert_self]
      · rw [insert_comm own present, ih further]

/-- All that is stored is there in the end. -/
theorem contains_insertAll (entries : Entries κ α) {additions : List (κ × α)} {entry : κ × α}
    (member : entry ∈ additions)
    : contains (insertAll entries additions) entry.1 = true := by
  have here : entry.1 ∈ keys additions.reverse :=
    List.mem_map_of_mem (List.mem_reverse.mpr member)
  rw [contains, get?_insertAll, Option.isSome_or, last?, mem_keys_iff.mp here, Bool.true_or]

/-- Storing the same values again changes nothing.
Witness: induction from the last value on; the ones in front of it are stored under keys that are
there, in whichever order.
-/
theorem insertAll_twice (entries : Entries κ α) (additions : List (κ × α))
    : insertAll (insertAll entries additions) additions = insertAll entries additions := by
  induction additions using List.reverseRecOn with
  | nil => rfl
  | append_singleton front entry ih =>
      obtain ⟨key, value⟩ := entry
      let sofar := insertAll entries front
      calc
        insertAll (insertAll entries (front ++ [(key, value)])) (front ++ [(key, value)])
            = insert (insertAll (insert sofar key value) front) key value := by
          rw [insertAll_append, insertAll_append]
          rfl
        _ = insert (insertAll sofar front) key value :=
          insert_insertAll_insert fun entry member => contains_insertAll entries member
        _ = insertAll entries (front ++ [(key, value)]) := by
          rw [ih, insertAll_append]
          rfl

end SchemaGraph.Entries
