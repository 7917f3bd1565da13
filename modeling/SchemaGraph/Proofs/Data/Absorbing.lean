/-! Folds that take items up.
Where an item that was taken up stays, and acting with it again changes nothing, folding the same
items a second time changes nothing.
-/

namespace SchemaGraph

/-- Acting with an item makes the state have it for good, and does nothing where it has it. -/
structure Absorbing {σ α : Type} (act : σ → α → σ) (has : σ → α → Prop) : Prop where
  gains : ∀ state item, has (act state item) item
  stays : ∀ {state item} other, has state item → has (act state other) item
  keeps : ∀ {state item}, has state item → act state item = state

namespace Absorbing

variable {σ α : Type} {act : σ → α → σ} {has : σ → α → Prop} {state : σ} {item : α}
  {items : List α}

theorem stays_foldl (absorbing : Absorbing act has) (here : has state item) (items : List α)
    : has (items.foldl act state) item := by
  induction items generalizing state with
  | nil => exact here
  | cons other rest ih => exact ih (absorbing.stays other here)

theorem gains_foldl (absorbing : Absorbing act has) (state : σ) (member : item ∈ items)
    : has (items.foldl act state) item := by
  induction items generalizing state with
  | nil => cases member
  | cons other rest ih =>
      rcases List.mem_cons.mp member with rfl | later
      · exact absorbing.stays_foldl (absorbing.gains state item) rest
      · exact ih (act state other) later

theorem foldl_of_has (absorbing : Absorbing act has) (all : ∀ item ∈ items, has state item)
    : items.foldl act state = state := by
  induction items with
  | nil => rfl
  | cons item rest ih =>
      rw [List.foldl_cons, absorbing.keeps (all item List.mem_cons_self)]
      exact ih fun other member => all other (List.mem_cons_of_mem item member)

theorem foldl_twice (absorbing : Absorbing act has) (items : List α) (state : σ)
    : items.foldl act (items.foldl act state) = items.foldl act state :=
  absorbing.foldl_of_has fun _ member => absorbing.gains_foldl state member

end Absorbing

/-- A list that is only appended to, by itself or in a larger state, goes on where it ended. -/
theorem prefix_foldl {σ α β : Type} {act : σ → α → σ} (view : σ → List β)
    (each : ∀ state item, view state <+: view (act state item)) (items : List α) (state : σ)
    : view state <+: view (items.foldl act state) := by
  induction items generalizing state with
  | nil => exact List.prefix_rfl
  | cons item rest ih => exact (each state item).trans (ih (act state item))

theorem prefix_unless {β : Type} (isIn : Prop) [Decidable isIn] (list more : List β)
    : list <+: if isIn then list else list ++ more := by
  split
  · exact List.prefix_rfl
  · exact List.prefix_append list more

/-- A list takes up what is appended to it unless it is there. -/
theorem absorbing_append {α : Type} {isIn : α → List α → Prop}
    [∀ item list, Decidable (isIn item list)]
    (own : ∀ item list, isIn item (list ++ [item]))
    (longer : ∀ {item list} other, isIn item list → isIn item (list ++ [other]))
    : Absorbing (fun list item => if isIn item list then list else list ++ [item])
        fun list item => isIn item list where
  gains list item := by
    split
    · assumption
    · exact own item list
  stays other here := by
    split
    · exact here
    · exact longer other here
  keeps here := if_pos here

/-- A list takes up what is appended to it unless it is an element. -/
theorem absorbing_mem {α : Type} [DecidableEq α]
    : Absorbing (fun list item => if item ∈ list then list else list ++ [item])
        fun list (item : α) => item ∈ list :=
  absorbing_append (fun item list => by simp) fun other here => by simp [here]

/-- The first value there is stays. -/
theorem absorbing_or {α : Type}
    : Absorbing (Option.or (α := α))
        fun state item => item.isSome = true → state.isSome = true where
  gains state item := by cases state <;> simp
  stays {state item} other here := by
    intro given
    obtain ⟨value, rfl⟩ := Option.isSome_iff_exists.mp (here given)
    rfl
  keeps {state item} here := by
    cases state with
    | some value => rfl
    | none =>
        cases item with
        | none => rfl
        | some value => cases here rfl

end SchemaGraph
