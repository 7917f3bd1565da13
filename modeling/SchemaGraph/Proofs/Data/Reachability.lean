import Mathlib.Logic.Relation
import SchemaGraph.Data.Reachable

/-! The search finds what can be reached.
It finds exactly the points that a path leads to which stays in the points of the search. The points
of a round can be taken out of the search: a path that comes back to them could have started there.
-/

namespace SchemaGraph.Reachable

open Relation

variable {α : Type} [DecidableEq α] {next : α → List α} {unseen frontier points : List α}
  {start point : α}

/-- A step that leads to one of the unseen points. -/
def StepInto (next : α → List α) (unseen : List α) (point target : α) : Prop :=
  target ∈ next point ∧ target ∈ unseen

theorem mem_fresh_iff
    : point ∈ fresh next unseen frontier
      ↔ ∃ origin ∈ frontier, StepInto next unseen origin point := by
  simp only [fresh, StepInto, List.mem_filter, decide_eq_true_eq, List.mem_flatMap]
  constructor
  · rintro ⟨inside, origin, member, ahead⟩
    exact ⟨origin, member, ahead, inside⟩
  · rintro ⟨origin, member, ahead, inside⟩
    exact ⟨inside, origin, member, ahead⟩

/-- An unseen point is found in the next round or later. -/
theorem mem_unseen_iff
    : point ∈ unseen
      ↔ point ∈ fresh next unseen frontier ∨ point ∈ remote next unseen frontier := by
  simp only [fresh, remote, List.mem_filter, decide_eq_true_eq, ← and_or_left]
  exact (and_iff_left (Classical.em _)).symm

/-- What a path leads to from the next round, without coming back to that round, is what a path of
one or more steps leads to from this one.
Witness: where a path comes back to the next round, it starts there anew.
-/
theorem exists_fresh_iff
    : (∃ first ∈ fresh next unseen frontier,
        ReflTransGen (StepInto next (remote next unseen frontier)) first point)
      ↔ ∃ origin ∈ frontier, TransGen (StepInto next unseen) origin point := by
  constructor
  · rintro ⟨first, found, path⟩
    obtain ⟨origin, member, step⟩ := mem_fresh_iff.mp found
    refine ⟨origin, member, .head' step (ReflTransGen.mono ?_ _ _ path)⟩
    rintro point target ⟨ahead, later⟩
    exact ⟨ahead, mem_unseen_iff.mpr (Or.inr later)⟩
  · rintro ⟨origin, member, path⟩
    induction path with
    | single step => exact ⟨_, mem_fresh_iff.mpr ⟨origin, member, step⟩, .refl⟩
    | tail _ step ih =>
        obtain ⟨first, found, sofar⟩ := ih
        rcases mem_unseen_iff.mp step.2 with again | later
        · exact ⟨_, again, .refl⟩
        · exact ⟨first, found, sofar.tail ⟨step.1, later⟩⟩

theorem mem_closure_iff
    : point ∈ closure next unseen frontier
      ↔ ∃ origin ∈ frontier, ReflTransGen (StepInto next unseen) origin point := by
  fun_induction closure next unseen frontier with
  | case1 unseen frontier done =>
      constructor
      · exact fun member => ⟨point, member, .refl⟩
      · rintro ⟨origin, member, path⟩
        cases path.cases_head with
        | inl same => exact same ▸ member
        | inr further =>
            obtain ⟨first, step, _⟩ := further
            have found := mem_fresh_iff.mpr ⟨origin, member, step⟩
            rw [done] at found
            exact absurd found List.not_mem_nil
  | case2 unseen frontier some ih =>
      rw [List.mem_append, ih, exists_fresh_iff]
      simp only [reflTransGen_iff_eq_or_transGen, and_or_left, exists_or, exists_eq_right']

theorem mem_reached_iff
    : point ∈ reached next points start ↔ TransGen (StepInto next points) start point := by
  rw [reached, mem_closure_iff, exists_fresh_iff]
  simp

end SchemaGraph.Reachable
