import Mathlib.Data.Fintype.Pigeonhole
import Mathlib.Logic.Relation
import Mathlib.Order.Bounds.Defs

/-! Chains in a relation, and the points from which they never end.
On finitely many points, chains of every length start at a point if and only if a cycle can be
reached from it; every other point has a longest chain.
-/

namespace SchemaGraph.Chains

open Relation

variable {α : Type} {rel : α → α → Prop} {point other : α}

/-- A chain with this many links starts at the point. -/
def HasChain (rel : α → α → Prop) : Nat → α → Prop
  | 0, _ => True
  | length + 1, point => ∃ other, rel point other ∧ HasChain rel length other

/-- The longest chain from the point has this many links. -/
def HasHeight (rel : α → α → Prop) (point : α) (height : Nat) : Prop :=
  IsGreatest {length | HasChain rel length point} height

/-- From the point a cycle can be reached, possibly one of a single link. -/
def ReachesCycle (rel : α → α → Prop) (point : α) : Prop :=
  ∃ hub, ReflTransGen rel point hub ∧ TransGen rel hub hub

/-- What each step of a fold leads to, all of them together lead to. -/
theorem reflTransGen_foldl {σ β : Type} (view : σ → α) {step : σ → β → σ}
    (each : ∀ sofar item, ReflTransGen rel (view sofar) (view (step sofar item)))
    (items : List β) (start : σ)
    : ReflTransGen rel (view start) (view (items.foldl step start)) := by
  induction items generalizing start with
  | nil => exact .refl
  | cons item rest ih => exact (each start item).trans (ih (step start item))

-----------------------------------------------------------------------------------------
-- Shorter and longer chains
-----------------------------------------------------------------------------------------

theorem HasChain.shorten {length : Nat} (h : HasChain rel (length + 1) point)
    : HasChain rel length point := by
  induction length generalizing point with
  | zero => trivial
  | succ length ih =>
      obtain ⟨other, linked, rest⟩ := h
      exact ⟨other, linked, ih rest⟩

theorem HasChain.mono {shorter longer : Nat} (h : HasChain rel longer point)
    (le : shorter ≤ longer)
    : HasChain rel shorter point := by
  induction le with
  | refl => exact h
  | step _ ih => exact ih h.shorten

/-- A longest chain is one that no chain exceeds by a link. -/
theorem hasHeight_iff {height : Nat}
    : HasHeight rel point height
      ↔ HasChain rel height point ∧ ¬HasChain rel (height + 1) point := by
  constructor
  · intro greatest
    refine ⟨greatest.1, ?_⟩
    intro longer
    have bound : height + 1 ≤ height := greatest.2 longer
    omega
  · rintro ⟨reached, ended⟩
    refine ⟨reached, ?_⟩
    intro length longer
    by_cases within : length ≤ height
    · exact within
    · exact absurd (HasChain.mono longer (by omega)) ended

-----------------------------------------------------------------------------------------
-- Cycles
-----------------------------------------------------------------------------------------

theorem hasChain_of_reflTransGen {length : Nat} (path : ReflTransGen rel point other)
    (h : HasChain rel length other)
    : HasChain rel length point := by
  induction path using ReflTransGen.head_induction_on with
  | refl => exact h
  | head linked _ ih => exact HasChain.shorten ⟨_, linked, ih⟩

/-- Round a cycle, and from wherever it can be reached, chains have every length. -/
theorem ReachesCycle.hasChain (h : ReachesCycle rel point) (length : Nat)
    : HasChain rel length point := by
  obtain ⟨hub, path, cycle⟩ := h
  refine hasChain_of_reflTransGen path ?_
  obtain ⟨first, linked, back⟩ := TransGen.head'_iff.mp cycle
  induction length with
  | zero => trivial
  | succ length ih => exact ⟨first, linked, hasChain_of_reflTransGen back ih⟩

/-- From where a cycle can be reached, links lead on to its hub, and a cycle can be reached all the
way.
-/
theorem ReachesCycle.transGen (h : ReachesCycle rel point)
    : ∃ hub,
        TransGen (fun sofar next => rel sofar next ∧ ReachesCycle rel next) point hub
        ∧ TransGen rel hub hub := by
  obtain ⟨hub, path, cycle⟩ := h
  refine ⟨hub, ?_, cycle⟩
  have onward : TransGen rel point hub := cycle.trans_right path
  induction onward using TransGen.head_induction_on with
  | single linked => exact .single ⟨linked, hub, .refl, cycle⟩
  | head linked further ih =>
      exact (ih further.to_reflTransGen).head ⟨linked, hub, further.to_reflTransGen, cycle⟩

/-- Finitely many points each of which is linked to a further one lead into a cycle.
Witness: a path along chosen links comes back to a point where it has been.
-/
theorem reachesCycle_of_successors {rel : Nat → Nat → Prop} {inside : Nat → Prop}
    {size point : Nat} (bound : ∀ point, inside point → point < size)
    (step : ∀ point, inside point → ∃ next, inside next ∧ rel point next)
    (start : inside point)
    : ReachesCycle rel point := by
  choose next stays linked using step
  let advance (current : {point // inside point}) : {point // inside point} :=
    ⟨next current.1 current.2, stays current.1 current.2⟩
  let path (steps : Nat) : {point // inside point} := advance^[steps] ⟨point, start⟩
  have adjacent (steps : Nat) : rel (path steps).1 (path (steps + 1)).1 := by
    simp only [path, Function.iterate_succ_apply']
    exact linked _ _
  have reaches (first more : Nat) : ReflTransGen rel (path first).1 (path (first + more)).1 := by
    induction more with
    | zero => exact .refl
    | succ more ih => exact ih.tail (adjacent (first + more))
  have returns (first second : Nat) (before : first < second)
      (same : (path first).1 = (path second).1)
      : ReachesCycle rel point := by
    refine ⟨(path first).1, ?_, ?_⟩
    · simpa [path] using reaches 0 first
    · have back := reaches (first + 1) (second - (first + 1))
      rw [show first + 1 + (second - (first + 1)) = second by omega, ← same] at back
      exact .head' (adjacent first) back
  obtain ⟨first, second, different, same⟩ :=
    Finite.exists_ne_map_eq_of_infinite fun steps =>
      (⟨(path steps).1, bound _ (path steps).2⟩ : Fin size)
  rcases Nat.lt_or_gt_of_ne different with before | behind
  · exact returns first second before (Fin.mk.inj same)
  · exact returns second first behind (Fin.mk.inj same).symm

end SchemaGraph.Chains
