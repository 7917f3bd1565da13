/-! What can be reached in a finite graph.
The graph is given by the successors of each point and by a list of points that the search stays in.
The search goes round by round; a round finds all unseen points that are one step away from the
points that the round before has found.
-/

namespace SchemaGraph.Reachable

variable {α : Type} [DecidableEq α]

/-- The unseen points that are one step away from the frontier. -/
def fresh (next : α → List α) (unseen frontier : List α) : List α :=
  let ahead := frontier.flatMap next
  unseen.filter fun point => point ∈ ahead

/-- The unseen points that are further away. -/
def remote (next : α → List α) (unseen frontier : List α) : List α :=
  let ahead := frontier.flatMap next
  unseen.filter fun point => point ∉ ahead

/-- A round that finds a point leaves fewer points unseen. -/
theorem length_remote_lt {next : α → List α} {unseen frontier : List α}
    (h : fresh next unseen frontier ≠ [])
    : (remote next unseen frontier).length < unseen.length := by
  obtain ⟨point, hp⟩ := List.exists_mem_of_ne_nil _ h
  have hm := List.mem_filter.mp hp
  exact List.length_filter_lt_length_iff_exists.mpr ⟨point, hm.1, by simpa using hm.2⟩

/-- The points of the frontier, and the unseen points that can be reached from it. -/
def closure (next : α → List α) (unseen frontier : List α) : List α :=
  if fresh next unseen frontier = [] then frontier
  else
    frontier ++ closure next (remote next unseen frontier) (fresh next unseen frontier)
termination_by unseen.length
decreasing_by exact length_remote_lt ‹_›

/-- The points that one or more steps lead to. -/
def reached (next : α → List α) (points : List α) (start : α) : List α :=
  closure next (remote next points [start]) (fresh next points [start])

end SchemaGraph.Reachable
