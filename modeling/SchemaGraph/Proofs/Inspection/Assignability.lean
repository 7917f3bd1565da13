import Mathlib.Data.List.Induction
import Mathlib.Logic.Relation
import SchemaGraph.Inspector

/-! A host type is accepted wherever a supertype of it is expected, however far up that is.
The search for the supertype visits a type once, so it comes to an end where types declare each
other in a circle. A path that comes back to a visited type could have started behind it.
-/

namespace SchemaGraph

/-- What is said about host types. -/
inductive RuntimeDeclaration where
  | supertype (type supertype : RuntimeType)
  | member (type : RuntimeType) (member : Member)

namespace RuntimeTable

open Relation

/-- One supertype further up, from a type that has not been visited. -/
def StepsUp (table : RuntimeTable) (visited : List RuntimeType) (type supertype : RuntimeType)
    : Prop :=
  type ∉ visited ∧ supertype ∈ table.supertypesOf type

variable {table : RuntimeTable} {visited stack : List RuntimeType}
  {current type supertype source target : RuntimeType}

theorem mem_supertypesOf_iff
    : supertype ∈ table.supertypesOf type ↔ (type, supertype) ∈ table.supertypes := by
  simp only [supertypesOf, List.mem_map, List.mem_filter, decide_eq_true_eq]
  constructor
  · rintro ⟨pair, ⟨declared, rfl⟩, rfl⟩
    exact declared
  · intro declared
    exact ⟨(type, supertype), ⟨declared, rfl⟩, rfl⟩

/-- No path leaves a visited type. -/
theorem not_stepsUp_of_visited (seen : type ∈ visited)
    : ¬TransGen (table.StepsUp visited) type target := by
  intro path
  obtain ⟨first, step, -⟩ := TransGen.head'_iff.mp path
  exact step.1 seen

/-- What was not passed before is not passed after fewer visits. -/
theorem stepsUp_of_cons (path : TransGen (table.StepsUp (current :: visited)) type target)
    : TransGen (table.StepsUp visited) type target := by
  refine TransGen.mono ?_ _ _ path
  rintro lower upper ⟨new, above⟩
  exact ⟨fun seen => new (List.mem_cons_of_mem _ seen), above⟩

/-- A path passes the visited type for the last time, or never does.
Witness: from the target down, a path that has met the type further up is cut there.
-/
theorem stepsUp_past (missed : target ∉ table.supertypesOf current)
    (path : TransGen (table.StepsUp visited) type target)
    : (type ≠ current ∧ TransGen (table.StepsUp (current :: visited)) type target)
      ∨ ∃ first ∈ table.supertypesOf current,
          TransGen (table.StepsUp (current :: visited)) first target := by
  have past {lower : RuntimeType} (new : lower ∉ visited) (other : lower ≠ current)
      : lower ∉ current :: visited :=
    List.not_mem_cons_of_ne_of_not_mem other new
  induction path using TransGen.head_induction_on with
  | @single lower step =>
      have other : lower ≠ current := by
        rintro rfl
        exact missed step.2
      exact .inl ⟨other, .single ⟨past step.1 other, step.2⟩⟩
  | @head lower upper step _ ih =>
      rcases ih with ⟨-, sofar⟩ | later
      · by_cases same : lower = current
        · exact .inr ⟨upper, same ▸ step.2, sofar⟩
        · exact .inl ⟨same, .head ⟨past step.1 same, step.2⟩ sofar⟩
      · exact .inr later

/-- A visit keeps what the stack leads to: the supertypes of the visited type take its place. -/
theorem exists_stack_visit_iff (new : current ∉ visited)
    (missed : target ∉ table.supertypesOf current)
    : (∃ origin ∈ (table.supertypesOf current).reverse ++ stack,
        TransGen (table.StepsUp (current :: visited)) origin target)
      ↔ ∃ origin ∈ current :: stack, TransGen (table.StepsUp visited) origin target := by
  constructor
  · rintro ⟨origin, held, path⟩
    rcases List.mem_append.mp held with above | below
    · have step : table.StepsUp visited current origin := ⟨new, List.mem_reverse.mp above⟩
      exact ⟨current, List.mem_cons_self, .head step (stepsUp_of_cons path)⟩
    · exact ⟨origin, List.mem_cons_of_mem _ below, stepsUp_of_cons path⟩
  · rintro ⟨origin, held, path⟩
    rcases stepsUp_past missed path with ⟨other, sofar⟩ | ⟨first, above, later⟩
    · have below : origin ∈ stack := (List.mem_cons.mp held).resolve_left other
      exact ⟨origin, List.mem_append_right _ below, sofar⟩
    · exact ⟨first, List.mem_append_left _ (List.mem_reverse.mpr above), later⟩

/-- The search comes to what one or more steps lead to from the stack, past the visited types. -/
theorem climbsTo_iff
    : table.climbsTo target visited stack = true
      ↔ ∃ origin ∈ stack, TransGen (table.StepsUp visited) origin target := by
  fun_induction climbsTo table target visited stack with
  | case1 visited => simp
  | case2 visited current rest seen ih =>
      rw [ih]
      simp only [List.mem_cons, exists_eq_or_imp, not_stepsUp_of_visited seen, false_or]
  | case3 visited current rest new found =>
      exact iff_of_true rfl ⟨current, List.mem_cons_self, .single ⟨new, found⟩⟩
  | case4 visited current rest new missed ih => rw [ih, exists_stack_visit_iff new missed]

theorem accepts_iff
    : table.accepts target source = true
      ↔ target = RuntimeType.object
        ∨ ReflTransGen (fun type supertype => (type, supertype) ∈ table.supertypes) source
            target := by
  have steps : table.StepsUp [] = fun type supertype => (type, supertype) ∈ table.supertypes := by
    funext type supertype
    simp [StepsUp, mem_supertypesOf_iff]
  have climbs : table.climbsTo target [] [source] = true
      ↔ TransGen (fun type supertype => (type, supertype) ∈ table.supertypes) source target := by
    rw [climbsTo_iff, steps]
    simp
  simp only [accepts, RuntimeType.isObject, Bool.or_eq_true, decide_eq_true_eq, climbs,
    reflTransGen_iff_eq_or_transGen]
  rw [or_assoc, or_left_comm]

/-- The table after one more declaration. -/
def declare (table : RuntimeTable) : RuntimeDeclaration → RuntimeTable
  | .supertype type supertype => table.implement type supertype
  | .member type member => table.addMember type member

/-- The table of everything that is said, from the first declaration to the last. -/
def declareAll (declarations : List RuntimeDeclaration) : RuntimeTable :=
  declarations.foldl declare empty

theorem mem_supertypes_declare_iff (table : RuntimeTable) (declaration : RuntimeDeclaration)
    (type supertype : RuntimeType)
    : (type, supertype) ∈ (table.declare declaration).supertypes
      ↔ (type, supertype) ∈ table.supertypes ∨ declaration = .supertype type supertype := by
  cases declaration with
  | supertype lower upper =>
      simp only [declare, implement]
      split
      · next known =>
          refine (or_iff_left_of_imp ?_).symm
          rintro ⟨rfl, rfl⟩
          exact known
      · simp [eq_comm]
  | member => simp [declare, addMember]

theorem mem_supertypes_declareAll_iff (declarations : List RuntimeDeclaration)
    (type supertype : RuntimeType)
    : (type, supertype) ∈ (declareAll declarations).supertypes
      ↔ .supertype type supertype ∈ declarations := by
  induction declarations using List.reverseRecOn with
  | nil => simp [declareAll, empty]
  | append_singleton front last ih =>
      rw [declareAll, List.foldl_append, List.foldl_cons, List.foldl_nil, ← declareAll,
        mem_supertypes_declare_iff, ih]
      simp [eq_comm]

/-- Whatever is declared, in whatever order and circles, a type is accepted just where the general
`object` type is expected or a type that a chain of declared supertypes leads up to.
-/
theorem declareAll_accepts_iff (declarations : List RuntimeDeclaration)
    (target source : RuntimeType)
    : (declareAll declarations).accepts target source = true
      ↔ target = RuntimeType.object
        ∨ ReflTransGen (fun type supertype => .supertype type supertype ∈ declarations) source
            target := by
  rw [accepts_iff]
  simp only [mem_supertypes_declareAll_iff]

/-- A circle of supertypes leads to nothing outside. -/
example
    : let pages := RuntimeType.named "Page"
      let documents := RuntimeType.named "Document"
      (declareAll [.supertype pages documents, .supertype documents pages]).accepts
          (.named "Image") pages
        = false := by
  decide +kernel

end RuntimeTable
end SchemaGraph
