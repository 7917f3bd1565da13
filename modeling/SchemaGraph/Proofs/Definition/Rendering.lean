import SchemaGraph.Definition.Basic
import SchemaGraph.Proofs.Naming.Validity

/-! Written types are read in one way only.
Each wrapper closes with a character of its own that is in no name. So the last character tells the
outermost wrapper, or that there is none, and what is wrapped stands between its characters.
-/

namespace SchemaGraph

namespace Wrapper

/-- What is written in front of the wrapped type. -/
def opening : Wrapper → List Char
  | list => ['[']
  | nonNull => []

/-- What is written behind the wrapped type. -/
def closing : Wrapper → Char
  | list => ']'
  | nonNull => '!'

theorem closing_inj {left right : Wrapper} (same : left.closing = right.closing)
    : left = right := by
  cases left <;> cases right <;> simp_all [closing]

theorem isNamePart_closing (wrapper : Wrapper) : Naming.isNamePart wrapper.closing = false := by
  cases wrapper <;> decide

end Wrapper

namespace WrappedType

open Naming

variable {left right : List Wrapper} {name other : String}

theorem toList_renderWrappers_cons (wrapper : Wrapper) (inner : List Wrapper) (name : String)
    : (renderWrappers (wrapper :: inner) name).toList
      = wrapper.opening ++ (renderWrappers inner name).toList ++ [wrapper.closing] := by
  cases wrapper with
  | list => simp [renderWrappers, Wrapper.opening, Wrapper.closing]
  | nonNull => simp [renderWrappers, Wrapper.opening, Wrapper.closing]

/-- A wrapped type is not written like a name, since its last character is in none. -/
theorem renderWrappers_cons_ne (wrapper : Wrapper) (inner : List Wrapper)
    (valid : isValidName other = true)
    : renderWrappers (wrapper :: inner) name ≠ other := by
  intro same
  have held : wrapper.closing ∈ other.toList := by
    rw [← same, toList_renderWrappers_cons]
    exact List.mem_append_right _ (List.mem_singleton_self _)
  have part := isNamePart_of_mem valid held
  rw [wrapper.isNamePart_closing] at part
  cases part

/-- From the outside in: types that are written alike have the same outermost wrapper around types
that are written alike.
Witness: induction on the wrappers; the last character tells the outermost one, and what stands in
front of it tells the rest.
-/
theorem renderWrappers_inj (valid : isValidName name = true)
    (validOther : isValidName other = true)
    (same : renderWrappers left name = renderWrappers right other)
    : name = other ∧ left = right := by
  induction left generalizing right with
  | nil =>
      cases right with
      | nil => exact ⟨same, rfl⟩
      | cons outer inner => exact absurd same.symm (renderWrappers_cons_ne outer inner valid)
  | cons wrapper wrapped ih =>
      cases right with
      | nil => exact absurd same (renderWrappers_cons_ne wrapper wrapped validOther)
      | cons outer inner =>
          have chars := congrArg String.toList same
          rw [toList_renderWrappers_cons, toList_renderWrappers_cons] at chars
          obtain ⟨front, last⟩ := List.append_inj' chars rfl
          cases Wrapper.closing_inj (List.singleton_inj.mp last)
          have between := String.toList_injective (List.append_cancel_left front)
          obtain ⟨names, wrappers⟩ := ih between
          exact ⟨names, congrArg (wrapper :: ·) wrappers⟩

/-- Around valid names, two types are written alike just if name and wrappers are the same. -/
theorem render_eq_iff (first second : WrappedType) (valid : isValidName name = true)
    (validOther : isValidName other = true)
    : first.render name = second.render other
      ↔ name = other ∧ first.wrappers = second.wrappers := by
  constructor
  · exact renderWrappers_inj valid validOther
  · rintro ⟨rfl, same⟩
    rw [render, render, same]

/-- A list that is non-null twice, and a list that is non-null as its elements are. -/
theorem users_written_apart
    : isValidName "User" = true
      ∧ (mk (.named "User" .output) [.nonNull, .nonNull, .list]).render "User"
        ≠ (mk (.named "User" .output) [.nonNull, .list, .nonNull]).render "User" := by
  have valid : isValidName "User" = true := by decide +kernel
  refine ⟨valid, fun same => ?_⟩
  obtain ⟨-, wrappers⟩ := (render_eq_iff _ _ valid valid).mp same
  cases wrappers

end WrappedType
end SchemaGraph
