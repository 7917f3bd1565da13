import SchemaGraph.Completion.Name
import SchemaGraph.Proofs.Naming.Validity

/-! The names that types get from their host types are valid.
A host type lends its name and those of its arguments, one behind the other. What the kind then adds
or takes away leaves a valid name behind, so completion has nothing to object to.
-/

namespace SchemaGraph

namespace RuntimeType

mutual
/-- All names in a host type, those of the arguments first. -/
def names : RuntimeType → List String
  | generic name arguments => namesOf arguments ++ [name]

def namesOf : List RuntimeType → List String
  | [] => []
  | argument :: rest => names argument ++ namesOf rest
end

theorem names_ne_nil (type : RuntimeType) : type.names ≠ [] := by
  cases type
  simp [names]

end RuntimeType

namespace Naming

open RuntimeType (names namesOf)

variable {name : List Char} {runtime : RuntimeType}

mutual
/-- The flat name is all the names in one. -/
theorem flatName_eq_flatMap (type : RuntimeType)
    : flatName type = type.names.flatMap String.toList := by
  cases type with
  | generic name arguments => simp [flatName, names, flatNames_eq_flatMap arguments]

theorem flatNames_eq_flatMap (types : List RuntimeType)
    : flatNames types = (namesOf types).flatMap String.toList := by
  cases types with
  | nil => rfl
  | cons argument rest =>
      simp [flatNames, namesOf, flatName_eq_flatMap argument, flatNames_eq_flatMap rest]
end

theorem isValidChars_flatName (valid : ∀ name ∈ runtime.names, isValidName name = true)
    : isValidChars (flatName runtime) = true := by
  rw [flatName_eq_flatMap]
  obtain ⟨first, rest, all⟩ := List.exists_cons_of_ne_nil runtime.names_ne_nil
  rw [all] at valid ⊢
  rw [List.flatMap_cons]
  refine isValidChars_append (valid first List.mem_cons_self) fun char held => ?_
  obtain ⟨name, listed, inside⟩ := List.mem_flatMap.mp held
  exact isNamePart_of_mem (valid name (List.mem_cons_of_mem _ listed)) inside

-----------------------------------------------------------------------------------------
-- What the kind adds and takes away
-----------------------------------------------------------------------------------------

theorem isValidChars_interfaceName (valid : isValidChars name = true)
    : isValidChars (interfaceName name) = true := by
  unfold interfaceName
  split
  · next second rest =>
      split
      · next upper => exact isValidChars_of_suffix valid (List.suffix_cons ..) upper
      · exact valid
  · exact valid

theorem isValidChars_inputName (valid : isValidChars name = true) {suffix : List Char}
    (parts : ∀ char ∈ suffix, isNamePart char = true)
    : isValidChars (inputName suffix name) = true := by
  unfold inputName
  split
  · exact valid
  · exact isValidChars_append valid parts

theorem isValidChars_directiveName (valid : isValidChars name = true)
    : isValidChars (directiveName Casing.unicode name) = true := by
  unfold directiveName
  split
  · next longer =>
      simp only [Bool.and_eq_true, decide_eq_true_eq] at longer
      have short := isValidChars_take valid (Nat.sub_pos_of_lt longer.2)
      rwa [isValidChars_lowerFirst fun char => isNamePart_of_mem short]
  · rwa [isValidChars_lowerFirst fun char => isNamePart_of_mem valid]

/-- From valid names, types of every kind get a valid one, as long as the suffix of input objects is
made of name characters. Completion takes the name for every definition of the host type that has no
name of its own.
Witness: the flat name is valid, and every kind puts name characters before or behind it.
-/
theorem typeName_valid {suffix : String}
    (valid : ∀ name ∈ runtime.names, isValidName name = true)
    (parts : ∀ char ∈ suffix.toList, isNamePart char = true)
    : let naming : Naming := ⟨suffix, Casing.unicode⟩
      (∀ kind, isValidName (naming.typeName runtime kind) = true)
      ∧ ∀ definition : Definition,
          definition.name = none
          → definition.runtime = runtime
          → runtime.isObject = false
          → definition.completeName naming
            = .ok (definition.withName (naming.typeName runtime definition.kind)) := by
  intro naming
  have flat := isValidChars_flatName valid
  have derived (kind : Kind) : isValidName (naming.typeName runtime kind) = true := by
    unfold typeName
    rw [isValidName_ofList]
    cases kind with
    | interface => exact isValidChars_interfaceName flat
    | inputObject => exact isValidChars_inputName flat parts
    | directive => exact isValidChars_directiveName flat
    | object | union | enum | scalar => exact flat
  refine ⟨derived, ?_⟩
  rintro definition nameless rfl hosted
  simp [Definition.completeName, Definition.chooseName, nameless, hosted, derived]

/-- Which connections are cached, as a host type with arguments. -/
def cachedConnections : RuntimeType :=
  .generic "CachedDirective" [.generic "Connection" [.named "User"], .named "_V2"]

/-- A directive without a name of its own. -/
def cached : Definition :=
  .directive
    {
      header := ⟨⟨"Cached"⟩, none, none, cachedConnections⟩
      arguments := []
      locations := Location.field.toLocations
      repeatable := false
    }

theorem cached_named
    : let naming : Naming := ⟨"_Args", Casing.unicode⟩
      (∀ name ∈ cachedConnections.names, isValidName name = true)
      ∧ (∀ char ∈ "_Args".toList, isNamePart char = true)
      ∧ (∀ kind, isValidName (naming.typeName cachedConnections kind) = true)
      ∧ cached.completeName naming = .ok (cached.withName "userConnection_V2Cached") := by
  intro naming
  have valid : ∀ name ∈ cachedConnections.names, isValidName name = true := by decide +kernel
  have parts : ∀ char ∈ "_Args".toList, isNamePart char = true :=
    List.all_eq_true.mp (by decide +kernel)
  obtain ⟨derived, completes⟩ := typeName_valid valid parts
  have name : naming.typeName cachedConnections .directive = "userConnection_V2Cached" := by
    decide +kernel
  exact ⟨valid, parts, derived, name ▸ completes cached rfl rfl (by decide +kernel)⟩

end Naming
end SchemaGraph
