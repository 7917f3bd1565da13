import SchemaGraph.Proofs.Naming.Validity
import SchemaGraph.Proofs.Text.Casing

/-! The names that fields get from members.
A derived name is derived from itself: no underscore is left behind its first character, so there is
nothing to fold and no `get_` to drop, and it starts with no capital letter. A valid member gives a
valid name, unless dropping `get_` leaves nothing or a digit in front.
-/

namespace SchemaGraph.Naming

variable {casing : Casing} {first : Char} {rest name member : List Char}

-----------------------------------------------------------------------------------------
-- Derived names are settled
-----------------------------------------------------------------------------------------

/-- Nothing in the name is left to drop, to fold or to make small. -/
structure IsSettled (casing : Casing) (name : List Char) : Prop where
  small : ∀ first ∈ name.head?, casing.lower first = [first] ∧ first ≠ 'G'
  folded : '_' ∉ name.tail

theorem underscore_not_mem_foldUnderscores (orderly : casing.Orderly) (raise : Bool)
    (name : List Char)
    : '_' ∉ foldUnderscores casing raise name := by
  fun_induction foldUnderscores casing raise name with
  | case1 => exact List.not_mem_nil
  | case2 raise rest ih => exact ih
  | case3 raise char rest other ih =>
      intro held
      rcases List.mem_append.mp held with here | behind
      · cases raise with
        | true => exact other (orderly.upper_underscore here)
        | false => exact other (List.mem_singleton.mp here).symm
      · exact ih behind

theorem foldUnderscores_of_not_mem (folded : '_' ∉ name)
    : foldUnderscores casing false name = name := by
  induction name with
  | nil => rfl
  | cons char rest ih =>
      have other : char ≠ '_' := fun same => folded (same ▸ List.mem_cons_self)
      have behind : '_' ∉ rest := fun held => folded (List.mem_cons_of_mem _ held)
      rw [foldUnderscores, ih behind]
      · rfl
      · exact other

theorem dropGet_of_folded (other : first ≠ 'G') (folded : '_' ∉ rest)
    : dropGet (first :: rest) = first :: rest := by
  unfold dropGet
  split <;> simp_all

/-- The characters of a derived name are settled: the first one is lowered already, and none of them
is an underscore.
-/
theorem memberChars_isSettled (orderly : casing.Orderly) (member : List Char)
    : IsSettled casing (memberChars casing member) := by
  rw [memberChars]
  cases dropGet member with
  | nil => exact ⟨nofun, List.not_mem_nil⟩
  | cons first rest =>
      rw [camelCase, Casing.lowerFirst]
      cases lowered : casing.lower first with
      | nil => exact absurd lowered (orderly.lower_ne_nil first)
      | cons small others =>
          have held : small ∈ casing.lower first := lowered ▸ List.mem_cons_self
          refine ⟨?_, ?_⟩
          · intro start here
            cases (Option.some.inj here : small = start)
            refine ⟨orderly.lower_lowered held, ?_⟩
            rintro rfl
            exact orderly.g_not_mem_lower first held
          · intro underscore
            rcases List.mem_append.mp underscore with among | behind
            · exact orderly.underscore_not_mem_others lowered among
            · exact underscore_not_mem_foldUnderscores orderly _ _ behind

theorem memberChars_of_isSettled (settled : IsSettled casing name)
    : memberChars casing name = name := by
  cases name with
  | nil => rfl
  | cons first rest =>
      obtain ⟨small, other⟩ := settled.small first rfl
      have folded : '_' ∉ rest := settled.folded
      rw [memberChars, dropGet_of_folded other folded, camelCase,
        foldUnderscores_of_not_mem folded, Casing.lowerFirst, small, List.singleton_append]

/-- The tables of Unicode are orderly. Under all orderly tables, a field name is derived from
itself, and has no underscore behind its first character.
Witness: a derived name is settled, and a settled name is derived from itself.
-/
theorem memberName_settles
    : Casing.unicode.Orderly
      ∧ ∀ (naming : Naming) (member : String),
          naming.casing.Orderly
          → naming.memberName (naming.memberName member) = naming.memberName member
            ∧ '_' ∉ (naming.memberName member).toList.tail := by
  refine ⟨Casing.unicode_orderly, fun naming member orderly => ?_⟩
  have settled := memberChars_isSettled orderly member.toList
  have chars : (naming.memberName member).toList = memberChars naming.casing member.toList :=
    String.toList_ofList
  refine ⟨?_, chars ▸ settled.folded⟩
  rw [memberName, chars, memberChars_of_isSettled settled, memberName]

/-- A letter that grows into two when it is made small, and one when it is made large. -/
theorem istanbul_settles
    : standard.casing.Orderly
      ∧ standard.memberName "get_İstanbul__ßahn_" = "i̇stanbulSSahn"
      ∧ standard.memberName "i̇stanbulSSahn" = "i̇stanbulSSahn"
      ∧ '_' ∉ "i̇stanbulSSahn".toList.tail := by
  have orderly : standard.casing.Orderly := memberName_settles.1
  have name : standard.memberName "get_İstanbul__ßahn_" = "i̇stanbulSSahn" := by decide +kernel
  obtain ⟨again, folded⟩ := memberName_settles.2 standard "get_İstanbul__ßahn_" orderly
  exact ⟨orderly, name, name ▸ again, name ▸ folded⟩

-----------------------------------------------------------------------------------------
-- Valid members
-----------------------------------------------------------------------------------------

theorem isNamePart_foldUnderscores (raise : Bool) (parts : ∀ char ∈ name, isNamePart char = true)
    : ∀ char ∈ foldUnderscores Casing.unicode raise name, isNamePart char = true := by
  fun_induction foldUnderscores Casing.unicode raise name with
  | case1 => exact nofun
  | case2 raise rest ih => exact ih fun char held => parts char (List.mem_cons_of_mem _ held)
  | case3 raise char rest _ ih =>
      have part := parts char List.mem_cons_self
      refine List.forall_mem_append.mpr
        ⟨?_, ih fun char held => parts char (List.mem_cons_of_mem _ held)⟩
      cases raise with
      | true => simpa [upper_of_isNamePart part] using isNamePart_toUpper part
      | false => simpa using part

theorem dropGet_suffix (member : List Char) : dropGet member <:+ member := by
  unfold dropGet
  split
  · next rest => exact ⟨['g', 'e', 't', '_'], rfl⟩
  · next first rest =>
      split
      · exact ⟨['G', 'e', 't'], rfl⟩
      · exact List.suffix_rfl
  · exact List.suffix_rfl

/-- Folding and making small leave it to the dropped `get_` whether the name is valid. -/
theorem isValidChars_memberChars (parts : ∀ char ∈ member, isNamePart char = true)
    : isValidChars (memberChars Casing.unicode member) = isValidChars (dropGet member) := by
  have kept : ∀ char ∈ dropGet member, isNamePart char = true :=
    fun char held => parts char ((dropGet_suffix member).mem held)
  rw [memberChars]
  cases dropped : dropGet member with
  | nil => rfl
  | cons first rest =>
      rw [dropped] at kept
      obtain ⟨part, behind⟩ := List.forall_mem_cons.mp kept
      have folded := isNamePart_foldUnderscores false behind
      rw [camelCase, isValidChars_lowerFirst (List.forall_mem_cons.mpr ⟨part, folded⟩)]
      rw [isValidChars, isValidChars, List.all_eq_true.mpr folded, List.all_eq_true.mpr behind]

/-- `Get` is dropped in front of a capital letter only. -/
theorem isValidChars_dropGet_iff (valid : isValidChars member = true)
    : isValidChars (dropGet member) = true
      ↔ ∀ rest, member = 'g' :: 'e' :: 't' :: '_' :: rest → isValidChars rest = true := by
  unfold dropGet
  split
  · next rest => simp
  · next first rest =>
      refine iff_of_true ?_ nofun
      split
      · next upper => exact isValidChars_of_suffix valid ⟨['G', 'e', 't'], rfl⟩ upper
      · exact valid
  · next other _ => exact iff_of_true valid fun rest same => absurd same (other rest)

/-- A valid member gives a field a valid name, unless it is `get_` in front of what is no name. -/
theorem memberName_valid_iff (suffix : String) {member : String}
    (valid : isValidName member = true)
    : isValidName (memberName ⟨suffix, Casing.unicode⟩ member) = true
      ↔ ∀ rest, member = "get_" ++ rest → isValidName rest = true := by
  rw [memberName, isValidName_ofList, isValidChars_memberChars fun char => isNamePart_of_mem valid,
    isValidChars_dropGet_iff valid]
  constructor
  · intro all rest same
    exact all rest.toList (by simp [same])
  · intro all rest same
    have whole : member = "get_" ++ String.ofList rest := String.toList_injective (by simp [same])
    rw [← isValidName_ofList]
    exact all (String.ofList rest) whole

theorem getUserName_valid
    : isValidName "get_user_name" = true
      ∧ (∀ rest, "get_user_name" = "get_" ++ rest → isValidName rest = true)
      ∧ isValidName (standard.memberName "get_user_name") = true := by
  have valid : isValidName "get_user_name" = true := by decide +kernel
  have behind (rest : String) (same : "get_user_name" = "get_" ++ rest)
      : isValidName rest = true := by
    have chars : "user_name".toList = rest.toList := by simpa using congrArg String.toList same
    cases String.toList_injective chars
    decide +kernel
  exact ⟨valid, behind, (memberName_valid_iff standard.inputSuffix valid).mpr behind⟩

/-- What is left of a member behind `get_` may be nothing, or start with a digit. -/
theorem getters_not_valid
    : isValidName "get_" = true
      ∧ standard.memberName "get_" = ""
      ∧ isValidName "" = false
      ∧ isValidName "get_2nd" = true
      ∧ standard.memberName "get_2nd" = "2nd"
      ∧ isValidName "2nd" = false := by
  decide +kernel

end SchemaGraph.Naming
