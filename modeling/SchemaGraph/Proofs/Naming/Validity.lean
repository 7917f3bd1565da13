import Mathlib
import SchemaGraph.Naming

/-! What keeps a name valid.
A valid name stays valid when name characters are put behind it, when it is cut off behind its first
character, and when its first letter is made small.
-/

namespace SchemaGraph.Naming

variable {char : Char} {name left right : List Char}

-----------------------------------------------------------------------------------------
-- Characters
-----------------------------------------------------------------------------------------

/-- A part of a name may start one or is a digit. -/
theorem isNamePart_iff
    : isNamePart char = true ↔ isNameStart char = true ∨ char.isDigit = true := by
  simp [isNamePart, isNameStart, Char.isAlphanum, or_assoc]

/-- What may start a name may stand in it. -/
theorem isNamePart_of_isNameStart (start : isNameStart char = true) : isNamePart char = true :=
  isNamePart_iff.mpr (.inl start)

/-- A name may start with a letter. -/
theorem isNameStart_of_isAlpha (letter : char.isAlpha = true) : isNameStart char = true :=
  Bool.or_eq_true_iff.mpr (.inr letter)

theorem isNameStart_of_isUpper (upper : char.isUpper = true) : isNameStart char = true :=
  isNameStart_of_isAlpha (Bool.or_eq_true_iff.mpr (.inl upper))

/-- Names are made of ASCII. -/
theorem toNat_lt_of_isNamePart (part : isNamePart char = true) : char.toNat < 128 := by
  simp only [isNamePart, Char.isAlphanum, Char.isAlpha, Char.isUpper, Char.isLower, Char.isDigit,
    Bool.or_eq_true, Bool.and_eq_true, decide_eq_true_eq, UInt32.le_iff_toNat_le,
    ge_iff_le] at part
  have code : char.toNat = char.val.toNat := rfl
  rcases part with rfl | (⟨-, upper⟩ | ⟨-, lower⟩) | ⟨-, digit⟩
  · decide
  · exact code ▸ Nat.lt_of_le_of_lt upper (by decide)
  · exact code ▸ Nat.lt_of_le_of_lt lower (by decide)
  · exact code ▸ Nat.lt_of_le_of_lt digit (by decide)

/-- Digits have no case. -/
theorem isAlpha_of_isDigit (digit : char.isDigit = true) : char.isAlpha = false := by
  simp only [Char.isDigit, Char.isAlpha, Char.isUpper, Char.isLower, Bool.and_eq_true,
    decide_eq_true_eq, Bool.or_eq_false_iff, Bool.and_eq_false_iff, decide_eq_false_iff_not,
    UInt32.le_iff_toNat_le, ge_iff_le] at *
  have upper : 'A'.val.toNat = 65 := rfl
  have lower : 'a'.val.toNat = 97 := rfl
  have last : '9'.val.toNat = 57 := rfl
  omega

/-- Digits have no case. -/
theorem toLower_of_isDigit (digit : char.isDigit = true) : char.toLower = char := by
  refine Char.toLower_eq_of_not_isUpper ?_
  have caseless := isAlpha_of_isDigit digit
  simp_all [Char.isAlpha]

theorem toUpper_of_isDigit (digit : char.isDigit = true) : char.toUpper = char := by
  refine Char.toUpper_eq_of_not_isLower ?_
  have caseless := isAlpha_of_isDigit digit
  simp_all [Char.isAlpha]

/-- Parts of names are lowered as ASCII is, to one character. -/
theorem lower_of_isNamePart (part : isNamePart char = true)
    : Casing.unicode.lower char = [char.toLower] :=
  Casing.unicode_lower_ascii (toNat_lt_of_isNamePart part)

/-- Parts of names are raised as ASCII is, to one character. -/
theorem upper_of_isNamePart (part : isNamePart char = true)
    : Casing.unicode.upper char = [char.toUpper] :=
  Casing.unicode_upper_ascii (toNat_lt_of_isNamePart part)

/-- Made small, a character of a name starts a name just if it did before. -/
theorem isNameStart_toLower (part : isNamePart char = true)
    : isNameStart char.toLower = isNameStart char := by
  rcases isNamePart_iff.mp part with start | digit
  · rcases Bool.or_eq_true_iff.mp start with underscore | letter
    · cases of_decide_eq_true underscore
      rfl
    · rw [start, isNameStart_of_isAlpha (by rwa [Char.isAlpha_toLower_eq_isAlpha])]
  · rw [toLower_of_isDigit digit]

/-- A part of a name stays one in upper case. -/
theorem isNamePart_toUpper (part : isNamePart char = true)
    : isNamePart char.toUpper = true := by
  rcases isNamePart_iff.mp part with start | digit
  · refine isNamePart_of_isNameStart ?_
    rcases Bool.or_eq_true_iff.mp start with underscore | letter
    · cases of_decide_eq_true underscore
      rfl
    · exact isNameStart_of_isAlpha (by rwa [Char.isAlpha_toUpper_eq_isAlpha])
  · rwa [toUpper_of_isDigit digit]

-----------------------------------------------------------------------------------------
-- Names
-----------------------------------------------------------------------------------------

/-- A name is a start with parts behind it. -/
theorem isValidChars_cons_iff {first : Char} {rest : List Char}
    : isValidChars (first :: rest) = true
      ↔ isNameStart first = true ∧ ∀ char ∈ rest, isNamePart char = true := by
  simp [isValidChars]

theorem isValidName_ofList : isValidName (String.ofList name) = isValidChars name := by
  rw [isValidName, String.toList_ofList]

/-- Every character of a valid name is a part of one. -/
theorem isNamePart_of_mem (valid : isValidChars name = true) (held : char ∈ name)
    : isNamePart char = true := by
  cases name with
  | nil => cases held
  | cons first rest =>
      obtain ⟨start, parts⟩ := isValidChars_cons_iff.mp valid
      rcases List.mem_cons.mp held with rfl | behind
      · exact isNamePart_of_isNameStart start
      · exact parts char behind

/-- A valid name stays valid with parts behind it. -/
theorem isValidChars_append (valid : isValidChars left = true)
    (parts : ∀ char ∈ right, isNamePart char = true)
    : isValidChars (left ++ right) = true := by
  cases left with
  | nil => cases valid
  | cons first rest =>
      obtain ⟨start, before⟩ := isValidChars_cons_iff.mp valid
      exact isValidChars_cons_iff.mpr ⟨start, List.forall_mem_append.mpr ⟨before, parts⟩⟩

/-- The rest of a valid name is valid where it starts with a capital letter. -/
theorem isValidChars_of_suffix {first : Char} {rest : List Char}
    (valid : isValidChars name = true) (behind : first :: rest <:+ name)
    (upper : first.isUpper = true)
    : isValidChars (first :: rest) = true := by
  refine isValidChars_cons_iff.mpr ⟨isNameStart_of_isUpper upper, fun char held => ?_⟩
  exact isNamePart_of_mem valid (behind.mem (List.mem_cons_of_mem _ held))

/-- What a valid name starts with is valid unless it is nothing. -/
theorem isValidChars_take (valid : isValidChars name = true) {count : Nat} (positive : 0 < count)
    : isValidChars (name.take count) = true := by
  cases name with
  | nil => cases valid
  | cons first rest =>
      obtain ⟨start, parts⟩ := isValidChars_cons_iff.mp valid
      rw [List.take_cons positive, isValidChars_cons_iff]
      exact ⟨start, fun char held => parts char (List.mem_of_mem_take held)⟩

/-- Making the first letter of name characters small does not change whether they are a name. -/
theorem isValidChars_lowerFirst (parts : ∀ char ∈ name, isNamePart char = true)
    : isValidChars (Casing.unicode.lowerFirst name) = isValidChars name := by
  cases name with
  | nil => rfl
  | cons first rest =>
      have part := parts first List.mem_cons_self
      rw [Casing.lowerFirst, lower_of_isNamePart part, List.singleton_append, isValidChars,
        isValidChars, isNameStart_toLower part]

end SchemaGraph.Naming
