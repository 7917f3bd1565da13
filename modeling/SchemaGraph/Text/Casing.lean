import SchemaGraph.Text.CaseTable

/-! Changing the case of single characters.
A mapping may yield several characters (`ß` becomes `SS`), so both directions give a list.
-/

namespace SchemaGraph

/-- How characters change case, each on its own and without regard to its neighbours. -/
structure Casing where
  upper : Char → List Char
  lower : Char → List Char

namespace Casing

/-- The letters of ASCII have their own rule; every other character is looked up. -/
def unicode : Casing where
  upper char :=
    if char.toNat < 128 then [char.toUpper]
    else (CaseTable.lookup? CaseTable.upperRuns CaseTable.upperExpansions char.toNat).getD [char]
  lower char :=
    if char.toNat < 128 then [char.toLower]
    else (CaseTable.lookup? CaseTable.lowerRuns CaseTable.lowerExpansions char.toNat).getD [char]

instance : Inhabited Casing := ⟨unicode⟩

theorem unicode_upper_ascii {char : Char} (h : char.toNat < 128)
    : unicode.upper char = [char.toUpper] := by
  simp [unicode, h]

theorem unicode_lower_ascii {char : Char} (h : char.toNat < 128)
    : unicode.lower char = [char.toLower] := by
  simp [unicode, h]

/-- Changes the first character only. -/
def lowerFirst (casing : Casing) : List Char → List Char
  | [] => []
  | first :: rest => casing.lower first ++ rest

end Casing
end SchemaGraph
