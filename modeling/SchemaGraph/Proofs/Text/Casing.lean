import Mathlib
import SchemaGraph.Text.Casing

/-! The case mappings of Unicode settle at once.
A lower-case letter stays as it is, and mappings keep away from the underscore. For the runs of the
table this follows from their bounds: a run shifts its code points either past another run, or
between the points of one that takes every second point.
-/

namespace SchemaGraph

/-- What names that are made from other names rely on. -/
structure Casing.Orderly (casing : Casing) : Prop where
  /-- A mapping yields one or more characters. -/
  lower_ne_nil (char : Char) : casing.lower char ≠ []
  /-- Lower-casing a lower-cased character changes nothing. -/
  lower_lowered {char lowered : Char}
    : lowered ∈ casing.lower char → casing.lower lowered = [lowered]
  /-- Lower-casing yields no underscore, if it is not an underscore that stays one. -/
  lower_underscore {char : Char} : '_' ∈ casing.lower char → casing.lower char = ['_']
  upper_underscore {char : Char} : '_' ∈ casing.upper char → char = '_'
  g_not_mem_lower (char : Char) : 'G' ∉ casing.lower char

/-- Where lower-casing yields several characters, none of them is an underscore. -/
theorem Casing.Orderly.underscore_not_mem_others {casing : Casing} (orderly : casing.Orderly)
    {char small : Char} {others : List Char} (lowered : casing.lower char = small :: others)
    : '_' ∉ others := by
  intro among
  have alone := orderly.lower_underscore (lowered ▸ List.mem_cons_of_mem small among)
  rw [lowered] at alone
  cases alone
  cases among

namespace CaseTable

variable {runs : List Run} {expansions : List (Nat × List Nat)} {run other : Run} {code : Nat}
  {char mapped : Char}

/-- The code point that the run shifts another one to. -/
def Run.target (run : Run) (code : Nat) : Nat :=
  ((code : Int) + run.shift).toNat

/-- A table leaves a character alone, or has an expansion or a run for it. -/
theorem mem_lookup?_getD (held : mapped ∈ (lookup? runs expansions code).getD [char])
    : ((lookup? runs expansions code).getD [char] = [char] ∧ mapped = char)
      ∨ (∃ entry ∈ expansions, ∃ target ∈ entry.2, mapped = Char.ofNat target)
      ∨ ∃ run ∈ runs, run.covers code = true ∧ mapped = Char.ofNat (run.target code) := by
  cases expanded : expansions.lookup code with
  | some codes =>
      simp only [lookup?, expanded, Option.getD_some, List.mem_map] at held
      obtain ⟨target, listed, rfl⟩ := held
      obtain ⟨front, back, whole, -⟩ := List.lookup_eq_some_iff.mp expanded
      exact .inr (.inl ⟨(code, codes), by simp [whole], target, listed, rfl⟩)
  | none =>
      cases covered : runs.find? fun run => run.covers code with
      | none =>
          have alone : (lookup? runs expansions code).getD [char] = [char] := by
            simp [lookup?, expanded, covered]
          rw [alone, List.mem_singleton] at held
          exact .inl ⟨alone, held⟩
      | some run =>
          have covers : run.covers code = true := by simpa using List.find?_some covered
          simp only [lookup?, expanded, covered, Option.map_some, Option.getD_some,
            List.mem_singleton] at held
          exact .inr (.inr ⟨run, List.mem_of_find?_eq_some covered, covers, held⟩)

/-- No character is mapped to nothing, since no expansion is empty. -/
theorem lookup?_getD_ne_nil (full : ∀ entry ∈ expansions, entry.2 ≠ [])
    : (lookup? runs expansions code).getD [char] ≠ [] := by
  cases expanded : expansions.lookup code with
  | some codes =>
      obtain ⟨front, back, whole, -⟩ := List.lookup_eq_some_iff.mp expanded
      simpa [lookup?, expanded] using full (code, codes) (by simp [whole])
  | none =>
      cases covered : runs.find? fun run => run.covers code <;>
        simp [lookup?, expanded, covered]

/-- Whether the run shifts its code points past the other run, or in between its points. The bounds
tell, so a table is checked run by run and not code point by code point.
-/
def Run.avoids (run other : Run) : Bool :=
  (run.target run.last).blt other.first
    || other.last.blt (run.target run.first)
    || ((run.step == 2 || run.first == run.last)
      && other.step == 2
      && (run.target run.first + other.first) % 2 == 1)

/-- The other run covers nothing that the run shifts its code points to.
Witness: behind an odd distance there is no second point of a run of every second point.
-/
theorem Run.not_covers_target (apart : run.avoids other = true)
    (rises : 0 < run.target run.first) (covered : run.covers code = true)
    : other.covers (run.target code) = false := by
  refine Bool.eq_false_iff.mpr fun hit => ?_
  simp only [avoids, covers, Bool.or_eq_true, Bool.and_eq_true, decide_eq_true_eq, beq_iff_eq,
    Nat.blt_eq] at apart covered hit
  simp only [target] at apart hit rises
  obtain ⟨⟨first, last⟩, step⟩ := covered
  rcases apart with (before | behind) | ⟨⟨shape, even⟩, odd⟩
  · omega
  · omega
  · rw [even] at hit
    rcases shape with pairs | single
    · rw [pairs] at step
      omega
    · omega

/-- The code points that a table has entries for. -/
def entries (runs : List Run) (expansions : List (Nat × List Nat)) : List Run :=
  expansions.map (fun entry => ⟨entry.1, entry.1, 1, 0⟩) ++ runs

/-- A character that no entry covers is not mapped. -/
theorem lookup?_eq_none (missed : ∀ entry ∈ entries runs expansions, entry.covers code = false)
    : lookup? runs expansions code = none := by
  obtain ⟨alone, uncovered⟩ := List.forall_mem_append.mp missed
  have unexpanded : expansions.lookup code = none := by
    refine List.lookup_eq_none_iff.mpr fun entry listed => ?_
    have apart := alone _ (List.mem_map_of_mem listed)
    rw [bne_iff_ne]
    rintro rfl
    simp [Run.covers] at apart
  have unfound : runs.find? (fun run => run.covers code) = none := by
    simpa using uncovered
  simp [lookup?, unexpanded, unfound]

/-- Lower-case letters are behind the underscore and have no entries. -/
theorem lowerRuns_avoid
    : (lowerRuns.all fun run =>
        '_'.toNat.blt (run.target run.first)
          && (entries lowerRuns lowerExpansions).all run.avoids)
      = true := by
  decide +kernel

/-- What a run lowers to is behind the underscore and is lowered no further, as the table was
checked to be.
-/
theorem lowerRun_target (listed : run ∈ lowerRuns) (covered : run.covers code = true)
    : '_'.toNat < run.target code
      ∧ lookup? lowerRuns lowerExpansions (run.target code) = none := by
  have checked := List.all_eq_true.mp lowerRuns_avoid run listed
  simp only [Bool.and_eq_true, Nat.blt_eq, List.all_eq_true] at checked
  obtain ⟨behind, apart⟩ := checked
  refine ⟨?_, lookup?_eq_none fun entry among => ?_⟩
  · simp only [Run.covers, Bool.and_eq_true, decide_eq_true_eq] at covered
    simp only [Run.target] at behind ⊢
    omega
  · exact Run.not_covers_target (apart entry among) (Nat.zero_lt_of_lt behind) covered

/-- No run of the upper-case table hits the underscore. -/
theorem upperRuns_avoid
    : (upperRuns.all fun run =>
        (0).blt (run.target run.first) && run.avoids ⟨'_'.toNat, '_'.toNat, 1, 0⟩)
      = true := by
  decide +kernel

/-- No run raises to the underscore, as the table was checked to be. -/
theorem upperRun_target (listed : run ∈ upperRuns) (covered : run.covers code = true)
    : run.target code ≠ '_'.toNat := by
  have checked := List.all_eq_true.mp upperRuns_avoid run listed
  simp only [Bool.and_eq_true, Nat.blt_eq] at checked
  have missed := Run.not_covers_target checked.2 checked.1 covered
  intro same
  rw [same] at missed
  exact absurd missed (by decide)

end CaseTable

namespace Casing

open CaseTable

variable {char lowered : Char} {code : Nat}

/-- Upper case letters of ASCII are in one range. -/
theorem toNat_of_isUpper (upper : char.isUpper = true) : 65 ≤ char.toNat ∧ char.toNat ≤ 90 := by
  simpa [Char.isUpper, UInt32.le_iff_toNat_le] using upper

/-- ASCII is lowered to ASCII. -/
theorem toNat_toLower_lt (ascii : char.toNat < 128) : char.toLower.toNat < 128 := by
  by_cases upper : char.isUpper = true
  · obtain ⟨-, last⟩ := toNat_of_isUpper upper
    rw [Char.toLower_eq_of_isUpper upper, Char.toNat_ofNat]
    split <;> omega
  · rwa [Char.toLower_eq_of_not_isUpper upper]

/-- A code point is that of its character, unless there is none. -/
theorem toNat_ofNat_of_pos (positive : 0 < (Char.ofNat code).toNat)
    : (Char.ofNat code).toNat = code := by
  rw [Char.toNat_ofNat] at positive ⊢
  split <;> simp_all

theorem code_of_underscore (same : Char.ofNat code = '_') : code = '_'.toNat := by
  rw [← same, toNat_ofNat_of_pos]
  rw [same]
  decide

/-- Beyond ASCII, the table decides. -/
theorem unicode_lower_beyond (beyond : ¬char.toNat < 128)
    : unicode.lower char
      = (lookup? lowerRuns lowerExpansions char.toNat).getD [char] := by
  simp [unicode, beyond]

/-- Beyond ASCII, the table decides. -/
theorem unicode_upper_beyond (beyond : ¬char.toNat < 128)
    : unicode.upper char
      = (lookup? upperRuns upperExpansions char.toNat).getD [char] := by
  simp [unicode, beyond]

/-- Behind the underscore there are no capital letters in ASCII. -/
theorem unicode_lower_ofNat (behind : '_'.toNat < code)
    (unmapped : lookup? lowerRuns lowerExpansions code = none)
    : unicode.lower (Char.ofNat code) = [Char.ofNat code] := by
  by_cases ascii : (Char.ofNat code).toNat < 128
  · rw [unicode_lower_ascii ascii]
    refine congrArg (fun lowered => [lowered]) (Char.toLower_eq_of_not_isUpper fun upper => ?_)
    obtain ⟨first, last⟩ := toNat_of_isUpper upper
    have same := toNat_ofNat_of_pos (Nat.lt_of_lt_of_le (by decide) first)
    have underscore : '_'.toNat = 95 := rfl
    omega
  · have same := toNat_ofNat_of_pos (Nat.lt_of_lt_of_le (by decide) (Nat.le_of_not_lt ascii))
    rw [unicode_lower_beyond ascii, same, unmapped, Option.getD_none]

/-- The expansions are lower-case as well, and have no underscore. -/
theorem lowerExpansions_settle
    : ∀ entry ∈ lowerExpansions,
        entry.2 ≠ []
        ∧ ∀ target ∈ entry.2,
            unicode.lower (Char.ofNat target) = [Char.ofNat target]
            ∧ Char.ofNat target ≠ '_' := by
  decide +kernel

/-- No character is expanded to an underscore in upper case. -/
theorem upperExpansions_settle
    : ∀ entry ∈ upperExpansions, ∀ target ∈ entry.2, Char.ofNat target ≠ '_' := by
  decide +kernel

/-- What was lowered is lowered to itself, and an underscore stems from an underscore only.
Witness: in ASCII by the case of the letter, and beyond it by the checks of the table.
-/
theorem unicode_lower_lowered (held : lowered ∈ unicode.lower char)
    : unicode.lower lowered = [lowered]
      ∧ (lowered = '_' → unicode.lower char = [lowered]) := by
  by_cases ascii : char.toNat < 128
  · rw [unicode_lower_ascii ascii] at held ⊢
    cases List.mem_singleton.mp held
    rw [unicode_lower_ascii (toNat_toLower_lt ascii), Char.toLower_toLower_eq_toLower]
    exact ⟨rfl, fun _ => rfl⟩
  · rw [unicode_lower_beyond ascii] at held ⊢
    rcases mem_lookup?_getD held with ⟨alone, rfl⟩ | ⟨entry, listed, target, among, rfl⟩
      | ⟨run, listed, covered, rfl⟩
    · rw [unicode_lower_beyond ascii, alone]
      exact ⟨rfl, fun _ => rfl⟩
    · obtain ⟨settled, other⟩ := (lowerExpansions_settle entry listed).2 target among
      exact ⟨settled, fun underscore => absurd underscore other⟩
    · obtain ⟨behind, unmapped⟩ := lowerRun_target listed covered
      refine ⟨unicode_lower_ofNat behind unmapped, fun underscore => ?_⟩
      have same := code_of_underscore underscore
      omega

/-- Every character is lowered to something. -/
theorem unicode_lower_ne_nil (char : Char) : unicode.lower char ≠ [] := by
  by_cases ascii : char.toNat < 128
  · simp [unicode_lower_ascii ascii]
  · rw [unicode_lower_beyond ascii]
    exact lookup?_getD_ne_nil fun entry listed => (lowerExpansions_settle entry listed).1

/-- An underscore in upper case stems from an underscore. -/
theorem unicode_upper_underscore (held : '_' ∈ unicode.upper char) : char = '_' := by
  by_cases ascii : char.toNat < 128
  · rw [unicode_upper_ascii ascii, List.mem_singleton] at held
    have caseless : char.isAlpha = false := by
      rw [← Char.isAlpha_toUpper_eq_isAlpha, ← held]
      rfl
    rw [held, Char.toUpper_eq_of_not_isLower]
    simp_all [Char.isAlpha]
  · rw [unicode_upper_beyond ascii] at held
    rcases mem_lookup?_getD held with ⟨-, same⟩ | ⟨entry, listed, target, among, same⟩
      | ⟨run, listed, covered, same⟩
    · exact same.symm
    · exact absurd same.symm (upperExpansions_settle entry listed target among)
    · exact absurd (code_of_underscore same.symm) (upperRun_target listed covered)

/-- The tables of Unicode are orderly. -/
theorem unicode_orderly : unicode.Orderly where
  lower_ne_nil := unicode_lower_ne_nil
  lower_lowered held := (unicode_lower_lowered held).1
  lower_underscore held := (unicode_lower_lowered held).2 rfl
  upper_underscore := unicode_upper_underscore
  g_not_mem_lower char held := by
    have settled : unicode.lower 'G' = ['G'] := (unicode_lower_lowered held).1
    rw [unicode_lower_ascii (by decide)] at settled
    exact absurd settled (by decide)

end Casing
end SchemaGraph
