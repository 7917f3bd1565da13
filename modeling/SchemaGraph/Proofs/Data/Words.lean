import Mathlib

/-! Bits of words under sums and products that wrap.
A word that is clear below a bit keeps nothing but that bit when it is shifted up far enough. What a
word loses when bits of it are flipped follows from which of these bits were set.
-/

namespace SchemaGraph.Words

open scoped UInt64.CommRing

variable {word other left right : UInt64} {bit : Nat}

-----------------------------------------------------------------------------------------
-- Words that are clear below a bit
-----------------------------------------------------------------------------------------

/-- No bit is set that is lower than the given one. -/
def ClearBelow (word : UInt64) (bit : Nat) : Prop :=
  ∀ lower < bit, word.toNat.testBit lower = false

theorem ClearBelow.and (clear : ClearBelow other bit) (word : UInt64)
    : ClearBelow (word &&& other) bit := by
  intro lower below
  rw [UInt64.toNat_and, Nat.testBit_and, clear lower below, Bool.and_false]

theorem ClearBelow.two_pow_dvd (clear : ClearBelow word bit) : 2 ^ bit ∣ word.toNat := by
  refine Nat.dvd_of_mod_eq_zero (Nat.eq_of_testBit_eq fun index => ?_)
  rw [Nat.testBit_mod_two_pow, Nat.zero_testBit]
  by_cases below : index < bit
  · rw [clear index below, Bool.and_false]
  · simp [below]

/-- The power of the bit times an odd factor if the bit is set, times an even one otherwise. -/
theorem ClearBelow.exists_eq (clear : ClearBelow word bit)
    : ∃ rest : UInt64,
        word = 2 ^ bit * ((if word.toNat.testBit bit then 1 else 0) + 2 * rest) := by
  obtain ⟨factor, whole⟩ := clear.two_pow_dvd
  have set_iff : word.toNat.testBit bit = decide (factor % 2 = 1) := by
    rw [Nat.testBit_eq_decide_div_mod_eq, whole,
      Nat.mul_div_cancel_left factor (Nat.two_pow_pos bit)]
  have halved : word = ((2 ^ bit * (factor % 2 + 2 * (factor / 2)) : ℕ) : UInt64) := by
    rw [Nat.mod_add_div, ← whole]
    exact UInt64.ofNat_toNat.symm
  refine ⟨((factor / 2 : ℕ) : UInt64), ?_⟩
  rw [set_iff]
  rcases Nat.mod_two_eq_zero_or_one factor with even | odd
  · simpa [even] using halved
  · simpa [odd] using halved

theorem two_pow_64 : (2 : UInt64) ^ 64 = 0 := by
  decide +kernel

/-- Shifted to the highest place, the bit is all that is left. -/
theorem ClearBelow.mul_two_pow (clear : ClearBelow word bit) (inside : bit < 64)
    : word * 2 ^ (63 - bit) = if word.toNat.testBit bit then 2 ^ 63 else 0 := by
  obtain ⟨rest, whole⟩ := clear.exists_eq
  have shift : (2 : UInt64) ^ bit * 2 ^ (63 - bit) = 2 ^ 63 := pow_mul_pow_sub 2 (by omega)
  split at whole
  · next set =>
      rw [if_pos set]
      linear_combination 2 ^ (63 - bit) * whole + (1 + 2 * rest) * shift + rest * two_pow_64
  · next unset =>
      rw [if_neg unset]
      linear_combination 2 ^ (63 - bit) * whole + 2 * rest * shift + rest * two_pow_64

-----------------------------------------------------------------------------------------
-- Where words differ
-----------------------------------------------------------------------------------------

/-- The words agree below the bit, and in the bit they do not. -/
structure LowestDifference (left right : UInt64) (bit : Nat) : Prop where
  agree : ∀ lower < bit, left.toNat.testBit lower = right.toNat.testBit lower
  differ : left.toNat.testBit bit ≠ right.toNat.testBit bit

theorem LowestDifference.clearBelow (lowest : LowestDifference left right bit)
    : ClearBelow (left ^^^ right) bit := by
  intro lower below
  rw [UInt64.toNat_xor, Nat.testBit_xor, lowest.agree lower below, Bool.xor_self]

theorem LowestDifference.testBit_xor (lowest : LowestDifference left right bit)
    : (left ^^^ right).toNat.testBit bit = true := by
  rw [UInt64.toNat_xor, Nat.testBit_xor]
  exact Bool.xor_iff_ne.mpr lowest.differ

-----------------------------------------------------------------------------------------
-- Flipped bits
-----------------------------------------------------------------------------------------

/-- Words without a common bit add up to the word that has the bits of both. -/
theorem add_eq_of_bits {sum : UInt64}
    (apart
      : ∀ index < 64,
          (word.toBitVec.getLsbD index && other.toBitVec.getLsbD index) = false)
    (both
      : ∀ index < 64,
          (word.toBitVec.getLsbD index || other.toBitVec.getLsbD index)
            = sum.toBitVec.getLsbD index)
    : word + other = sum := by
  have disjoint : word.toBitVec &&& other.toBitVec = 0#64 :=
    BitVec.eq_of_getLsbD_eq fun index inside => by simpa using apart index inside
  refine UInt64.toBitVec_inj.mp ?_
  rw [UInt64.toBitVec_add, BitVec.add_eq_or_of_and_eq_zero _ _ disjoint]
  exact BitVec.eq_of_getLsbD_eq fun index inside => by simpa using both index inside

/-- A word is the sum of the bits it shares with another one and of those it does not. -/
theorem and_add_and_not (word other : UInt64)
    : (word &&& other) + (word &&& ~~~other) = word := by
  apply add_eq_of_bits <;> intro index inside <;> simp [inside] <;> grind

theorem and_not_add_and_not (word other : UInt64)
    : (word &&& ~~~other) + (other &&& ~~~word) = word ^^^ other := by
  apply add_eq_of_bits <;> intro index inside <;> simp [inside] <;> grind

/-- Flipping bits takes away those that were set and adds those that were not. -/
theorem sub_xor (word flips : UInt64)
    : word - (word ^^^ flips) = 2 * (word &&& flips) - flips := by
  have shared := and_add_and_not word flips
  have others := and_add_and_not flips word
  rw [UInt64.and_comm flips word] at others
  linear_combination and_not_add_and_not word flips - shared - others

-----------------------------------------------------------------------------------------
-- Flipped bits that are scaled
-----------------------------------------------------------------------------------------

/-- Flipping the highest bit changes every word by the same amount. -/
theorem sub_xor_highest (word : UInt64) : word - (word ^^^ 2 ^ 63) = 2 ^ 63 := by
  have clear : ClearBelow (2 ^ 63) 63 := by
    unfold ClearBelow
    decide +kernel
  have shared : word &&& 2 ^ 63 = 0 ∨ word &&& 2 ^ 63 = 2 ^ 63 := by
    have alone := (clear.and word).mul_two_pow (by decide)
    rw [Nat.sub_self, pow_zero, mul_one] at alone
    rw [alone]
    split
    · exact .inr rfl
    · exact .inl rfl
  rw [sub_xor]
  rcases shared with unset | set
  · rw [unset]
    linear_combination -two_pow_64
  · rw [set]
    ring

/-- Factors that keep the two lowest bits of every word. -/
def IsOneModFour (scale : UInt64) : Prop :=
  ∃ rest, scale = 1 + 4 * rest

theorem IsOneModFour.pow {scale : UInt64} (one : IsOneModFour scale) (count : Nat)
    : IsOneModFour (scale ^ count) := by
  induction count with
  | zero => exact ⟨0, by simp⟩
  | succ count ih =>
      obtain ⟨first, factor⟩ := one
      obtain ⟨rest, power⟩ := ih
      refine ⟨rest * scale + first, ?_⟩
      linear_combination scale * power + factor

theorem IsOneModFour.two_pow_63_mul {scale : UInt64} (one : IsOneModFour scale)
    : 2 ^ 63 * scale = 2 ^ 63 := by
  obtain ⟨rest, rfl⟩ := one
  linear_combination 2 * rest * two_pow_64

/-- Where the lowest flipped bit is set in one word and clear in the other, the flips change the
words by different amounts, also scaled.
Witness: shifted until the lowest flipped bit is the highest one of the words.
-/
theorem sub_xor_mul_ne {flips scale : UInt64} (clear : ClearBelow flips bit)
    (lowest : flips.toNat.testBit bit = true) (inside : bit < 63) (one : IsOneModFour scale)
    (apart : left.toNat.testBit bit ≠ right.toNat.testBit bit)
    : (left - (left ^^^ flips)) * scale ≠ right - (right ^^^ flips) := by
  intro same
  rw [sub_xor, sub_xor] at same
  have shifted (word : UInt64)
      : (word &&& flips) * 2 ^ (63 - bit) = if word.toNat.testBit bit then 2 ^ 63 else 0 := by
    rw [(clear.and word).mul_two_pow (by omega), UInt64.toNat_and, Nat.testBit_and, lowest,
      Bool.and_true]
  have flipped : flips * 2 ^ (63 - bit) = 2 ^ 63 := by
    rw [clear.mul_two_pow (by omega), if_pos lowest]
  have half : (2 : UInt64) ^ (63 - bit) = 2 * 2 ^ (62 - bit) := by
    rw [← pow_succ']
    congr 1
    omega
  have highest
      : (if left.toNat.testBit bit then 2 ^ 63 else 0) * scale
        = if right.toNat.testBit bit then (2 : UInt64) ^ 63 else 0 := by
    obtain ⟨rest, rfl⟩ := one
    rw [← shifted left, ← shifted right]
    linear_combination 2 ^ (62 - bit) * same
      + ((left &&& flips) * (1 + 4 * rest) - (right &&& flips) - 2 * flips * rest) * half
      + 2 * rest * flipped
      + rest * two_pow_64
  have nonzero : (2 : UInt64) ^ 63 ≠ 0 := by decide +kernel
  cases here : left.toNat.testBit bit with
  | false =>
      have there : right.toNat.testBit bit = true := by simpa [here] using apart.symm
      rw [here, there, if_neg Bool.false_ne_true, zero_mul, if_pos rfl] at highest
      exact nonzero highest.symm
  | true =>
      have there : right.toNat.testBit bit = false := by simpa [here] using apart.symm
      rw [here, there, if_pos rfl, one.two_pow_63_mul, if_neg Bool.false_ne_true] at highest
      exact nonzero highest

end SchemaGraph.Words
