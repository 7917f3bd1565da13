import SchemaGraph.Hash.TypeHash
import SchemaGraph.Proofs.Data.Words

/-! What the digest of a generic type tells about its arguments.
The separator is odd, so that a change of one argument is carried through all later positions and
never lost. Two changes may cancel out, however: arguments that change places leave the digest as it
is when the markers of their positions mix them to the same difference, up to the separators between
them. The highest bit is worth the same in all positions.
-/

namespace SchemaGraph.TypeHash

open Words
open scoped UInt64.CommRing

variable {arguments : List TypeHash} {index first second : Nat}

theorem word_inj {left right : TypeHash} : left.word = right.word ↔ left = right := by
  cases left
  cases right
  simp

/-- An argument as it is added in its position. -/
def mixed (position : Nat) (argument : TypeHash) : UInt64 :=
  marker position ^^^ argument.word

theorem mixed_inj {position : Nat} {left right : TypeHash}
    : mixed position left = mixed position right ↔ left = right := by
  rw [mixed, mixed, UInt64.xor_right_inj, word_inj]

-----------------------------------------------------------------------------------------
-- The separator
-----------------------------------------------------------------------------------------

/-- The separator has an inverse, as every odd word does. -/
theorem isUnit_separator : IsUnit separator :=
  IsUnit.of_mul_eq_one 0xd3f20f0a40208825 (by decide)

theorem isOneModFour_separator : IsOneModFour separator :=
  ⟨0x12f2535af41814eb, by decide⟩

-----------------------------------------------------------------------------------------
-- Differences on their way through the positions
-----------------------------------------------------------------------------------------

theorem absorbArguments_cons (hash : UInt64) (position : Nat) (argument : TypeHash)
    (rest : List TypeHash)
    : absorbArguments hash position (argument :: rest)
      = absorbArguments (hash * separator + mixed position argument) (position + 1) rest :=
  rfl

/-- Each later argument multiplies a difference once. -/
theorem absorbArguments_add (hash difference : UInt64) (position : Nat) (arguments : List TypeHash)
    : absorbArguments (hash + difference) position arguments
      = absorbArguments hash position arguments + difference * separator ^ arguments.length := by
  induction arguments generalizing hash difference position with
  | nil => simp [absorbArguments]
  | cons argument rest ih =>
      have step
          : (hash + difference) * separator + mixed position argument
            = hash * separator + mixed position argument + difference * separator := by
        ring
      rw [absorbArguments_cons, absorbArguments_cons, step, ih, List.length_cons, pow_succ',
        mul_assoc]

/-- An argument that is set makes a difference in its position, which the later ones carry on.
Witness: induction on the arguments; a difference in the state is multiplied by every argument
behind it.
-/
theorem absorbArguments_set (hash : UInt64) (position : Nat) (inside : index < arguments.length)
    (argument : TypeHash)
    : absorbArguments hash position (arguments.set index argument)
      = absorbArguments hash position arguments
        + (mixed (position + index) argument - mixed (position + index) arguments[index])
          * separator ^ (arguments.length - 1 - index) := by
  induction arguments generalizing hash position index with
  | nil => cases inside
  | cons old rest ih =>
      cases index with
      | zero =>
          have step
              : hash * separator + mixed position argument
                = hash * separator + mixed position old
                  + (mixed position argument - mixed position old) := by
            ring
          rw [List.set_cons_zero, absorbArguments_cons, absorbArguments_cons, step,
            absorbArguments_add]
          rfl
      | succ index =>
          have behind : index < rest.length := Nat.lt_of_succ_lt_succ inside
          have place : position + 1 + index = position + (index + 1) := by omega
          have later : rest.length - 1 - index = (old :: rest).length - 1 - (index + 1) := by
            rw [List.length_cons]
            omega
          rw [List.set_cons_succ, absorbArguments_cons, absorbArguments_cons, ih _ _ behind, place,
            later, List.getElem_cons_succ]

/-- Arguments that change places leave two differences, the first one multiplied once for each
position between them.
-/
theorem absorbArguments_exchange (hash : UInt64) (order : first < second)
    (inside : second < arguments.length)
    : absorbArguments hash 0
        ((arguments.set first arguments[second]).set second arguments[first])
      = absorbArguments hash 0 arguments
        + (mixed second arguments[first] - mixed second arguments[second]
            - (mixed first arguments[first] - mixed first arguments[second])
              * separator ^ (second - first))
          * separator ^ (arguments.length - 1 - second) := by
  have power
      : separator ^ (arguments.length - 1 - first)
        = separator ^ (second - first) * separator ^ (arguments.length - 1 - second) := by
    rw [← pow_add]
    congr 1
    omega
  rw [absorbArguments_set hash 0 (by simpa using inside),
    absorbArguments_set hash 0 (order.trans inside), List.getElem_set_ne order.ne]
  simp only [List.length_set, Nat.zero_add, power]
  ring

-----------------------------------------------------------------------------------------
-- Digests of generic types
-----------------------------------------------------------------------------------------

theorem word_ofGeneric (name : String) (nonempty : 0 < arguments.length)
    : (ofGeneric name arguments).word
      = absorbArguments (genericDomain ^^^ nameDigest name) 0 arguments := by
  cases arguments with
  | nil => cases nonempty
  | cons argument rest => rfl

theorem ofGeneric_eq_iff (name : String) {left right : List TypeHash} (nonempty : 0 < left.length)
    (same : left.length = right.length)
    : ofGeneric name left = ofGeneric name right
      ↔ absorbArguments (genericDomain ^^^ nameDigest name) 0 left
        = absorbArguments (genericDomain ^^^ nameDigest name) 0 right := by
  rw [← word_inj, word_ofGeneric name nonempty, word_ofGeneric name (same ▸ nonempty)]

/-- The digest tells every argument, in whatever position it is. -/
theorem ofGeneric_set_eq_iff (name : String) (inside : index < arguments.length)
    (argument : TypeHash)
    : ofGeneric name (arguments.set index argument) = ofGeneric name arguments
      ↔ argument = arguments[index] := by
  have nonempty : 0 < (arguments.set index argument).length := by
    simpa using Nat.zero_lt_of_lt inside
  rw [ofGeneric_eq_iff name nonempty List.length_set, absorbArguments_set _ 0 inside, add_eq_left,
    (isUnit_separator.pow _).mul_left_eq_zero, sub_eq_zero, mixed_inj]

/-- A position that has no marker of its own. -/
theorem tuple_argument_told
    : 18 < (List.replicate 20 (ofName "Key")).length
      ∧ ofGeneric "Tuple" ((List.replicate 20 (ofName "Key")).set 18 (ofName "Value"))
        ≠ ofGeneric "Tuple" (List.replicate 20 (ofName "Key")) := by
  have inside : 18 < (List.replicate 20 (ofName "Key")).length := by simp
  have other : ofName "Value" ≠ ofName "Key" := by decide +kernel
  refine ⟨inside, fun same => other ?_⟩
  simpa using (ofGeneric_set_eq_iff "Tuple" inside (ofName "Value")).mp same

-----------------------------------------------------------------------------------------
-- Arguments that change places
-----------------------------------------------------------------------------------------

/-- The digest stays the same just if the markers of both positions mix the arguments to the same
difference, up to the separators between the positions.
-/
theorem ofGeneric_exchange (name : String) (order : first < second)
    (inside : second < arguments.length)
    : ofGeneric name ((arguments.set first arguments[second]).set second arguments[first])
        = ofGeneric name arguments
      ↔ (mixed first arguments[first] - mixed first arguments[second])
          * separator ^ (second - first)
        = mixed second arguments[first] - mixed second arguments[second] := by
  have nonempty
      : 0 < ((arguments.set first arguments[second]).set second arguments[first]).length := by
    simpa using Nat.zero_lt_of_lt inside
  rw [ofGeneric_eq_iff name nonempty (by simp), absorbArguments_exchange _ order inside,
    add_eq_left, (isUnit_separator.pow _).mul_left_eq_zero, sub_eq_zero, eq_comm]

/-- Two arguments differ in the same bits before and after they are mixed. -/
theorem mixed_eq_xor (position : Nat) (left right : TypeHash)
    : mixed position right = mixed position left ^^^ (left.word ^^^ right.word) := by
  rw [mixed, mixed, UInt64.xor_assoc, ← UInt64.xor_assoc left.word, UInt64.xor_self,
    UInt64.zero_xor]

/-- Markers that differ in the lowest bit in which the arguments do tell the order of these, unless
that is the highest bit of a word.
-/
theorem mixed_sub_mul_ne {left right : TypeHash} {bit : Nat} (inside : bit < 63)
    (lowest : LowestDifference left.word right.word bit)
    (apart : (marker first).toNat.testBit bit ≠ (marker second).toNat.testBit bit) (count : Nat)
    : (mixed first left - mixed first right) * separator ^ count
      ≠ mixed second left - mixed second right := by
  rw [mixed_eq_xor first left right, mixed_eq_xor second left right]
  refine sub_xor_mul_ne lowest.clearBelow lowest.testBit_xor inside
    (isOneModFour_separator.pow count) ?_
  simpa [mixed, UInt64.toNat_xor] using apart

/-- Arguments that differ in the highest bit alone may change places. -/
theorem ofGeneric_exchange_highest (name : String) (arguments : List TypeHash)
    (order : first < second) (inside : second < arguments.length)
    (highest : arguments[first].word ^^^ arguments[second].word = 2 ^ 63)
    : ofGeneric name ((arguments.set first arguments[second]).set second arguments[first])
      = ofGeneric name arguments := by
  have mixes (position : Nat)
      : mixed position arguments[first] - mixed position arguments[second] = 2 ^ 63 := by
    rw [mixed_eq_xor position arguments[first] arguments[second], highest, sub_xor_highest]
  rw [ofGeneric_exchange name order inside, mixes, mixes,
    (isOneModFour_separator.pow _).two_pow_63_mul]

/-- Exactly when the order of two arguments does not matter. It does matter where the markers of
their positions differ in the lowest bit in which the arguments do, unless that is the highest bit.
-/
theorem ofGeneric_exchange_eq_iff (name : String) (arguments : List TypeHash)
    (order : first < second) (inside : second < arguments.length)
    : (ofGeneric name ((arguments.set first arguments[second]).set second arguments[first])
          = ofGeneric name arguments
        ↔ (mixed first arguments[first] - mixed first arguments[second])
            * separator ^ (second - first)
          = mixed second arguments[first] - mixed second arguments[second])
      ∧ ∀ bit < 63,
          LowestDifference arguments[first].word arguments[second].word bit
          → (marker first).toNat.testBit bit ≠ (marker second).toNat.testBit bit
          → ofGeneric name ((arguments.set first arguments[second]).set second arguments[first])
            ≠ ofGeneric name arguments := by
  have exchange := ofGeneric_exchange name order inside
  refine ⟨exchange, fun bit below lowest apart same => ?_⟩
  exact mixed_sub_mul_ne below lowest apart (second - first) (exchange.mp same)

theorem map_arguments_ordered
    : LowestDifference (ofName "Key").word (ofName "Value").word 3
      ∧ (marker 0).toNat.testBit 3 ≠ (marker 1).toNat.testBit 3
      ∧ ofGeneric "Map" [ofName "Value", ofName "Key"]
        ≠ ofGeneric "Map" [ofName "Key", ofName "Value"] := by
  have lowest : LowestDifference (ofName "Key").word (ofName "Value").word 3 :=
    ⟨by decide +kernel, by decide +kernel⟩
  have apart : (marker 0).toNat.testBit 3 ≠ (marker 1).toNat.testBit 3 := by decide
  refine ⟨lowest, apart, ?_⟩
  have exchange := ofGeneric_exchange_eq_iff "Map" [ofName "Key", ofName "Value"]
    Nat.zero_lt_one Nat.one_lt_two
  exact exchange.2 3 (by decide) lowest apart

/-- Two names whose digests differ in the highest bit alone. -/
theorem pair_arguments_not_ordered
    : ofName "Wozchzix" ≠ ofName "Oivbisaw"
      ∧ ofGeneric "Pair" [ofName "Oivbisaw", ofName "Wozchzix"]
        = ofGeneric "Pair" [ofName "Wozchzix", ofName "Oivbisaw"] := by
  have highest : (ofName "Wozchzix").word ^^^ (ofName "Oivbisaw").word = 2 ^ 63 := by
    decide +kernel
  refine ⟨by decide +kernel, ?_⟩
  exact ofGeneric_exchange_highest "Pair" [ofName "Wozchzix", ofName "Oivbisaw"] Nat.zero_lt_one
    Nat.one_lt_two highest

end SchemaGraph.TypeHash
