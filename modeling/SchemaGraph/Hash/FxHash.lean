import SchemaGraph.Hash.XxHash64

/-! The hash that spreads the keys of a table over its buckets.
Words are taken in one after the other, each by a sum and a product; a text counts as one word,
which mixes its bytes, and a closing byte. Every sum and product wraps modulo 2 ^ 64.
-/

namespace SchemaGraph.FxHash

open XxHash64 (littleEndian rotateLeft)

/-- It is odd, so that no information is lost in the product. -/
def multiplier : UInt64 := 0xf1357aea2e62a9c5

/-- Digits of pi, which the two halves of a text's state start from. -/
def firstSeed : UInt64 := 0x243f6a8885a308d3
def secondSeed : UInt64 := 0x13198a2e03707344

/-- Keeps a word of zeros in a long text from wiping out what came before. -/
def blockMask : UInt64 := 0xa4093822299f31d0

/-- Takes in one word. -/
def absorb (hash word : UInt64) : UInt64 :=
  (hash + word) * multiplier

/-- The two halves of the whole product, one over the other. -/
def mix (left right : UInt64) : UInt64 :=
  let product := left.toNat * right.toNat
  UInt64.ofNat product ^^^ UInt64.ofNat (product >>> 64)

/-- The state after all blocks of sixteen bytes but the last one, and that one may be cut short. -/
def absorbBlocks (first second : UInt64) (bytes : List UInt8) : UInt64 × UInt64 :=
  if 16 < bytes.length then
    absorbBlocks second
      (mix (first ^^^ littleEndian (bytes.take 8))
        (blockMask ^^^ littleEndian ((bytes.drop 8).take 8)))
      (bytes.drop 16)
  else
    (first, second)
termination_by bytes.length
decreasing_by simp only [List.length_drop]; omega

/-- The words at the start and at the end of a text, which overlap where the text is short. Fewer
than four bytes give the first byte, and the middle and the last one.
-/
def ends (bytes : List UInt8) : UInt64 × UInt64 :=
  let size := bytes.length
  if 16 < size then
    let last := bytes.drop (size - 16)
    (littleEndian (last.take 8), littleEndian (last.drop 8))
  else if 8 ≤ size then
    (littleEndian (bytes.take 8), littleEndian (bytes.drop (size - 8)))
  else if 4 ≤ size then
    (littleEndian (bytes.take 4), littleEndian (bytes.drop (size - 4)))
  else
    match bytes with
    | [] => (0, 0)
    | start :: _ =>
        (start.toUInt64,
          ((bytes.getLastD 0).toUInt64 <<< 8) ||| (bytes.getD (size / 2) 0).toUInt64)

def bytesWord (bytes : List UInt8) : UInt64 :=
  let (first, second) := absorbBlocks firstSeed secondSeed bytes
  let (head, tail) := ends bytes
  mix (first ^^^ head) (second ^^^ tail) ^^^ bytes.length.toUInt64

/-- Takes in a text by its UTF-8 bytes. -/
def absorbText (hash : UInt64) (text : String) : UInt64 :=
  absorb (absorb hash (bytesWord text.toUTF8.toList)) 0xff

/-- The upper bits differ most, and tables look at the lower ones. -/
def finish (hash : UInt64) : UInt64 :=
  rotateLeft hash 26

end SchemaGraph.FxHash
