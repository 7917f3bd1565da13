/-! The 64-bit xxHash of a byte sequence.
The input is read in stripes of 32 bytes by four lanes, then word by word, then byte by byte;
every sum and product wraps modulo 2 ^ 64.
-/

namespace SchemaGraph.XxHash64

def prime1 : UInt64 := 0x9e3779b185ebca87
def prime2 : UInt64 := 0xc2b2ae3d27d4eb4f
def prime3 : UInt64 := 0x165667b19e3779f9
def prime4 : UInt64 := 0x85ebca77c2b2ae63
def prime5 : UInt64 := 0x27d4eb2f165667c5

def rotateLeft (word : UInt64) (amount : UInt64) : UInt64 :=
  (word <<< amount) ||| (word >>> (64 - amount))

/-- The first byte is the lowest one. -/
def littleEndian (bytes : List UInt8) : UInt64 :=
  bytes.foldr (fun byte word => (word <<< 8) ||| byte.toUInt64) 0

/-- One lane takes in one word. -/
def round (lane input : UInt64) : UInt64 :=
  rotateLeft (lane + input * prime2) 31 * prime1

/-- The four lanes that run over the stripes side by side. -/
structure Lanes where
  first : UInt64
  second : UInt64
  third : UInt64
  fourth : UInt64

def Lanes.start (seed : UInt64) : Lanes :=
  ⟨seed + prime1 + prime2, seed + prime2, seed, seed - prime1⟩

/-- The word of a stripe that starts at byte `8 * index`. -/
def stripeWord (stripe : List UInt8) (index : Nat) : UInt64 :=
  littleEndian ((stripe.drop (8 * index)).take 8)

def Lanes.absorb (lanes : Lanes) (stripe : List UInt8) : Lanes :=
  ⟨round lanes.first (stripeWord stripe 0), round lanes.second (stripeWord stripe 1),
    round lanes.third (stripeWord stripe 2), round lanes.fourth (stripeWord stripe 3)⟩

/-- The lanes after every whole stripe, and the bytes that are left. -/
def absorbStripes (lanes : Lanes) (bytes : List UInt8) : Lanes × List UInt8 :=
  if 32 ≤ bytes.length then
    absorbStripes (lanes.absorb bytes) (bytes.drop 32)
  else
    (lanes, bytes)
termination_by bytes.length
decreasing_by simp only [List.length_drop]; omega

def mergeLane (digest lane : UInt64) : UInt64 :=
  (digest ^^^ round 0 lane) * prime1 + prime4

def Lanes.merge (lanes : Lanes) : UInt64 :=
  let mixed :=
    rotateLeft lanes.first 1 + rotateLeft lanes.second 7 + rotateLeft lanes.third 12
      + rotateLeft lanes.fourth 18
  [lanes.first, lanes.second, lanes.third, lanes.fourth].foldl mergeLane mixed

def absorbByte (digest : UInt64) (byte : UInt8) : UInt64 :=
  rotateLeft (digest ^^^ (byte.toUInt64 * prime5)) 11 * prime1

/-- The fewer than 32 bytes after the last stripe: words, at most one half word, then bytes. -/
def absorbTail (digest : UInt64) (bytes : List UInt8) : UInt64 :=
  if 8 ≤ bytes.length then
    absorbTail
      (rotateLeft (digest ^^^ round 0 (littleEndian (bytes.take 8))) 27 * prime1 + prime4)
      (bytes.drop 8)
  else if 4 ≤ bytes.length then
    (bytes.drop 4).foldl absorbByte
      (rotateLeft (digest ^^^ (littleEndian (bytes.take 4) * prime1)) 23 * prime2 + prime3)
  else
    bytes.foldl absorbByte digest
termination_by bytes.length
decreasing_by simp only [List.length_drop]; omega

/-- The last mixing spreads every input bit over the whole word. -/
def avalanche (digest : UInt64) : UInt64 :=
  let first := (digest ^^^ (digest >>> 33)) * prime2
  let second := (first ^^^ (first >>> 29)) * prime3
  second ^^^ (second >>> 32)

def digest (seed : UInt64) (bytes : List UInt8) : UInt64 :=
  let (lanes, tail) := absorbStripes (Lanes.start seed) bytes
  let start := if 32 ≤ bytes.length then lanes.merge else seed + prime5
  avalanche (absorbTail (start + bytes.length.toUInt64) tail)

end SchemaGraph.XxHash64
