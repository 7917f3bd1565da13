import SchemaGraph.Hash.XxHash64

/-! Identities of host types and schema types as 64-bit digests.
A digest mixes the digest of the base name with a marker of its domain, so that a host type and a
schema type of one name differ; the digests of generic arguments follow, one step each.
-/

namespace SchemaGraph

/-- A digest that stands for a host type or a schema type. -/
structure TypeHash where
  word : UInt64
deriving DecidableEq, Inhabited

namespace TypeHash

/-- Multiplies the digest before each generic argument is added. It is odd, so no information
is lost on the way. -/
def separator : UInt64 := 0x4bc94d6bd06053ad

/-- The domains of plain host types, generic host types and schema types. -/
def runtimeDomain : UInt64 := 0x2fac10b63a6cc57c
def genericDomain : UInt64 := 0x5ea77ffbcdf5f302
def schemaDomain : UInt64 := 0x7d3c8b4a92e15f6d

/-- Marks the first argument, and with the position added every argument after the sixteenth. -/
def firstMarker : UInt64 := 0x9e3779b97f4a7c15

/-- The markers of the first sixteen argument positions. -/
def markers : List UInt64 :=
  [firstMarker, 0xbf58476d1ce4e5b9, 0x94d049bb133111eb, 0xd6e8feb86659fd93,
    0xe7037ed1a0b428db, 0xc6a4a7935bd1e995, 0x8648dbbc94d49b8d, 0xa2b48b2c69e0d657,
    0x7c3e9f2a5b8d1403, 0x5d8c7b4a3e9f2106, 0x3f1e9d8c7b5a4203, 0x1a2b3c4d5e6f7089,
    0x9f8e7d6c5b4a3210, 0x2468ace013579bdf, 0xfdb97531eca86420, 0x123456789abcdef0]

def marker (position : Nat) : UInt64 :=
  markers[position]?.getD (firstMarker + position.toUInt64)

/-- The digest that stands for no type. -/
def empty : TypeHash := ⟨0⟩

def isEmpty (hash : TypeHash) : Bool :=
  hash = empty

/-- The digest of a text is that of its UTF-8 bytes. -/
def nameDigest (name : String) : UInt64 :=
  XxHash64.digest 0 name.toUTF8.toList

def ofName (name : String) : TypeHash :=
  ⟨runtimeDomain ^^^ nameDigest name⟩

def ofSchemaName (name : String) : TypeHash :=
  ⟨schemaDomain ^^^ nameDigest name⟩

/-- Adds the arguments from `position` on, in order. -/
def absorbArguments (hash : UInt64) (position : Nat) : List TypeHash → UInt64
  | [] => hash
  | argument :: rest =>
      absorbArguments (hash * separator + (marker position ^^^ argument.word)) (position + 1) rest

/-- A generic type without arguments is the plain type of its name. -/
def ofGeneric (name : String) (arguments : List TypeHash) : TypeHash :=
  match arguments with
  | [] => ofName name
  | _ :: _ => ⟨absorbArguments (genericDomain ^^^ nameDigest name) 0 arguments⟩

/-- Sixteen lower-case hexadecimal digits after `0x`. -/
def display (hash : TypeHash) : String :=
  let digits := Nat.toDigits 16 hash.word.toNat
  "0x" ++ String.ofList (List.replicate (16 - digits.length) '0' ++ digits)

def shown (hash : TypeHash) : String :=
  "TypeHash(" ++ hash.display ++ ")"

end TypeHash
end SchemaGraph
