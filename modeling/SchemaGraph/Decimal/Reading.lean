/-! Reading a double from its decimal text.
A number is an optional sign, digits with at most one point among or around them, and an optional
exponent; `inf`, `infinity` and `nan` are read in any letter case.
-/

namespace SchemaGraph.Decimal

/-- The parts of a number text: `digits * 10 ^ power`, negated or not. -/
structure Literal where
  negative : Bool
  digits : Nat
  power : Int

def digitsValue (digits : List Char) : Nat :=
  digits.foldl (fun value digit => 10 * value + (digit.toNat - '0'.toNat)) 0

/-- An optional sign, and the text after it. -/
def takeSign : List Char → Bool × List Char
  | '-' :: rest => (true, rest)
  | '+' :: rest => (false, rest)
  | text => (false, text)

/-- What may follow the digits: nothing, or an exponent of at least one digit. -/
def readExponent? : List Char → Option Int
  | [] => some 0
  | mark :: rest =>
      let (negative, digits) := takeSign rest
      if (mark = 'e' || mark = 'E') && digits ≠ [] && digits.all Char.isDigit then
        some (if negative then -(digitsValue digits : Int) else digitsValue digits)
      else
        none

/-- The digits around the point: those before it, those after it, and the rest of the text. -/
def splitPoint (text : List Char) : List Char × List Char × List Char :=
  let whole := text.takeWhile Char.isDigit
  match text.dropWhile Char.isDigit with
  | '.' :: rest => (whole, rest.takeWhile Char.isDigit, rest.dropWhile Char.isDigit)
  | rest => (whole, [], rest)

def readLiteral? (negative : Bool) (text : List Char) : Option Literal :=
  let (whole, fraction, rest) := splitPoint text
  if whole = [] && fraction = [] then none
  else
    (readExponent? rest).map fun exponent =>
      ⟨negative, digitsValue (whole ++ fraction), exponent - fraction.length⟩

/-- The nearest double. Beyond 1 followed by 400 digits every number is infinite, and below the
inverse of that every number is zero, so that no exponent makes the reading long. -/
def Literal.toFloat (literal : Literal) : Float :=
  let leading := literal.power + (Nat.toDigits 10 literal.digits).length
  let magnitude :=
    if literal.digits = 0 || leading < -400 then 0.0
    else if 400 < leading then 1.0 / 0.0
    else if 0 ≤ literal.power then
      Float.ofScientific (literal.digits * Nat.pow 10 literal.power.toNat) false 0
    else
      Float.ofScientific literal.digits true (-literal.power).toNat
  if literal.negative then -magnitude else magnitude

/-- The double that a text denotes, or none when it denotes no number. -/
def readFloat? (text : String) : Option Float :=
  let (negative, unsigned) := takeSign text.toList
  let word := String.ofList (unsigned.map Char.toLower)
  if word = "inf" || word = "infinity" then
    some (if negative then -(1.0 / 0.0) else 1.0 / 0.0)
  else if word = "nan" then
    some (0.0 / 0.0)
  else
    (readLiteral? negative unsigned).map Literal.toFloat

end SchemaGraph.Decimal
