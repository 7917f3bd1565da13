import SchemaGraph.Decimal.Shortest

/-! The text of a double in a given style.
The digits are the fewest that read back; the style says where the point goes, when an exponent is
written, and how zero, infinity and the values that are no number look.
-/

namespace SchemaGraph.Decimal

/-- How a double is written. -/
structure Style where
  /-- The least power of ten of a leading digit that is written without an exponent. -/
  leastPositional : Int
  /-- The first power of ten of a leading digit that is written with an exponent. -/
  firstExponential : Int
  exponentMark : Char
  /-- Follows the digits of a whole number that is written without an exponent. -/
  wholeSuffix : List Char
  infinity : List Char
  notANumber : List Char

/-- Places the point among the digits of `digits * 10 ^ power` and adds zeros where it lies beyond
them. -/
def Style.positional (style : Style) (digits : List Char) (power : Int) : List Char :=
  if 0 ≤ power then
    digits ++ List.replicate power.toNat '0' ++ style.wholeSuffix
  else
    let places := (-power).toNat
    if places < digits.length then
      digits.take (digits.length - places) ++ '.' :: digits.drop (digits.length - places)
    else
      '0' :: '.' :: (List.replicate (places - digits.length) '0' ++ digits)

/-- One digit before the point, the others after it, then the power of ten. -/
def Style.exponential (style : Style) (digits : List Char) (leading : Int) : List Char :=
  let fraction := digits.drop 1
  let point := if fraction = [] then [] else '.' :: fraction
  digits.take 1 ++ point ++ style.exponentMark :: (toString leading).toList

def Style.magnitude (style : Style) (magnitude : Magnitude) : List Char :=
  let (digits, power) := shortest magnitude
  let text := Nat.toDigits 10 digits
  let leading := power + text.length - 1
  if style.leastPositional ≤ leading && leading < style.firstExponential then
    style.positional text power
  else
    style.exponential text leading

/-- The text of a double. The sign is read off the bits, so that a negative zero keeps it. -/
def Style.text (style : Style) (value : Float) : String :=
  let bits := value.toBits.toNat
  let exponentField := bits / Nat.pow 2 52 % Nat.pow 2 11
  let fraction := bits % Nat.pow 2 52
  let sign := if Nat.pow 2 63 ≤ bits then ['-'] else []
  String.ofList <|
    if exponentField = 2047 then
      if fraction = 0 then sign ++ style.infinity else style.notANumber
    else if exponentField = 0 && fraction = 0 then
      sign ++ '0' :: style.wholeSuffix
    else
      sign ++ style.magnitude (Magnitude.ofFields exponentField fraction)

end SchemaGraph.Decimal
