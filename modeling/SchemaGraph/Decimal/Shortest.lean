/-! The fewest decimal digits that read back as a given double.
A double is `mantissa * 2 ^ exponent`; the reals that round to it form an interval around it.
Decimal grids `10 ^ k` are tried from the coarsest one on, and on each the two neighbours of the
value: the first grid with a neighbour in the interval gives the digits. Powers are written
`Nat.pow`, so that no algebraic structure stands behind them.
-/

namespace SchemaGraph.Decimal

/-- The magnitude of a finite double that is not zero: `mantissa * 2 ^ exponent`.
`lowerHalved` holds when the next smaller double is only half as far away as the next larger one. -/
structure Magnitude where
  mantissa : Nat
  exponent : Int
  lowerHalved : Bool

/-- The magnitude behind the exponent and fraction fields of the bits of a finite double. -/
def Magnitude.ofFields (exponentField fraction : Nat) : Magnitude :=
  if exponentField = 0 then
    ⟨fraction, -1074, false⟩
  else
    ⟨Nat.pow 2 52 + fraction, (exponentField : Int) - 1075, fraction = 0 && 1 < exponentField⟩

/-- The value and its interval, all over one denominator, measured in steps of `10 ^ power`. -/
structure Window where
  low : Nat
  value : Nat
  high : Nat
  denominator : Nat
  closed : Bool

/-- Quarters of the last binary place make both interval ends whole. The ends round to the double
itself exactly if its mantissa is even. -/
def Magnitude.window (magnitude : Magnitude) (power : Int) : Window :=
  let quarter := magnitude.exponent - 2
  let unit := Nat.pow 2 quarter.toNat * Nat.pow 10 (-power).toNat
  let below := if magnitude.lowerHalved then 1 else 2
  {
    low := (4 * magnitude.mantissa - below) * unit
    value := 4 * magnitude.mantissa * unit
    high := (4 * magnitude.mantissa + 2) * unit
    denominator := Nat.pow 10 power.toNat * Nat.pow 2 (-quarter).toNat
    closed := magnitude.mantissa % 2 = 0
  }

/-- Whether the grid point `digits` rounds to the value. -/
def Window.holds (window : Window) (digits : Nat) : Bool :=
  let point := digits * window.denominator
  if window.closed then window.low ≤ point && point ≤ window.high
  else window.low < point && point < window.high

/-- The neighbour of the value on the grid that lies in the interval; of two the nearer one, and the
upper one at an equal distance. -/
def Window.digits? (window : Window) : Option Nat :=
  let lower := window.value / window.denominator
  let rest := window.value % window.denominator
  match 0 < lower && window.holds lower, window.holds (lower + 1) with
  | true, true => some (if 2 * rest < window.denominator then lower else lower + 1)
  | true, false => some lower
  | false, true => some (lower + 1)
  | false, false => none

/-- The finest grid that any double needs. -/
def finestPower : Int := -324

/-- Tries the grids `10 ^ (finestPower + step)` from `steps` down. -/
def searchGrids (magnitude : Magnitude) : Nat → Nat × Int
  | 0 => (((magnitude.window finestPower).digits?).getD 0, finestPower)
  | steps + 1 =>
      let power := finestPower + (steps + 1)
      match (magnitude.window power).digits? with
      | some digits => (digits, power)
      | none => searchGrids magnitude steps

/-- Digits and power of ten of the shortest decimal that reads back as the magnitude. The coarsest
grid tried is above every double. -/
def shortest (magnitude : Magnitude) : Nat × Int :=
  searchGrids magnitude 634

end SchemaGraph.Decimal
