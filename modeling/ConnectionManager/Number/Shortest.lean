import ConnectionManager.Number.Double

/-!
The shortest decimal that reads back. Of all decimals that round to a given double, one with the
fewest digits is chosen, of those the nearest, and of two equally near ones the larger.
-/

namespace ConnectionManager.Number

/-- The number `digits * 10 ^ exponent`. -/
structure Decimal where
  digits : Nat
  exponent : Int
deriving DecidableEq, Repr

namespace Decimal

def normalize (digits : Nat) (exponent : Int) : Nat → Decimal
  | 0 => ⟨digits, exponent⟩
  | steps + 1 =>
      if digits % 10 = 0 && digits != 0 then normalize (digits / 10) (exponent + 1) steps
      else ⟨digits, exponent⟩

end Decimal

namespace Double

/-- The reals that round to a double, and the double itself, all in quarters of the unit of its
last place. The ends belong to the interval exactly when the significand is even. -/
structure RoundingInterval where
  low : Nat
  middle : Nat
  high : Nat
  closed : Bool

/-- Just above a power of two the neighbour below is only half as far away. -/
def roundingInterval (value : Double) : RoundingInterval :=
  let middle := 4 * value.significand
  let below := if value.fraction = 0 && value.exponentField > 1 then 1 else 2
  ⟨middle - below, middle, middle + 2, value.significand % 2 = 0⟩

namespace RoundingInterval

def contains (interval : RoundingInterval) (point unit : Nat) : Bool :=
  if interval.closed then interval.low * unit ≤ point && point ≤ interval.high * unit
  else interval.low * unit < point && point < interval.high * unit

/-- The point of a decimal grid to print: the nearer of the two neighbours of the middle that
lie in the interval. Both numbers are multiples of a common unit. -/
def gridPoint? (interval : RoundingInterval) (unit step : Nat) : Option Nat :=
  let below := interval.middle * unit / step
  let above := below + 1
  let lowFits := interval.contains (below * step) unit
  let highFits := interval.contains (above * step) unit
  let lowDistance := interval.middle * unit - below * step
  let highDistance := above * step - interval.middle * unit
  if lowFits && (!highFits || lowDistance < highDistance) then some below
  else if highFits then some above
  else none

end RoundingInterval

/-- The factors that bring the unit of a double and a power of ten to a common unit. -/
def commonUnits (scale exponent : Int) : Nat × Nat :=
  (Nat.pow 2 (scale - 2).toNat * Nat.pow 10 (-exponent).toNat,
    Nat.pow 2 (2 - scale).toNat * Nat.pow 10 exponent.toNat)

/-- The least integer exponent of ten above a positive finite double. -/
def decimalOrder (value : Double) : Int :=
  let guess := ((Int.ofNat value.significand.log2 + value.scale) * 30103) / 100000
  let reaches (exponent : Int) : Bool :=
    let (unit, step) := commonUnits value.scale exponent
    step ≤ 4 * value.significand * unit
  if reaches (guess + 1) then guess + 2 else if reaches guess then guess + 1 else guess

/-- Tries ever finer grids. Seventeen digits tell any two doubles apart. -/
def shortestFrom (value : Double) (order : Int) (count : Nat) : Nat → Decimal
  | 0 => ⟨value.significand, value.scale⟩
  | tries + 1 =>
      let exponent := order - count
      let (unit, step) := commonUnits value.scale exponent
      match value.roundingInterval.gridPoint? unit step with
      | some point => Decimal.normalize point exponent 20
      | none => shortestFrom value order (count + 1) tries

def shortest (value : Double) : Decimal :=
  if value.isZero then ⟨0, 0⟩ else shortestFrom value value.decimalOrder 1 17

end Double

end ConnectionManager.Number
