/-!
# Shortest decimals

A finite binary fraction is written with the fewest decimal digits that read back as the same
number.  The numbers that read back as `m * 2 ^ q` form an interval around it, bounded by the
midpoints to its two neighbours; a midpoint belongs to the interval when `m` is even.
`Magnitude.shortest` looks at ever finer decimal grids and takes the first grid with a point in the
interval: such a point is one of the two grid points around the value, and of two the nearer is
taken.

All comparisons are made in exact arithmetic on natural numbers.
-/

namespace Summand

/-- The decimal number `digits * 10 ^ exponent`. -/
structure Decimal where
  digits : Nat
  exponent : Int
deriving DecidableEq, Inhabited

/-- The positive binary fraction `significand * 2 ^ exponent`, with what is needed to find its
neighbours of the same precision. -/
structure Magnitude where
  significand : Nat
  exponent : Int
  /-- The neighbour below is only half as far away as the one above. -/
  narrowBelow : Bool
deriving DecidableEq, Inhabited

namespace Magnitude

/-- The magnitude of a double-precision number, from its eleven exponent bits and its fraction. The
number is not zero, infinite or undefined. -/
def ofFields (exponentField fraction : Nat) : Magnitude :=
  if exponentField = 0 then ⟨fraction, -1074, false⟩
  else ⟨Nat.pow 2 52 + fraction, exponentField - 1075, fraction = 0 && 1 < exponentField⟩

/-! ### Comparison with decimal grids

Distances are counted in quarters of a unit in the last binary place, so that the midpoints to the
neighbours are whole numbers. -/

/-- The value in quarters. -/
def centre (v : Magnitude) : Nat :=
  4 * v.significand

/-- The lower end of the interval in quarters. -/
def lower (v : Magnitude) : Nat :=
  v.centre - if v.narrowBelow then 1 else 2

/-- The upper end of the interval in quarters. -/
def upper (v : Magnitude) : Nat :=
  v.centre + 2

/-- One quarter, on the common scale of the value and the grid `10 ^ e`. -/
def quarter (v : Magnitude) (e : Int) : Nat :=
  Nat.pow 2 (v.exponent - 2).toNat * Nat.pow 10 (-e).toNat

/-- One step of the grid `10 ^ e`, on the common scale of the value and the grid. -/
def gridStep (v : Magnitude) (e : Int) : Nat :=
  Nat.pow 2 (2 - v.exponent).toNat * Nat.pow 10 e.toNat

/-- The decimal `d * 10 ^ e` reads back as the value. -/
def readsBack (v : Magnitude) (e : Int) (d : Nat) : Bool :=
  let point := d * v.gridStep e
  let low := v.lower * v.quarter e
  let high := v.upper * v.quarter e
  if v.significand % 2 = 0 then low ≤ point && point ≤ high else low < point && point < high

/-- The point of the grid `10 ^ e` that reads back as the value, if there is one: of two the nearer,
and the upper one when they are equally near. -/
def gridPoint? (v : Magnitude) (e : Int) : Option Nat :=
  let value := v.centre * v.quarter e
  let step := v.gridStep e
  let below := value / step
  match v.readsBack e below, v.readsBack e (below + 1) with
  | true, true =>
    some (if value - below * step < (below + 1) * step - value then below else below + 1)
  | true, false => some below
  | false, true => some (below + 1)
  | false, false => none

/-- The number of decimal digits of a natural number. -/
def decimalLength (n : Nat) : Nat :=
  (Nat.toDigits 10 n).length

/-- An exponent `e` such that the value lies between `10 ^ (e - 1)` and `10 ^ (e + 1)`. -/
def decimalExponent (v : Magnitude) : Int :=
  decimalLength (v.significand * Nat.pow 2 v.exponent.toNat) -
    decimalLength (Nat.pow 2 (-v.exponent).toNat)

/-- The value with all its decimal digits. -/
def exact (v : Magnitude) : Decimal :=
  ⟨v.significand * Nat.pow 2 v.exponent.toNat * Nat.pow 5 (-v.exponent).toNat, min v.exponent 0⟩

/-- The decimal with the fewest digits that reads back as the value. Seventeen digits always
suffice, so nineteen grids are enough to look at. -/
def shortest (v : Magnitude) : Decimal :=
  let top := v.decimalExponent + 1
  let grids := (List.range 19).map fun i => top - (i : Nat)
  (grids.findSome? fun e => (v.gridPoint? e).map fun d => ⟨d, e⟩).getD v.exact

end Magnitude

end Summand
