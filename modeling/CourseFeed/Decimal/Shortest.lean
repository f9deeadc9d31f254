import CourseFeed.Decimal.Binary64

/-!
# The fewest digits that read back

A decimal reads back as a binary number when it lies in the interval of reals that round to that
number. **`shortest`** finds the decimal with the fewest digits in the interval and, among those,
the nearest to the number itself; which of two equally near ones it takes is for the writer of the
text to say.

All is counted in the unit ten to the power of −1074, in which every binary number is whole.
-/

namespace CourseFeed.Decimal

/-- Which of two equally near decimals is taken. -/
inductive Tie where
  | even
  | upper
  deriving Repr, DecidableEq

/-- A decimal: a whole number of powers of ten. -/
structure Scaled where
  digits : Nat
  exponent : Int
  deriving Repr, DecidableEq

/-- The count of decimal places that a unit of binary numbers needs. -/
def unitPlaces : Nat := 1074

/-- The interval of reals that round to a count of units, as four times its ends in decimal
    units, and whether the ends belong to it. -/
structure Rounding where
  low : Nat
  high : Nat
  closed : Bool

/-- The interval of reals that round to a count of units. -/
def Rounding.ofUnits (units : Nat) : Rounding :=
  let step := unitStep units
  let below := if 1 < step ∧ units = step * Nat.pow 2 52 then step else 2 * step
  let scale := Nat.pow 5 unitPlaces
  ⟨(4 * units - below) * scale, (4 * units + 2 * step) * scale, units / step % 2 == 0⟩

/-- Whether a count of decimal units lies in the interval. -/
def Rounding.holds (r : Rounding) (n : Nat) : Bool :=
  if r.closed then r.low ≤ 4 * n && 4 * n ≤ r.high else r.low < 4 * n && 4 * n < r.high

/-- The neighbour of `exact` on the grid of multiples of `grid` that lies in the interval, as a
    multiple of `grid`; the nearer one where both do. -/
def onGrid? (tie : Tie) (r : Rounding) (exact grid : Nat) : Option Nat :=
  let down := exact / grid
  let offset := 2 * (exact % grid)
  match r.holds (down * grid), r.holds ((down + 1) * grid) with
  | false, false => none
  | true, false => some down
  | false, true => some (down + 1)
  | true, true =>
    if offset < grid then some down
    else if grid < offset then some (down + 1)
    else match tie with
      | .even => some (down + down % 2)
      | .upper => some (down + 1)

/-- Tries grids from `10 ^ places` on down to finer ones. -/
def firstGrid (tie : Tie) (r : Rounding) (exact : Nat) : Nat → Nat × Nat
  | 0 => (exact, 0)
  | places + 1 =>
    match onGrid? tie r exact (Nat.pow 10 places) with
    | some n => (n, places)
    | none => firstGrid tie r exact places

/-- Takes zeros off the end of a number, at most `fuel` of them, and counts them. -/
def stripZeros (n : Nat) : Nat → Nat × Nat
  | 0 => (n, 0)
  | fuel + 1 =>
    if n % 10 = 0 then
      let (m, k) := stripZeros (n / 10) fuel
      (m, k + 1)
    else (n, 0)

/-- The shortest decimal that reads back as a positive count of units. -/
def shortest (tie : Tie) (units : Nat) : Scaled :=
  let exact := units * Nat.pow 5 unitPlaces
  let (n, places) := firstGrid tie (Rounding.ofUnits units) exact (Nat.toDigits 10 exact).length
  let (digits, zeros) := stripZeros n 20
  ⟨digits, (places + zeros : Int) - unitPlaces⟩

end CourseFeed.Decimal
