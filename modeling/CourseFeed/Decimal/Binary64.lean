/-!
# Binary numbers of 64 bits

A finite binary number of 64 bits is a whole number of *units*, the unit being the least positive
one, two to the power of −1074. **`Binary64`** keeps the count of units and a sign, so that zero
has two signs, and everything here is exact arithmetic on natural numbers:

* **`roundUnits`** rounds a quotient of units to 53 significant bits, a tie going to the even
  neighbour; **`ofRatio?`** adds the bound above which there is no finite number.
* **`ofInt`**, **`mul?`** and **`div?`** are the exact results, rounded once.
* **`signedUnits`** is the value by which numbers are compared; both zeros have the value zero.
-/

namespace CourseFeed.Decimal

/-- The nearest whole number to a quotient, an even one for a tie. -/
def roundQuotient (num den : Nat) : Nat :=
  let whole := num / den
  let twice := 2 * (num % den)
  if twice < den then whole
  else if den < twice then whole + 1
  else whole + whole % 2

/-- How far apart the 53-bit numbers around a count of units are. -/
def unitStep (units : Nat) : Nat := Nat.pow 2 (units.log2 - 52)

/-- A quotient of units, rounded to 53 significant bits. -/
def roundUnits (num den : Nat) : Nat :=
  let step := unitStep (num / den)
  roundQuotient num (den * step) * step

/-- The count of units in the number one. -/
def unitsInOne : Nat := Nat.pow 2 1074

/-- The least count of units that is too large for a finite number. -/
def unitsLimit : Nat := Nat.pow 2 2098

/-- A finite binary number: a sign and a count of units. -/
structure Binary64 where
  negative : Bool
  units : Nat
  deriving Repr, DecidableEq

namespace Binary64

/-- The value in units, by which numbers are compared. -/
def signedUnits (x : Binary64) : Int := if x.negative then -(x.units : Int) else x.units

/-- The rounded quotient of two counts of units, or `none` beyond the finite numbers. -/
def ofRatio? (negative : Bool) (num den : Nat) : Option Binary64 :=
  let units := roundUnits num den
  if units < unitsLimit then some ⟨negative, units⟩ else none

/-- The number nearest to a natural number. -/
def ofNat (n : Nat) : Binary64 := ⟨false, roundUnits (n * unitsInOne) 1⟩

/-- The number nearest to an integer. -/
def ofInt : Int → Binary64
  | .ofNat n => ofNat n
  | .negSucc n => ⟨true, (ofNat (n + 1)).units⟩

/-- The number with the other sign. -/
def neg (x : Binary64) : Binary64 := ⟨!x.negative, x.units⟩

/-- The rounded product. -/
def mul? (x y : Binary64) : Option Binary64 :=
  ofRatio? (x.negative != y.negative) (x.units * y.units) unitsInOne

/-- The rounded quotient by a number other than zero. -/
def div? (x y : Binary64) : Option Binary64 :=
  ofRatio? (x.negative != y.negative) (x.units * unitsInOne) y.units

/-- Whether two numbers have the same value. -/
def sameValue (x y : Binary64) : Bool := x.signedUnits == y.signedUnits

/-- The order of two numbers by value. -/
def order (x y : Binary64) : Ordering := compare x.signedUnits y.signedUnits

end Binary64

end CourseFeed.Decimal
