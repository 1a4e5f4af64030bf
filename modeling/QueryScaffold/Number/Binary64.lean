/-!
# Binary floating point numbers of 64 bits

A JSON number with a fraction or an exponent is read as the nearest double. Doubles are kept as
exact integers here, so reading one is plain arithmetic.

* `Binary64`: a finite number `mantissa · 2 ^ exponent` with a sign, an infinity, or no number;
* `Binary64.nearest`: the double nearest to a decimal, ties to the even mantissa.
-/

namespace QueryScaffold

/-- A double. -/
inductive Binary64
  /-- `mantissa · 2 ^ exponent`, negated if so marked. The mantissa is below `2 ^ 53`, and at least
  `2 ^ 52` unless the exponent is the least one, -1074. -/
  | finite (negative : Bool) (mantissa : Nat) (exponent : Int)
  | infinite (negative : Bool)
  | nan
deriving DecidableEq, Repr

/-- The natural number nearest to a quotient, a half going to the even neighbour. -/
def roundHalfEven (numerator denominator : Nat) : Nat :=
  let floor := numerator / denominator
  let rest := 2 * (numerator % denominator)
  if rest < denominator then floor
  else if denominator < rest then floor + 1
  else floor + floor % 2

/-- A quotient scaled by a power of two: numerator and denominator of `n / d / 2 ^ exponent`. -/
def scaleDown (n d : Nat) (exponent : Int) : Nat × Nat :=
  if exponent < 0 then (n * Nat.pow 2 exponent.natAbs, d)
  else (n, d * Nat.pow 2 exponent.natAbs)

/-- A decimal as a quotient: numerator and denominator of `digits · 10 ^ exponent`. -/
def decimalQuotient (digits : Nat) (exponent : Int) : Nat × Nat :=
  if exponent < 0 then (digits, Nat.pow 10 exponent.natAbs)
  else (digits * Nat.pow 10 exponent.natAbs, 1)

namespace Binary64

/-- The least exponent of a double. -/
def minExponent : Int := -1074

/-- The greatest exponent of a double. -/
def maxExponent : Int := 971

/-- Zero, with a sign. -/
def zero (negative : Bool) : Binary64 := .finite negative 0 minExponent

/-- The exponent at which a positive quotient has a mantissa of 53 bits, or the least one. -/
def exponentFor (n d : Nat) : Int :=
  let guess : Int := (n.log2 : Int) - d.log2 - 53
  let (a, b) := scaleDown n d guess
  let exponent := if a / b < Nat.pow 2 53 then guess else guess + 1
  max exponent minExponent

/-- The double with the other sign. -/
def negated : Binary64 → Binary64
  | .finite negative mantissa exponent => .finite (!negative) mantissa exponent
  | .infinite negative => .infinite (!negative)
  | .nan => .nan

/-- The double nearest to a quotient with a positive denominator. -/
def ofQuotient (negative : Bool) (n d : Nat) : Binary64 :=
  if n = 0 then zero negative
  else
    let exponent := exponentFor n d
    let (a, b) := scaleDown n d exponent
    let rounded := roundHalfEven a b
    let (mantissa, exponent) :=
      if rounded = Nat.pow 2 53 then (Nat.pow 2 52, exponent + 1) else (rounded, exponent)
    if maxExponent < exponent then .infinite negative else .finite negative mantissa exponent

/-- The double nearest to `digits · 10 ^ exponent`, where `digits` has `count` decimal digits. A
number of more than 400 digits before the point is infinite, and one with 400 zeros after the point
is zero. -/
def nearest (negative : Bool) (digits count : Nat) (exponent : Int) : Binary64 :=
  if digits = 0 then zero negative
  else if 400 < exponent + count then .infinite negative
  else if exponent + count < -400 then zero negative
  else
    let (n, d) := decimalQuotient digits exponent
    ofQuotient negative n d

end Binary64

end QueryScaffold
