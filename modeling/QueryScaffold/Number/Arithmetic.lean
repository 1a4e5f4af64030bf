import QueryScaffold.Number.Binary64

/-!
# Arithmetic of doubles

Two finite doubles are integers on a grid that they have in common. There the operations are exact,
and the result is the double nearest to it.

* `Binary64.ofInteger`: the double nearest to an integer;
* `Binary64.sum`, `Binary64.product`, `Binary64.quotient`: the operations;
* `Binary64.wholeQuotient`, `Binary64.remainder`: division downwards, the remainder having the sign
  of the divisor;
* `Binary64.compare?`: which of two doubles is greater, unless one is no number.
-/

namespace QueryScaffold

namespace Binary64

/-- The double is no number. -/
def isNaN : Binary64 → Bool
  | .nan => true
  | _ => false

/-- The double has an end. -/
def isFinite : Binary64 → Bool
  | .finite _ _ _ => true
  | _ => false

/-- The double has a sign. -/
def isNegative : Binary64 → Bool
  | .finite negative _ _ | .infinite negative => negative
  | .nan => false

/-- The double is zero. -/
def isZero : Binary64 → Bool
  | .finite _ mantissa _ => mantissa = 0
  | _ => false

/-- The exponent of a finite double. -/
def grid : Binary64 → Int
  | .finite _ _ exponent => exponent
  | _ => 0

/-- The integer that a finite double is in steps of `2 ^ grid`, where the grid is no coarser than
its own. -/
def steps (grid : Int) : Binary64 → Int
  | .finite negative mantissa exponent =>
    let size : Int := (mantissa * Nat.pow 2 (exponent - grid).toNat : Nat)
    if negative then -size else size
  | _ => 0

/-- The finest grid of two doubles. -/
def commonGrid (x y : Binary64) : Int := min x.grid y.grid

/-- The double nearest to a number of steps of `2 ^ grid`; `negative` is the sign of a zero. -/
def ofSteps (negative : Bool) (grid steps : Int) : Binary64 :=
  if steps = 0 then zero negative
  else
    let (n, d) := scaleDown steps.natAbs 1 (-grid)
    ofQuotient (steps < 0) n d

/-- The double nearest to an integer. -/
def ofInteger (n : Int) : Binary64 := ofSteps false 0 n

/-- The double nearest to a sum. -/
def sum (x y : Binary64) : Binary64 :=
  if x.isNaN || y.isNaN then .nan
  else if x.isFinite && y.isFinite then
    let grid := commonGrid x y
    ofSteps (x.isNegative && y.isNegative) grid (x.steps grid + y.steps grid)
  else if x.isFinite then y
  else if y.isFinite || x = y then x
  else .nan

/-- The double nearest to a product. -/
def product (x y : Binary64) : Binary64 :=
  let negative := x.isNegative != y.isNegative
  if x.isNaN || y.isNaN then .nan
  else if x.isFinite && y.isFinite then
    ofSteps negative (x.grid + y.grid) (x.steps x.grid * y.steps y.grid)
  else if x.isZero || y.isZero then .nan
  else .infinite negative

/-- The double nearest to a quotient, where the divisor is not zero. -/
def quotient (x y : Binary64) : Binary64 :=
  let negative := x.isNegative != y.isNegative
  if x.isNaN || y.isNaN then .nan
  else if x.isFinite && y.isFinite then
    let grid := commonGrid x y
    ofQuotient negative (x.steps grid).natAbs (y.steps grid).natAbs
  else if x.isFinite then zero negative
  else if y.isFinite then .infinite negative
  else .nan

/-- The double nearest to the greatest integer that is not above a quotient, where the divisor is
not zero. -/
def wholeQuotient (x y : Binary64) : Binary64 :=
  let negative := x.isNegative != y.isNegative
  if x.isNaN || y.isNaN || !x.isFinite then .nan
  else if y.isFinite then
    let grid := commonGrid x y
    ofSteps negative 0 ((x.steps grid).fdiv (y.steps grid))
  else if x.isZero || !negative then zero negative
  else ofInteger (-1)

/-- The double nearest to what a whole quotient leaves, where the divisor is not zero. -/
def remainder (x y : Binary64) : Binary64 :=
  if x.isNaN || y.isNaN || !x.isFinite then .nan
  else if y.isFinite then
    let grid := commonGrid x y
    ofSteps y.isNegative grid ((x.steps grid).fmod (y.steps grid))
  else if x.isZero then zero y.isNegative
  else if x.isNegative = y.isNegative then x
  else y

/-- Which of two doubles is greater, unless one is no number. -/
def compare? (x y : Binary64) : Option Ordering :=
  match x, y with
  | .nan, _ | _, .nan => none
  | .infinite a, .infinite b => some (if a = b then .eq else if a then .lt else .gt)
  | .infinite a, _ => some (if a then .lt else .gt)
  | _, .infinite b => some (if b then .gt else .lt)
  | x, y =>
    let grid := commonGrid x y
    some (compare (x.steps grid) (y.steps grid))

/-- A sum of opposite numbers is zero without a sign, and a quotient is rounded to even. -/
example : sum (ofInteger 3) (ofInteger (-3)) = zero false ∧
    quotient (ofInteger 1) (ofInteger 2) = .nearest false 5 1 (-1) ∧
    remainder (ofInteger (-7)) (ofInteger 3) = ofInteger 2 := by
  decide +kernel

end Binary64

end QueryScaffold
