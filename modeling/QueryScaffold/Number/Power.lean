import QueryScaffold.Number.Arithmetic

/-!
# Powers of doubles and complex numbers

* `Binary64.toFloat`, `Binary64.ofFloat`: doubles as the processor keeps them;
* `Binary64.power`: a power of a double, or why there is none;
* `Complex64.product`, `Complex64.quotient?`, `Complex64.power`: complex numbers of two doubles.

Sums and products are exact before they are rounded. What is no rational number is computed by the
processor.
-/

namespace QueryScaffold

namespace Binary64

/-- The bits of the double. -/
def toBits : Binary64 → UInt64
  | .nan => 0x7FF8000000000000
  | .infinite negative => (if negative then 0x8000000000000000 else 0) + 0x7FF0000000000000
  | .finite negative mantissa exponent =>
    let hidden := Nat.pow 2 52
    let biased : Nat := if mantissa < hidden then 0 else (exponent + 1075).toNat
    let fraction := if mantissa < hidden then mantissa else mantissa - hidden
    UInt64.ofNat ((if negative then Nat.pow 2 63 else 0) + biased * hidden + fraction)

/-- The double of some bits. -/
def ofBits (bits : UInt64) : Binary64 :=
  let n := bits.toNat
  let negative := Nat.pow 2 63 ≤ n
  let biased : Nat := n / Nat.pow 2 52 % Nat.pow 2 11
  let fraction : Nat := n % Nat.pow 2 52
  if biased = 2047 then if fraction = 0 then .infinite negative else .nan
  else if biased = 0 then .finite negative fraction minExponent
  else .finite negative (Nat.pow 2 52 + fraction) ((biased : Int) - 1075)

/-- The double as the processor keeps it. -/
def toFloat (x : Binary64) : Float := Float.ofBits x.toBits

/-- The double that the processor keeps so. -/
def ofFloat (x : Float) : Binary64 := ofBits x.toBits

/-- The double without its sign. -/
def unsigned (x : Binary64) : Binary64 := if x.isNegative then x.negated else x

/-- The double is an integer. -/
def isWhole : Binary64 → Bool
  | .finite _ mantissa exponent =>
    0 ≤ exponent || mantissa % Nat.pow 2 exponent.natAbs = 0
  | _ => false

/-- The greatest integer that is not above a finite double. -/
def floor (x : Binary64) : Int :=
  let grid := min x.grid 0
  (x.steps grid).fdiv (Int.pow 2 grid.natAbs)

/-- The double is an odd integer. -/
def isOdd (x : Binary64) : Bool :=
  x.isWhole && x.floor % 2 = 1

/-- Why there is no power of a double. -/
inductive PowerFault
  /-- Zero is raised to a negative power. -/
  | zeroBase
  | tooLarge
  /-- The power is no real number. -/
  | notReal
deriving DecidableEq, Repr

/-- The power of a double to another one. -/
def power (x y : Binary64) : Except PowerFault Binary64 :=
  let one := ofInteger 1
  let above := x.unsigned.compare? one
  if y.isZero then .ok one
  else if x.isNaN then .ok x
  else if y.isNaN then .ok (if x = one then one else y)
  else if !y.isFinite then
    .ok (if above = some .eq then one
      else if (!y.isNegative) = (above = some .gt) then .infinite false else zero false)
  else if !x.isFinite then
    let size : Binary64 := if y.isNegative then zero false else .infinite false
    .ok (if x.isNegative && y.isOdd then size.negated else size)
  else if x.isZero then
    if y.isNegative then .error .zeroBase
    else .ok (if y.isOdd then x else zero false)
  else if x.isNegative && !y.isWhole then .error .notReal
  else
    let size := ofFloat (x.unsigned.toFloat ^ y.toFloat)
    if !size.isFinite then .error .tooLarge
    else .ok (if x.isNegative && y.isOdd then size.negated else size)

end Binary64

/-- A complex number of two doubles. -/
structure Complex64 where
  re : Binary64
  im : Binary64
deriving DecidableEq

namespace Complex64

/-- A real number. -/
def ofReal (x : Binary64) : Complex64 := ⟨x, Binary64.zero false⟩

/-- One. -/
def one : Complex64 := ofReal (Binary64.ofInteger 1)

/-- Zero. -/
def zero : Complex64 := ofReal (Binary64.zero false)

/-- The sum of two complex numbers. -/
def sum (a b : Complex64) : Complex64 := ⟨a.re.sum b.re, a.im.sum b.im⟩

/-- The complex number with the other sign. -/
def negated (a : Complex64) : Complex64 := ⟨a.re.negated, a.im.negated⟩

/-- The difference of two complex numbers. -/
def difference (a b : Complex64) : Complex64 := ⟨a.re.sum b.re.negated, a.im.sum b.im.negated⟩

/-- The product of two complex numbers. -/
def product (a b : Complex64) : Complex64 :=
  ⟨(a.re.product b.re).sum (a.im.product b.im).negated,
    (a.re.product b.im).sum (a.im.product b.re)⟩

/-- Both parts of the complex number are zero. -/
def isZero (a : Complex64) : Bool := a.re.isZero && a.im.isZero

/-- The quotient of two complex numbers, unless the divisor is zero. -/
def quotient? (a b : Complex64) : Option Complex64 :=
  let size (x : Binary64) := x.unsigned
  match (size b.re).compare? (size b.im) with
  | none => some ⟨.nan, .nan⟩
  | some .lt =>
    let ratio := b.re.quotient b.im
    let divisor := (b.re.product ratio).sum b.im
    some ⟨((a.re.product ratio).sum a.im).quotient divisor,
      ((a.im.product ratio).sum a.re.negated).quotient divisor⟩
  | some _ =>
    if b.re.isZero then none
    else
      let ratio := b.im.quotient b.re
      let divisor := b.re.sum (b.im.product ratio)
      some ⟨(a.re.sum (a.im.product ratio)).quotient divisor,
        (a.im.sum (a.re.product ratio).negated).quotient divisor⟩

/-- A complex number raised to a natural power by squaring; `bits` bounds the length of the power. -/
def naturalPower (square done : Complex64) : Nat → Nat → Complex64
  | 0, _ => done
  | bits + 1, n =>
    if n = 0 then done
    else
      naturalPower (square.product square) (if n % 2 = 1 then done.product square else done) bits
        (n / 2)

/-- The greatest integer exponent to which a power is a product. -/
def maxProductExponent : Nat := 100

/-- A power that is no product. -/
def transcendentalPower (a b : Complex64) : Complex64 :=
  let size := Float.sqrt (a.re.toFloat * a.re.toFloat + a.im.toFloat * a.im.toFloat)
  let angle := Float.atan2 a.im.toFloat a.re.toFloat
  let length := size ^ b.re.toFloat
  let phase := angle * b.re.toFloat
  let (length, phase) :=
    if b.im.isZero then (length, phase)
    else (length / Float.exp (angle * b.im.toFloat), phase + b.im.toFloat * Float.log size)
  ⟨.ofFloat (length * Float.cos phase), .ofFloat (length * Float.sin phase)⟩

/-- The power of a complex number to another one, unless zero is raised to a power that is negative
or not real. -/
def power? (a b : Complex64) : Option Complex64 :=
  let count := b.re.floor.natAbs
  if b.isZero then some one
  else if a.isZero then if !b.im.isZero || b.re.isNegative then none else some zero
  else if b.im.isZero && b.re.isWhole && count ≤ maxProductExponent then
    let size := naturalPower a one 8 count
    if b.re.isNegative then one.quotient? size else some size
  else some (transcendentalPower a b)

end Complex64

/-- A power of an integer is one, and an odd power of a negative number is negative. -/
example : Complex64.naturalPower ⟨Binary64.zero false, .ofInteger 1⟩ .one 8 2 =
    ⟨.ofInteger (-1), Binary64.zero false⟩ := by
  decide +kernel

end QueryScaffold
