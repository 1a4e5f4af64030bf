import QueryScaffold.Evaluation.Fault
import QueryScaffold.Number.Power

/-!
# Operators on numbers

* `Numeric`: what a constant counts as in arithmetic;
* `Numeric.operate?`: what an operator gives for numbers;
* `holds?`: an order is what a comparison asks for.

Integers have no bounds. An operation on an integer and a double takes the double nearest to the
integer, and one with a complex number takes a complex number without an imaginary part.
-/

namespace QueryScaffold

/-! ## Integers -/

/-- The integer with all binary digits changed, where a negative one has ones without an end. -/
def flipBits (n : Int) : Int := -n - 1

/-- The integer with the binary digits that two integers have in common. -/
def commonBits : Int → Int → Int
  | .ofNat a, .ofNat b => .ofNat (a &&& b)
  | .ofNat a, .negSucc b => .ofNat (a - (a &&& b))
  | .negSucc a, .ofNat b => .ofNat (b - (b &&& a))
  | .negSucc a, .negSucc b => .negSucc (a ||| b)

/-- The integer with the binary digits that one of two integers has. -/
def joinedBits (a b : Int) : Int :=
  flipBits (commonBits (flipBits a) (flipBits b))

/-- The integer whose binary digits an operator makes from those of two integers. -/
def bitResult? (operator : Operator) (a b : Int) : Option Int :=
  match operator with
  | .bar => some (joinedBits a b)
  | .ampersand => some (commonBits a b)
  | .caret => some (joinedBits a b - commonBits a b)
  | _ => none

/-- An order is what a comparison asks for. -/
def holds? (operator : Operator) (order : Ordering) : Option Bool :=
  match operator with
  | .less => some (order = .lt)
  | .greater => some (order = .gt)
  | .atMost => some (order ≠ .gt)
  | .atLeast => some (order ≠ .lt)
  | _ => none

/-- What an operation on constants gives: a constant, or a fault. -/
abbrev ConstantResult := Except CodeFault Constant

/-- What an operator gives as a truth value, if it compares. -/
def orderResult? (operator : Operator) (order : Ordering) : Option ConstantResult :=
  (holds? operator order).map fun found => .ok (.truth found)

/-- The double nearest to an integer. -/
def realOf (n : Int) : Except CodeFault Binary64 :=
  match Binary64.ofInteger n with
  | .infinite _ => .error (.noDouble false)
  | x => .ok x

/-- The double nearest to a quotient of integers. -/
def integerQuotient (a b : Int) : ConstantResult :=
  match Binary64.ofQuotient ((a < 0) != (b < 0)) a.natAbs b.natAbs with
  | .infinite _ => .error (.noDouble true)
  | quotient => .ok (.real quotient)

/-- A power of complex numbers. -/
def complexPower (a b : Complex64) : ConstantResult :=
  match a.power? b with
  | some z => .ok (.complex z.re z.im)
  | none => .error (.refused "ZeroDivisionError" "0.0 to a negative or complex power")

/-- A power of doubles, which may be no real number. -/
def realPower (x y : Binary64) : ConstantResult :=
  match x.power y with
  | .ok z => .ok (.real z)
  | .error .zeroBase => .error (.dividedByZero .power true)
  | .error .tooLarge => .error (.refused "OverflowError" "(34, 'Numerical result out of range')")
  | .error .notReal => complexPower (.ofReal x) (.ofReal y)

/-- A power of integers; one with a negative exponent is a double. -/
def integerPower (a b : Int) : ConstantResult :=
  if 0 ≤ b then .ok (.integer (Int.pow a b.toNat))
  else
    match realOf a, realOf b with
    | .error fault, _ | .ok _, .error fault => .error fault
    | .ok x, .ok y => realPower x y

/-- What an operator of arithmetic gives for two integers. -/
def operateIntegers? (operator : Operator) (a b : Int) : Option ConstantResult :=
  let zeroDivision : ConstantResult := .error (.dividedByZero operator false)
  match operator with
  | .plus => some (.ok (.integer (a + b)))
  | .minus => some (.ok (.integer (a - b)))
  | .times => some (.ok (.integer (a * b)))
  | .over => some (if b = 0 then zeroDivision else integerQuotient a b)
  | .wholeOver => some (if b = 0 then zeroDivision else .ok (.integer (a.fdiv b)))
  | .modulo => some (if b = 0 then zeroDivision else .ok (.integer (a.fmod b)))
  | .power => some (integerPower a b)
  | .shiftLeft =>
    some (if b < 0 then .error .negativeShift else .ok (.integer (a * Int.pow 2 b.toNat)))
  | .shiftRight => some (if b < 0 then .error .negativeShift else .ok (.integer (a >>> b.toNat)))
  | operator =>
    match bitResult? operator a b with
    | some n => some (.ok (.integer n))
    | none => orderResult? operator (compare a b)

/-! ## Numbers -/

/-- What a constant counts as in arithmetic. -/
inductive Numeric
  | integer (n : Int)
  | real (x : Binary64)
  | complex (z : Complex64)

namespace Numeric

/-- The number that a constant is. -/
def ofConstant? : Constant → Option Numeric
  | .real x => some (.real x)
  | .complex re im => some (.complex ⟨re, im⟩)
  | c => c.integer?.map .integer

/-- The double nearest to the real part of the number. -/
def toReal : Numeric → Except CodeFault Binary64
  | .real x => .ok x
  | .integer n => realOf n
  | .complex z => .ok z.re

/-- The number as a complex number. -/
def toComplex : Numeric → Except CodeFault Complex64
  | .complex z => .ok z
  | a => a.toReal.map .ofReal

/-- The number as a mantissa without bounds on a grid. -/
def unbounded : Numeric → Binary64
  | .real x => x
  | .integer n => .finite (n < 0) n.natAbs 0
  | .complex z => z.re

/-- What an operator of arithmetic gives for two doubles. -/
def operateReals? (operator : Operator) (x y : Binary64) : Option ConstantResult :=
  let unlessZero (result : Binary64) : Option ConstantResult :=
    some (if y.isZero then .error (.dividedByZero operator true) else .ok (.real result))
  match operator with
  | .plus => some (.ok (.real (x.sum y)))
  | .minus => some (.ok (.real (x.sum y.negated)))
  | .times => some (.ok (.real (x.product y)))
  | .over => unlessZero (x.quotient y)
  | .wholeOver => unlessZero (x.wholeQuotient y)
  | .modulo => unlessZero (x.remainder y)
  | .power => some (realPower x y)
  | _ => none

/-- What an operator gives for two numbers, of which one is a double and none is complex. Numbers
are compared as they are. -/
def operateMixed? (operator : Operator) (a b : Numeric) : Option ConstantResult :=
  match holds? operator .eq, a.unbounded.compare? b.unbounded with
  | some _, none => some (.ok (.truth false))
  | some _, some order => orderResult? operator order
  | none, _ =>
    match a.toReal, b.toReal with
    | .ok x, .ok y => operateReals? operator x y
    | .error fault, _ | .ok _, .error fault =>
      (operateReals? operator .nan .nan).map fun _ => .error fault

/-- What an operator gives for two complex numbers. -/
def operateComplex? (operator : Operator) (a b : Complex64) : Option ConstantResult :=
  let found (z : Complex64) : Option ConstantResult := some (.ok (.complex z.re z.im))
  match operator with
  | .plus => found (a.sum b)
  | .minus => found (a.difference b)
  | .times => found (a.product b)
  | .over =>
    match a.quotient? b with
    | some z => found z
    | none => some (.error (.refused "ZeroDivisionError" "complex division by zero"))
  | .power => some (complexPower a b)
  | _ => none

/-- The number is complex. -/
def isComplex : Numeric → Bool
  | .complex _ => true
  | _ => false

/-- What an operator gives for two numbers. -/
def operate? (operator : Operator) (a b : Numeric) : Option ConstantResult :=
  match a, b with
  | .integer m, .integer n => operateIntegers? operator m n
  | a, b =>
    if a.isComplex || b.isComplex then
      match a.toComplex, b.toComplex with
      | .ok x, .ok y => operateComplex? operator x y
      | .error fault, _ | .ok _, .error fault =>
        (operateComplex? operator .one .one).map fun _ => .error fault
    else operateMixed? operator a b

end Numeric

namespace Constant

/-- What an operator gives for two constants that are numbers or texts. -/
def operate? (operator : Operator) (left right : Constant) : Option ConstantResult :=
  match left, right with
  | .truth a, .truth b =>
    let count (b : Bool) : Int := if b then 1 else 0
    match bitResult? operator (count a) (count b) with
    | some n => some (.ok (.truth (n ≠ 0)))
    | none => operateIntegers? operator (count a) (count b)
  | .text a, .text b =>
    orderResult? operator (if a = b then .eq else if a.le b then .lt else .gt)
  | .bytes a, .bytes b =>
    orderResult? operator (compareOfLessAndEq (a.map UInt8.toNat) (b.map UInt8.toNat))
  | left, right =>
    (Numeric.ofConstant? left).bind fun a =>
      (Numeric.ofConstant? right).bind fun b => Numeric.operate? operator a b

/-- The value of a sign before a constant that is a number. -/
def signed? (sign : Sign) (c : Constant) : Option Constant :=
  match sign, c with
  | .not, c => some (.truth (!c.isTruthy))
  | .plus, .real x => some (.real x)
  | .minus, .real x => some (.real x.negated)
  | .plus, .complex re im => some (.complex re im)
  | .minus, .complex re im => some (.complex re.negated im.negated)
  | .tilde, .real _ | .tilde, .complex _ _ => none
  | .minus, c => c.integer?.map fun n => .integer (-n)
  | .tilde, c => c.integer?.map fun n => .integer (flipBits n)
  | .plus, c => c.integer?.map .integer

end Constant

end QueryScaffold
