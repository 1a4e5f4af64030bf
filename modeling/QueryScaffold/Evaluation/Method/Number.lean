import QueryScaffold.Evaluation.Method.Argument

/-!
# The functions of numbers and ranges

* `Eval.integerMethod`, `Eval.realMethod`, `Eval.rangeMethod`: what a function of a number or of a
  range gives;
* `Eval.integerOfBytes`: the integer that bytes are.
-/

namespace QueryScaffold

namespace Eval

/-- The number of binary digits of a natural number. -/
def bitLength (n : Nat) : Nat := if n = 0 then 0 else n.log2 + 1

/-- The number of ones among the last binary digits of a natural number. -/
def bitCount : Nat → Nat → Nat
  | 0, _ => 0
  | digits + 1, n => n % 2 + bitCount digits (n / 2)

/-- So many bytes of a natural number, the last one first. -/
def bytesOf : Nat → Nat → List UInt8
  | 0, _ => []
  | count + 1, n => UInt8.ofNat (n % 256) :: bytesOf count (n / 256)

/-- The last byte comes first in an order of bytes that an argument names. -/
def startsWithLast (order : Option Value) : Eval Bool := do
  match order with
  | none => return false
  | some (.constant (.text t)) =>
    if t = ("big" : Text) then return false
    else if t = ("little" : Text) then return true
    else refuseValue "byteorder must be either 'little' or 'big'"
  | some value =>
    refuseType (("to_bytes() argument 'byteorder' must be str, not " : Text) ++ (← argumentKind value))

/-- The bytes of an integer. -/
def integerBytes (n : Int) (arguments : List (Option Value)) : Eval Value := do
  let count ← countOr 1 (first? arguments)
  let isReversed ← startsWithLast (second? arguments)
  let signed := ((third? arguments).map Value.isTruthy).getD false
  if count < 0 then refuseValue "length argument must be non-negative"
  else if n < 0 && !signed then refuse "OverflowError" "can't convert negative int to unsigned"
  else
    let digits := if signed then bitLength (if n < 0 then (-n - 1).natAbs else n.natAbs) + 1
      else bitLength n.natAbs
    if 8 * count.toNat < digits && !(n = 0) then refuse "OverflowError" "int too big to convert"
    else
      let bytes := bytesOf count.toNat (n % (Nat.pow 256 count.toNat : Nat)).toNat
      return .constant (.bytes (if isReversed then bytes else bytes.reverse))

/-- The integer that bytes are. -/
def integerOfBytes (run : Interpreter) (arguments : List (Option Value)) : Eval Value := do
  let items ← run.items ((first? arguments).getD .null)
  let numbers ← items.mapM integerOf
  let isReversed ← startsWithLast (second? arguments)
  let ordered := if isReversed then numbers.reverse else numbers
  let n := ordered.foldl (fun n byte => n * 256 + byte) 0
  let signed := ((third? arguments).map Value.isTruthy).getD false
  let isNegative := signed && ordered.headD 0 ≥ 128
  return .integer (if isNegative then n - Int.pow 256 ordered.length else n)

/-- What a function of an integer gives. -/
def integerMethod (run : Interpreter) (n : Int) (name : Text)
    (arguments : List (Option Value)) : Eval Value := do
  let is (other : String) : Bool := name = Text.ofString other
  if is "conjugate" then return .integer n
  else if is "as_integer_ratio" then return .tuple [.integer n, .integer 1]
  else if is "bit_length" then return .integer (bitLength n.natAbs)
  else if is "bit_count" then return .integer (bitCount (bitLength n.natAbs) n.natAbs)
  else if is "to_bytes" then integerBytes n arguments
  else integerOfBytes run arguments

/-- A quotient of integers in lowest terms. -/
def ratio (x : Binary64) : Eval Value := do
  if x.isFinite then
    let steps := x.steps (min x.grid 0)
    let scale : Nat := Nat.pow 2 (-(min x.grid 0)).toNat
    let common := Nat.gcd steps.natAbs scale
    return .tuple [.integer (steps / common), .integer ((scale / common : Nat) : Int)]
  else if x.isNaN then refuseValue "cannot convert NaN to integer ratio"
  else refuse "OverflowError" "cannot convert Infinity to integer ratio"

/-- The digits of a double in base sixteen. -/
def realDigits (x : Binary64) : Text :=
  match x with
  | .finite _ 0 _ => (if x.hasSign then "-0x0.0p+0" else "0x0.0p+0" : Text)
  | .finite negative mantissa exponent =>
    let shift := 53 - bitLength mantissa
    let full := mantissa * Nat.pow 2 shift
    let power := exponent - shift + 52
    let (full, power) := if power < -1022 then
      (full / Nat.pow 2 (-1022 - power).toNat, (-1022 : Int)) else (full, power)
    (if negative then ("-0x" : Text) else "0x") ++ Text.ofNat (full / Nat.pow 2 52) ++
      ("." : Text) ++ hexadecimal 13 (full % Nat.pow 2 52) ++ ("p" : Text) ++
      (if power < 0 then ("-" : Text) else "+") ++ Text.ofNat power.natAbs
  | x => x.text

/-- The double that an argument writes in base sixteen. -/
def realOfDigits (arguments : List (Option Value)) : Eval Value := do
  match (first? arguments).getD .null with
  | .constant (.text t) =>
    match t.hexadecimalReal? with
    | none => refuseValue "invalid hexadecimal floating-point string"
    | some (.infinite negative) =>
      if t.any CodePoint.isDecimalDigit then
        refuse "OverflowError" "hexadecimal value too large to represent as a float"
      else return .constant (.real (.infinite negative))
    | some x => return .constant (.real x)
  | _ => refuseType "bad argument type for built-in operation"

/-- What a function of a double gives. -/
def realMethod (x : Binary64) (name : Text) : Eval Value := do
  if name = ("is_integer" : Text) then return .truth (x.isFinite && x.isWhole)
  else if name = ("as_integer_ratio" : Text) then ratio x
  else if name = ("hex" : Text) then return .text (realDigits x)
  else return .constant (.real x)

/-- What a function of a range gives. -/
def rangeMethod (start stop step : Int) (name : Text) (value : Value) : Eval Value := do
  let found : Option Int := value.integer?.bind fun n =>
    let distance := n - start
    if distance % step = 0 && 0 ≤ distance / step &&
        distance / step < Value.rangeLength start stop step then some (distance / step)
    else none
  if name = ("count" : Text) then return .integer (if found.isSome then 1 else 0)
  else
    match found, value.integer? with
    | some place, _ => return .integer place
    | none, some _ => refuseValue ((← display value) ++ (" is not in range" : Text))
    | none, none => refuseValue "sequence.index(x): x not in sequence"

/-- The bounds of a range of places among so many items. -/
def sliceIndices (start stop step length : Value) : Eval Value := do
  let count ← countOf length
  let bound (value : Value) : Eval (Option Int) := do
    match value with
    | .constant .null => return none
    | value =>
      match value.integer? with
      | some n => return some n
      | none => throw .badBound
  let gap := (← bound step).getD 1
  let (low, high) : Int × Int := if gap < 0 then (-1, count - 1) else (0, count)
  let place := Environment.placeOf count.toNat low high
  let first := ((← bound start).map place).getD (if gap < 0 then high else low)
  let last := ((← bound stop).map place).getD (if gap < 0 then low else high)
  if gap = 0 then throw .zeroStep
  else return .tuple [.integer first, .integer last, .integer gap]

end Eval

end QueryScaffold
