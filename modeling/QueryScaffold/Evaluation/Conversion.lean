import QueryScaffold.Evaluation.Method.Collection
import QueryScaffold.Evaluation.Method.Text
import QueryScaffold.Number.Literal

/-!
# What built-in classes make of values

* `Eval.integerFrom`, `Eval.realFrom`, `Eval.complexFrom`: the number that arguments stand for;
* `Eval.textFrom`, `Eval.bytesFrom`: a text, and bytes;
* `Eval.rangeFrom`, `Eval.sliceFrom`: ranges.

What is missing stands for zero, or for nothing at all.
-/

namespace QueryScaffold

namespace Eval

/-! ## Numbers -/

/-- The text that a value is to be read from as a number, with the way messages show it. -/
def numeral? : Value → Option Text
  | .constant (.text t) => some t
  | value => value.bytes?.map levelText

/-- The integer that a text writes in a base. -/
def readInteger (base : Nat) (source : Value) (t : Text) : Eval Value :=
  match Text.readInteger base t with
  | .ok n => pure (.integer n)
  | .error .malformed => throw (.making (.notInteger base source.display))
  | .error (.tooManyDigits digits) => throw (.making (.tooManyDigits digits))

/-- The integer of a double without its fraction. -/
def wholePart (x : Binary64) : Eval Value :=
  if x.isFinite then pure (.integer (if x.hasSign then -(x.negated.floor) else x.floor))
  else if x.isNaN then refuseValue "cannot convert float NaN to integer"
  else refuse "OverflowError" "cannot convert float infinity to integer"

/-- The integer that a value stands for. -/
def integerFromValue (value : Value) : Eval Value := do
  match value, numeral? value, value.integer? with
  | _, some t, _ => readInteger 10 value t
  | _, none, some n => return .integer n
  | .constant (.real x), none, none => wholePart x
  | value, none, none =>
    refuseType (("int() argument must be a string, a bytes-like object or a real number, not '" :
      Text) ++ (← kindName value) ++ ("'" : Text))

/-- The integer that arguments stand for: a value, and a base. -/
def integerFrom (arguments : List (Option Value)) : Eval Value := do
  match first? arguments, second? arguments with
  | none, none => return .integer 0
  | none, some _ => refuseType "int() missing string argument"
  | some value, none => integerFromValue value
  | some value, some base =>
    let base ← integerOf base
    if (base ≠ 0 && base < 2) || 36 < base then
      refuseValue "int() base must be >= 2 and <= 36, or 0"
    else
      match numeral? value with
      | some t => readInteger base.toNat value t
      | none => refuseType "int() can't convert non-string with explicit base"

/-- The double that an integer, or an argument that is a double, stands for. -/
def realOfNumber? (value : Value) : Option (Eval Binary64) :=
  match value, value.integer? with
  | .constant (.real x), _ => some (pure x)
  | _, some n => some (ofExcept (realOf n))
  | _, none => none

/-- The double that arguments stand for. -/
def realFrom (arguments : List (Option Value)) : Eval Value := do
  match first? arguments with
  | none => return .constant (.real (Binary64.zero false))
  | some value =>
    match numeral? value, realOfNumber? value with
    | some t, _ =>
      match t.real? with
      | some x => return .constant (.real x)
      | none => throw (.making (.notReal value.display))
    | none, some x => return .constant (.real (← x))
    | none, none =>
      refuseType (("float() argument must be a string or a real number, not '" : Text) ++
        (← kindName value) ++ ("'" : Text))

/-- The complex number that an argument stands for, where it is the one of this place. -/
def complexPart (which wanted : Text) (value : Value) : Eval Complex64 := do
  match value, realOfNumber? value with
  | .constant (.complex re im), _ => return ⟨re, im⟩
  | _, some x => return .ofReal (← x)
  | value, none =>
    refuseType (("complex() " : Text) ++ which ++ (" argument must be a " : Text) ++ wanted ++
      (", not '" : Text) ++ (← kindName value) ++ ("'" : Text))

/-- The complex number that arguments stand for: a text, or a real and an imaginary part. -/
def complexFrom (arguments : List (Option Value)) : Eval Value := do
  let isText : Option Value → Bool
    | some (.constant (.text _)) => true
    | _ => false
  let second := second? arguments
  match first? arguments with
  | some (.constant (.text t)) =>
    if second.isSome then refuseType "complex() can't take second arg if first is a string"
    else
      match t.complex? with
      | some (re, im) => return .constant (.complex re im)
      | none => throw (.making (.notComplex t.quote t.isStrayUnderscored))
  | first =>
    if isText second then refuseType "complex() second arg can't be a string"
    else
      let real ← match first with
        | some value => complexPart "first" "string or a number" value
        | none => pure Complex64.zero
      match second with
      | none => return .constant (.complex real.re real.im)
      | some value =>
        let imaginary ← complexPart "second" "number" value
        let isReal (value : Option Value) : Bool :=
          match value with
          | some (.constant (.complex _ _)) => false
          | _ => true
        let re := if isReal second then real.re else real.re.sum imaginary.im.negated
        let im := if isReal first then imaginary.re else real.im.sum imaginary.re
        return .constant (.complex re im)

/-! ## Texts and bytes -/

/-- The text that arguments stand for: a value, or bytes in an encoding. -/
def textFrom (arguments : List (Option Value)) : Eval Value := do
  let (encoding, handling) ← encodingNames "str" (arguments.drop 1)
  match first? arguments with
  | none => return .text []
  | some value =>
    if (arguments.drop 1).all Option.isNone then return .text (← plainText value)
    else
      match value, value.bytes? with
      | _, some content => return .text (← decode encoding handling content)
      | .constant (.text _), none => refuseType "decoding str is not supported"
      | value, none =>
        refuseType (("decoding to str: need a bytes-like object, " : Text) ++ (← kindName value) ++
          (" found" : Text))

/-- The most bytes that are made at once. -/
def maxBytes : Int := Int.pow 10 8

/-- So many bytes that are zero. -/
def zeroBytes (n : Int) : Eval (List UInt8) :=
  if n < 0 then refuseValue "negative count"
  else if Int.pow 2 63 ≤ n then
    refuse "OverflowError" "cannot fit 'int' into an index-sized integer"
  else if maxBytes < n then refuse "MemoryError" []
  else pure (List.replicate n.toNat 0)

/-- The bytes that integers are. -/
def bytesOfItems (className : Text) (items : List Value) : Eval (List UInt8) :=
  items.mapM fun item => do
    let n ← integerOf item
    if 0 ≤ n && n < 256 then return UInt8.ofNat n.toNat
    else
      refuseValue (if className = ("bytes" : Text) then "bytes must be in range(0, 256)"
        else "byte must be in range(0, 256)")

/-- The bytes that a value other than a text stands for. -/
def bytesOfValue (run : Interpreter) (className : Text) (value : Value) : Eval (List UInt8) := do
  match value.bytes?, value.integer? with
  | some content, _ => return content
  | none, some n => zeroBytes n
  | none, none =>
    let isPassable := value.items?.isSome || (match value with
      | .iterator _ _ | .apply _ _ => true
      | _ => false)
    if isPassable then bytesOfItems className (← run.items value)
    else
      refuseType (("cannot convert '" : Text) ++ (← kindName value) ++ ("' object to " : Text) ++
        className)

/-- The bytes that arguments stand for: a text in an encoding, or another value. -/
def bytesFrom (run : Interpreter) (className : Text) (arguments : List (Option Value)) :
    Eval (List UInt8) := do
  let (encoding, handling) ← encodingNames className (arguments.drop 1)
  let unused : Option Text :=
    if (second? arguments).isSome then some "encoding without a string argument"
    else if (third? arguments).isSome then some "errors without a string argument"
    else none
  match first? arguments with
  | some (.constant (.text t)) =>
    if (second? arguments).isSome then encode encoding handling t
    else refuseType "string argument without an encoding"
  | first =>
    match unused, first with
    | some notice, _ => refuseType notice
    | none, none => return []
    | none, some value => bytesOfValue run className value

/-! ## Ranges -/

/-- The range of integers that arguments stand for. -/
def rangeFrom (arguments : List (Option Value)) : Eval Value := do
  match first? arguments, second? arguments, third? arguments with
  | some stop, none, _ => return .range 0 (← integerOf stop) 1
  | some start, some stop, step =>
    let start ← integerOf start
    let stop ← integerOf stop
    let step ← match step with
      | some step => integerOf step
      | none => pure 1
    if step = 0 then refuseValue "range() arg 3 must not be zero"
    else return .range start stop step
  | none, _, _ => return .range 0 0 1

/-- The range of places that arguments stand for. -/
def sliceFrom (arguments : List (Option Value)) : Eval Value :=
  match first? arguments, second? arguments, third? arguments with
  | some start, some stop, step => pure (.slice start stop (step.getD .null))
  | stop, none, _ => pure (.slice .null (stop.getD .null) .null)
  | none, some stop, _ => pure (.slice .null stop .null)

end Eval

end QueryScaffold
