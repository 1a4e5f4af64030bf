import QueryScaffold.Number.Arithmetic
import QueryScaffold.Number.Shortest

/-!
# Decimals of a given length

* `Binary64.fixed`: a double with so many digits behind the point;
* `Binary64.scientificText`: a double with one digit before the point and so many behind it;
* `Binary64.general`: a double with so many digits in all, in the one way or the other;
* `Text.grouped`: digits in groups.

A double is rounded to the nearest decimal, a half going to the even neighbour. The functions write
the double without its sign.
-/

namespace QueryScaffold

namespace Text

/-- The text with zeros before it up to a width. -/
def zeroFilled (width : Nat) (t : Text) : Text :=
  List.replicate (width - t.length) (CodePoint.ofChar '0') ++ t

/-- Digits in groups of a size, with a mark between neighbours; the first group may be shorter. -/
def grouped (mark : CodePoint) (size : Nat) (digits : Text) : Text :=
  let places := digits.zipIdx.flatMap fun (c, i) =>
    if i ≠ 0 && (digits.length - i) % size = 0 then [mark, c] else [c]
  places

/-- The text without zeros at its end. -/
def withoutZeros (t : Text) : Text :=
  (t.reverse.dropWhile (· = CodePoint.ofChar '0')).reverse

end Text

namespace Binary64

/-- The finite double without its sign as a quotient. -/
def sizeQuotient : Binary64 → Nat × Nat
  | .finite _ mantissa exponent => scaleDown mantissa 1 (-exponent)
  | _ => (0, 1)

/-- The multiple of a power of ten that is nearest to the double without its sign. -/
def nearestMultiple (x : Binary64) (power : Int) : Nat :=
  let (n, d) := x.sizeQuotient
  if power < 0 then roundHalfEven (n * Nat.pow 10 power.natAbs) d
  else roundHalfEven n (d * Nat.pow 10 power.natAbs)

/-- The digits before the point and those behind it. -/
structure Places where
  whole : Text
  fraction : Text

/-- Whole digits and those behind the point, with the point between them if there are any or it is
asked for. -/
def Places.text (places : Places) (pointed : Bool) : Text :=
  if places.fraction = [] && !pointed then places.whole
  else places.whole ++ ("." : Text) ++ places.fraction

/-- The double without its sign, with so many digits behind the point. -/
def fixed (x : Binary64) (count : Nat) : Places :=
  let n := x.nearestMultiple (-count)
  ⟨Text.ofNat (n / Nat.pow 10 count),
    if count = 0 then [] else Text.zeroFilled count (Text.ofNat (n % Nat.pow 10 count))⟩

/-- The greatest power of ten that is not above the double without its sign, searched from an upper
bound downwards. -/
def powerBelow (x : Binary64) (power : Int) : Nat → Int
  | 0 => power
  | steps + 1 =>
    let (n, d) := x.sizeQuotient
    let (a, b) := decimalQuotient 1 power
    if a * d ≤ n * b then power else x.powerBelow (power - 1) steps

/-- The digits of the double without its sign in so many places, and the power of ten of the first
one. -/
def leading (x : Binary64) (count : Nat) : Nat × Int :=
  match x with
  | .finite _ mantissa exponent =>
    if mantissa = 0 then (0, 0)
    else
      let power := x.powerBelow (magnitude mantissa exponent) 8
      let n := x.nearestMultiple (power - (count - 1))
      if n = Nat.pow 10 count then (Nat.pow 10 (count - 1), power + 1) else (n, power)
  | _ => (0, 0)

/-- A power of ten as it stands behind digits. -/
def exponentText (mark : CodePoint) (power : Int) : Text :=
  mark :: (if power < 0 then ("-" : Text) else "+") ++
    Text.zeroFilled format.exponentWidth (Text.ofNat power.natAbs)

/-- The double without its sign with one digit before the point and so many behind it, and the power
of ten behind that. -/
def scientificText (x : Binary64) (count : Nat) : Places × Int :=
  let (n, power) := x.leading (count + 1)
  let digits := Text.zeroFilled (count + 1) (Text.ofNat n)
  (⟨digits.take 1, digits.drop 1⟩, power)

/-- The double without its sign with so many digits in all, and the power of ten behind them if there
is one; zeros at the end may be left out. -/
def general (x : Binary64) (count : Nat) (keepsZeros : Bool) : Places × Option Int :=
  let count := max count 1
  let (places, power) := x.scientificText (count - 1)
  let strip (t : Text) : Text := if keepsZeros then t else t.withoutZeros
  if -4 ≤ power && power < count then
    let places := x.fixed (count - 1 - power).toNat
    (⟨places.whole, strip places.fraction⟩, none)
  else (⟨places.whole, strip places.fraction⟩, some power)

/-- A half goes to the even neighbour, and zeros at the end are left out. -/
example : ((ofQuotient false 5 2).fixed 0).text false = Text.ofString "2" ∧
    ((ofQuotient false 1 8).fixed 2).text false = Text.ofString "0.12" ∧
    ((ofQuotient false 2469 2).general 6 false).1.text false = Text.ofString "1234.5" := by
  decide +kernel

end Binary64

end QueryScaffold
