import QueryScaffold.Number.Binary64
import QueryScaffold.Text.Basic

/-!
# The shortest decimal that reads back

* `Binary64.shortest`: the fewest digits whose decimal reads back as a positive double, and among
  those the nearest, a tie going to the even last digit;
* `Binary64.text`: a double in writing, positional from 0.0001 up to below 10 ^ 16.
-/

namespace QueryScaffold

/-- The digits and the power of ten of a decimal `digits · 10 ^ exponent`. -/
structure Decimal where
  digits : Nat
  exponent : Int
deriving DecidableEq, Repr

namespace Decimal

/-- The decimal without zeros at the end of its digits; `fuel` bounds their number. -/
def strip (fuel : Nat) (d : Decimal) : Decimal :=
  match fuel with
  | 0 => d
  | fuel + 1 =>
    if d.digits ≠ 0 ∧ d.digits % 10 = 0 then strip fuel ⟨d.digits / 10, d.exponent + 1⟩ else d

end Decimal

namespace Binary64

/-- The bounds of the numbers that round to a double, as multiples of a quarter of its last place:
the low one, the double itself, and the high one. The gap below a power of two is half as wide. -/
def quarters (mantissa : Nat) (exponent : Int) : Nat × Nat × Nat :=
  let value := 4 * mantissa
  let low := if mantissa = Nat.pow 2 52 ∧ minExponent < exponent then value - 1 else value - 2
  (low, value, value + 2)

/-- Compares the decimal `digits · 10 ^ k` with `q · 2 ^ e`. -/
def compareDecimal (digits : Nat) (k : Int) (q : Nat) (e : Int) : Ordering :=
  let (a, b) := decimalQuotient digits k
  let (c, d) := scaleDown q 1 (-e)
  compare (a * d) (c * b)

/-- The decimal reads back as the double `mantissa · 2 ^ exponent`: it lies between the bounds, and
the bounds themselves count when the mantissa is even. -/
def readsBack (mantissa : Nat) (exponent : Int) (digits : Nat) (k : Int) : Bool :=
  let (low, _, high) := quarters mantissa exponent
  let above := compareDecimal digits k low (exponent - 2)
  let below := compareDecimal digits k high (exponent - 2)
  if mantissa % 2 = 0 then above != .lt && below != .gt else above == .gt && below == .lt

/-- The greatest multiple of `10 ^ k` that is not above the double, counted in that unit. -/
def gridFloor (mantissa : Nat) (exponent k : Int) : Nat :=
  let (n, d) := scaleDown mantissa 1 (-exponent)
  let (a, b) := decimalQuotient 1 k
  n * b / (d * a)

/-- The multiple of `10 ^ k` nearest to the double among those that read back. -/
def onGrid? (mantissa : Nat) (exponent k : Int) : Option Nat :=
  let low := gridFloor mantissa exponent k
  let hitLow := low ≠ 0 && readsBack mantissa exponent low k
  let hitHigh := readsBack mantissa exponent (low + 1) k
  match hitLow, hitHigh with
  | true, true =>
    -- the double against the middle of the two neighbours
    match compareDecimal (10 * low + 5) (k - 1) mantissa exponent with
    | .gt => some low
    | .lt => some (low + 1)
    | .eq => some (low + low % 2)
  | true, false => some low
  | false, true => some (low + 1)
  | false, false => none

/-- Searches the grids `10 ^ k` from coarse to fine. -/
def searchGrids (mantissa : Nat) (exponent k : Int) : Nat → Decimal
  | 0 => ⟨gridFloor mantissa exponent k, k⟩
  | steps + 1 =>
    match onGrid? mantissa exponent k with
    | some digits => ⟨digits, k⟩
    | none => searchGrids mantissa exponent (k - 1) steps

/-- A power of ten above the double `mantissa · 2 ^ exponent`. -/
def magnitude (mantissa : Nat) (exponent : Int) : Int :=
  let bits : Int := mantissa.log2 + 1 + exponent
  if bits < 0 then -(bits.natAbs * 301 / 1000 : Nat) + 1 else (bits.natAbs * 302 / 1000 : Nat) + 1

/-- The shortest decimal that reads back as the positive double `mantissa · 2 ^ exponent`. -/
def shortest (mantissa : Nat) (exponent : Int) : Decimal :=
  (searchGrids mantissa exponent (magnitude mantissa exponent) 24).strip 24

/-- How a double is written. -/
structure Format where
  /-- The least decimal exponent that is written positionally. -/
  leastPositional : Int
  /-- The greatest decimal exponent that is written positionally. -/
  greatestPositional : Int
  /-- The least number of digits of a written exponent. -/
  exponentWidth : Nat

/-- Positional from 0.0001 up to below 10 ^ 16, and two digits for an exponent. -/
def format : Format := ⟨-4, 15, 2⟩

/-- Positional writing of digits whose point stands after the first `point` of them. -/
def positional (digits : Text) (point : Int) : Text :=
  let zero := CodePoint.ofChar '0'
  if point ≤ 0 then ("0." : Text) ++ List.replicate point.natAbs zero ++ digits
  else if point.toNat < digits.length then
    digits.take point.toNat ++ ("." : Text) ++ digits.drop point.toNat
  else digits ++ List.replicate (point.toNat - digits.length) zero ++ (".0" : Text)

/-- Writing with an exponent. -/
def scientific (digits : Text) (power : Int) : Text :=
  let size := Text.ofNat power.natAbs
  let fraction : Text := match digits.drop 1 with
    | [] => []
    | rest => ("." : Text) ++ rest
  digits.take 1 ++ fraction ++ (if power < 0 then ("e-" : Text) else ("e+" : Text)) ++
    List.replicate (format.exponentWidth - size.length) (CodePoint.ofChar '0') ++ size

/-- A positive double in writing. -/
def magnitudeText (mantissa : Nat) (exponent : Int) : Text :=
  let d := shortest mantissa exponent
  let digits := Text.ofNat d.digits
  let power := d.exponent + digits.length - 1
  if format.leastPositional ≤ power ∧ power ≤ format.greatestPositional then
    positional digits (power + 1)
  else scientific digits power

/-- A double in writing. -/
def text : Binary64 → Text
  | .nan => "nan"
  | .infinite negative => if negative then "-inf" else "inf"
  | .finite negative mantissa exponent =>
    let sign : Text := if negative then ("-" : Text) else []
    if mantissa = 0 then sign ++ ("0.0" : Text) else sign ++ magnitudeText mantissa exponent

end Binary64

end QueryScaffold
