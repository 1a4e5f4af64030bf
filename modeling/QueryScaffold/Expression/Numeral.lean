import QueryScaffold.Expression.Constant
import QueryScaffold.Json.Reader
import QueryScaffold.Number.Literal

/-!
# Numbers in expressions

An expression writes a number with ASCII digits: an integer in one of four bases, or a decimal
number with a point, with an exponent, or with a `j` behind it. Single underscores may stand between
digits. A word that can follow an operand may stand right behind a number.

* `Numeral.read?`: the number that a text starts with, and the text after it.
-/

namespace QueryScaffold

namespace Numeral

/-- The digit in a base that a code point is. -/
def digit? (base : Nat) (c : CodePoint) : Option Nat :=
  (Json.hexDigit? c.toCharLossy).filter (· < base)

/-- The digits in a base that a text starts with, and the text after them. An underscore stands
before a digit. -/
def digits (base : Nat) : Text → List Nat × Text
  | [] => ([], [])
  | [c] =>
    match digit? base c with
    | some digit => ([digit], [])
    | none => ([], [c])
  | c :: next :: rest =>
    match digit? base c with
    | some digit =>
      let (more, after) := digits base (next :: rest)
      (digit :: more, after)
    | none =>
      if c = CodePoint.ofChar '_' && (digit? base next).isSome then digits base (next :: rest)
      else ([], c :: next :: rest)

/-- The decimal digits that a text starts with, without an underscore before them. -/
def decimalDigits (t : Text) : List Nat × Text :=
  if (t.head?.bind (digit? 10)).isSome then digits 10 t else ([], t)

/-- The number that digits in a base write. -/
def valueOf (base : Nat) (digits : List Nat) : Nat :=
  digits.foldl (fun n digit => n * base + digit) 0

/-- The marks of the bases other than ten. -/
def bases : List (Text × Nat) :=
  [("0x", 16), ("0o", 8), ("0b", 2)]

/-- The integer in another base than ten that a text starts with. -/
def readInBase? (t : Text) : Option (Constant × Text) :=
  bases.findSome? fun (mark, base) =>
    match (t.afterWord? mark).map (digits base) with
    | some (first :: rest, after) => some (.integer (valueOf base (first :: rest)), after)
    | _ => none

/-- The digits after the point that a text starts with. -/
def fraction? : Text → Option (List Nat) × Text
  | [] => (none, [])
  | c :: rest =>
    if c = CodePoint.ofChar '.' then
      let (digits, after) := decimalDigits rest
      (some digits, after)
    else (none, c :: rest)

/-- The exponent that a text starts with. -/
def exponent? (t : Text) : Option Int × Text :=
  match t.afterWord? "e" with
  | none => (none, t)
  | some rest =>
    match decimalDigits rest.withoutSign with
    | ([], _) => (none, t)
    | (digits, after) =>
      let size : Int := valueOf 10 digits
      (some (if rest.head? = some (CodePoint.ofChar '-') then -size else size), after)

/-- The integer of decimal digits. Only zero starts with a zero. -/
def ofWhole? (digits : List Nat) : Option Constant :=
  let n := valueOf 10 digits
  if digits.length > Json.maxDigits || (digits.head? = some 0 && n ≠ 0) then none
  else some (.integer n)

/-- The decimal number that a text starts with. -/
def readDecimal? (t : Text) : Option (Constant × Text) :=
  let (whole, rest) := decimalDigits t
  let (fraction, rest) := fraction? rest
  let (exponent, rest) := exponent? rest
  let places := fraction.getD []
  let significant := (whole ++ places).dropWhile (· = 0)
  let x := Binary64.nearest false (valueOf 10 significant) significant.length
    (exponent.getD 0 - places.length)
  if whole.isEmpty && places.isEmpty then none
  else
    match rest.afterWord? "j", fraction, exponent with
    | some after, _, _ => some (.complex (Binary64.zero false) x, after)
    | none, none, none => (ofWhole? whole).map fun numeral => (numeral, rest)
    | none, _, _ => some (.real x, rest)

/-- The starts of words that can stand right behind a number. -/
def followers : List Text :=
  List.map Text.ofString ["and", "else", "for", "if", "in", "is", "or", "not"]

/-- The text can stand right behind a number: no part of a name comes first, or a word that can
follow an operand. -/
def canFollow (after : Text) : Bool :=
  !(after.head?.any fun c => c.isWord || 128 ≤ c.value) ||
    followers.any fun word => word.isPrefixOf after

/-- The number that a text starts with, and the text after it. -/
def read? (t : Text) : Option (Constant × Text) :=
  ((readInBase? t).or (readDecimal? t)).filter fun found => canFollow found.2

end Numeral

end QueryScaffold
