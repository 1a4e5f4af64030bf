import QueryScaffold.Number.Binary64
import QueryScaffold.Text.Blank
import QueryScaffold.Text.Digit

/-!
# Numbers in text

A text writes a number with digits of any script, with space around it, and perhaps with single
underscores between digits.

* `Text.readInteger`: the integer that a text writes in a base, or why it writes none;
* `Text.real?`: the real number that a text writes, which may be infinite or no number at all;
* `Text.complex?`: the complex number that a text writes, with `j` after its imaginary part;
* `Text.isStrayUnderscored`: a text writes no number because of an underscore.

The number of digits of an integer is limited, unless the base is a power of two, and the limit
counts before what stands behind the digits is looked at.
-/

namespace QueryScaffold

/-- Why a text writes no integer. -/
inductive IntegerFault
  | malformed
  | tooManyDigits (digits : Nat)
deriving DecidableEq, Repr

namespace Text

/-- The code point is the underscore. -/
def isUnderscore (c : CodePoint) : Bool := c = CodePoint.ofChar '_'

/-- The code point with an ASCII digit in place of a digit of another script. -/
def levelDigit (c : CodePoint) : CodePoint :=
  match c.decimalValue? with
  | some n => ((ofNat n).head?).getD c
  | none => c

/-- The text without a sign at its start. -/
def withoutSign : Text → Text
  | [] => []
  | c :: rest =>
    if c = CodePoint.ofChar '+' || c = CodePoint.ofChar '-' then rest else c :: rest

/-- The text starts with a minus sign. -/
def startsNegative (t : Text) : Bool :=
  t.head? = some (CodePoint.ofChar '-')

/-! ## Integers -/

/-- The most digits of an integer. -/
def maxIntegerDigits : Nat := 4300

/-- The digit of a base that a code point is. -/
def digitIn? (base : Nat) (c : CodePoint) : Option Nat :=
  c.alphanumericValue?.filter (· < base)

/-- The code point is a digit of a base, or an underscore. -/
def isDigitMark (base : Nat) (c : CodePoint) : Bool :=
  (digitIn? base c).isSome || isUnderscore c

/-- No underscore of the digits stands first or last, or behind another one; `free` tells whether an
underscore may come next. -/
def underscoresFit (free : Bool) : Text → Bool
  | [] => free
  | c :: rest => if isUnderscore c then free && underscoresFit false rest else underscoresFit true rest

/-- The marks that may stand before the digits of a base. -/
def basePrefixes : Nat → List Text
  | 2 => ["0b", "0B"]
  | 8 => ["0o", "0O"]
  | 16 => ["0x", "0X"]
  | _ => []

/-- The base that a text without a sign asks for itself. -/
def ownBase (t : Text) : Nat :=
  (([2, 8, 16] : List Nat).find? fun base => (basePrefixes base).any (·.isPrefixOf t)).getD 10

/-- The text behind the mark of a base, with one underscore after it left out as well. -/
def afterBase (base : Nat) (t : Text) : Text :=
  if (basePrefixes base).any (·.isPrefixOf t) then
    match t.drop 2 with
    | c :: rest => if isUnderscore c then rest else c :: rest
    | [] => []
  else t

/-- The integer of digits in a base. -/
def valueOfDigits (base : Nat) (digits : Text) : Nat :=
  (digits.filterMap (digitIn? base)).foldl (fun n digit => n * base + digit) 0

/-- The integer that a text writes in a base; zero stands for the base that the text asks for. -/
def readInteger (base : Nat) (t : Text) : Except IntegerFault Int :=
  let signed : Text := (t.map levelDigit).dropWhile CodePoint.isWhiteSpace
  let unsigned := withoutSign signed
  let actual := if base = 0 then ownBase unsigned else base
  let marked := afterBase actual unsigned
  let digits := marked.takeWhile (isDigitMark actual)
  let after := (marked.drop digits.length).dropWhile CodePoint.isWhiteSpace
  let count := digits.countP fun c => !isUnderscore c
  let value := valueOfDigits actual digits
  let startsWithZero := base = 0 && actual = 10 && digits.head? = some (CodePoint.ofChar '0')
  if !underscoresFit false digits then .error .malformed
  else if maxIntegerDigits < count && !([2, 4, 8, 16, 32] : List Nat).contains actual then
    .error (.tooManyDigits count)
  else if after ≠ [] || (startsWithZero && value ≠ 0) then .error .malformed
  else .ok (if startsNegative signed then -value else value)

/-! ## Real numbers -/

/-- The text with the same digit in place of each decimal digit. -/
def levelDigits (t : Text) : Text := t.map levelDigit

/-- The code point is an ASCII digit. -/
def isLevelDigit (c : CodePoint) : Bool :=
  48 ≤ c.value && c.value ≤ 57

/-- The text without its underscores, each of which has to stand between two digits; `afterDigit`
tells whether a digit stands before the text. -/
def withoutUnderscores? (afterDigit : Bool) : Text → Option Text
  | [] => some []
  | c :: rest =>
    if isUnderscore c then
      if afterDigit && (rest.head?.map isLevelDigit).getD false then withoutUnderscores? false rest
      else none
    else (withoutUnderscores? (isLevelDigit c) rest).map (c :: ·)

/-- The text as it is read: without space around it, with level digits, without underscores. -/
def numberText? (t : Text) : Option Text :=
  withoutUnderscores? false (levelDigits (t.trim CodePoint.isWhiteSpace))

/-- An underscore of the text is at fault for its not being a number: it stands in the part of the
text that is read, which ends before a character that no number can have. -/
def isStrayUnderscored (t : Text) : Bool :=
  let start := (levelDigits t).takeWhile fun c => c.value < 128 || c.isWhiteSpace
  let read := start.takeWhile fun c => c.value ≠ 0
  read.any isUnderscore && (read ≠ start || (withoutUnderscores? false read).isNone)

/-- The text in lower case, as far as ASCII goes. -/
def asciiLowercase (t : Text) : Text :=
  t.map fun c =>
    if 65 ≤ c.value && c.value ≤ 90 then .ofChar (Char.ofNat (c.value + 32)) else c

/-- The text after a word in any case that it starts with. -/
def afterWord? (t word : Text) : Option Text :=
  if word.isPrefixOf t.asciiLowercase then some (t.drop word.length) else none

/-- The exponent that a text starts with, and the text after it; without a digit there is none. -/
def exponentOf (t : Text) : Int × Text :=
  match t.afterWord? "e" with
  | none => (0, t)
  | some rest =>
    let digits := rest.withoutSign.takeWhile isLevelDigit
    let size := valueOfDigits 10 digits
    if digits = [] then (0, t)
    else (if rest.startsNegative then -size else size, rest.withoutSign.drop digits.length)

/-- The decimal number without a sign that a text starts with, and the text after it. -/
def decimalOf? (t : Text) : Option (Binary64 × Text) :=
  let whole := t.takeWhile isLevelDigit
  let behind := t.drop whole.length
  let (fraction, after) :=
    match behind with
    | c :: rest =>
      if c = CodePoint.ofChar '.' then
        (rest.takeWhile isLevelDigit, rest.dropWhile isLevelDigit)
      else ([], behind)
    | [] => ([], [])
  let digits := whole ++ fraction
  if digits = [] then none
  else
    let (exponent, rest) := exponentOf after
    some (.nearest false (valueOfDigits 10 digits) digits.length (exponent - fraction.length), rest)

/-- The double that a text starts with as a word, and the text after it. -/
def wordOf? (t : Text) : Option (Binary64 × Text) :=
  match t.afterWord? "infinity", t.afterWord? "inf", t.afterWord? "nan" with
  | some rest, _, _ | none, some rest, _ => some (.infinite false, rest)
  | none, none, some rest => some (.nan, rest)
  | none, none, none => none

/-- The real number, with a sign or without, that a text starts with, and the text after it. -/
def realOf? (t : Text) : Option (Binary64 × Text) :=
  let unsigned := t.withoutSign
  (unsigned.wordOf?.or unsigned.decimalOf?).map fun (x, rest) => (if t.startsNegative then x.negated else x, rest)

/-- The real number that a text writes. -/
def real? (t : Text) : Option Binary64 :=
  match t.numberText?.bind realOf? with
  | some (x, []) => some x
  | _ => none

/-- The exponent of two that a text starts with, and the text after it; without a digit there is
none. -/
def binaryExponentOf (t : Text) : Int × Text :=
  match t.afterWord? "p" with
  | none => (0, t)
  | some rest => exponentOf (CodePoint.ofChar 'e' :: rest)

/-- The number without a sign that a text starts with in base sixteen, and the text after it. -/
def hexadecimalOf? (t : Text) : Option (Binary64 × Text) :=
  let isDigit (c : CodePoint) : Bool := (digitIn? 16 c).isSome
  let plain := (t.afterWord? "0x").getD t
  let whole := plain.takeWhile isDigit
  let behind := plain.drop whole.length
  let (fraction, after) :=
    match behind with
    | c :: rest =>
      if c = CodePoint.ofChar '.' then (rest.takeWhile isDigit, rest.dropWhile isDigit)
      else ([], behind)
    | [] => ([], [])
  let digits := whole ++ fraction
  if digits = [] then none
  else
    let (exponent, rest) := binaryExponentOf after
    let farthest : Int := 4 * digits.length + 2000
    let exponent := max (-farthest) (min farthest (exponent - 4 * fraction.length))
    let size := valueOfDigits 16 digits
    some (.ofQuotient false (size * Nat.pow 2 exponent.toNat) (Nat.pow 2 (-exponent).toNat), rest)

/-- The real number that a text writes in base sixteen; one too large is infinite. -/
def hexadecimalReal? (t : Text) : Option Binary64 :=
  let read := trim CodePoint.isWhiteSpace t
  let unsigned := read.withoutSign
  match unsigned.wordOf?.or unsigned.hexadecimalOf? with
  | some (x, []) => some (if read.startsNegative then x.negated else x)
  | _ => none

/-! ## Complex numbers -/

/-- The text starts with a sign. -/
def startsWithSign (t : Text) : Bool :=
  t.startsNegative || t.head? = some (CodePoint.ofChar '+')

/-- One, with the sign that a text starts with. -/
def signedOne (t : Text) : Binary64 :=
  .nearest t.startsNegative 1 1 0

/-- The complex number that a text starts with, where a sign alone stands for one, and the text
after it. -/
def complexOf? (t : Text) : Option ((Binary64 × Binary64) × Text) :=
  let zero := Binary64.zero false
  match t.realOf? with
  | none => (t.withoutSign.afterWord? "j").map fun rest => ((zero, t.signedOne), rest)
  | some (x, rest) =>
    match rest.afterWord? "j" with
    | some after => some ((zero, x), after)
    | none =>
      if rest.startsWithSign then
        let (y, behind) := (rest.realOf?).getD (rest.signedOne, rest.withoutSign)
        (behind.afterWord? "j").map fun after => ((x, y), after)
      else some ((x, zero), rest)

/-- The complex number that a text writes, in parentheses or without. -/
def complex? (t : Text) : Option (Binary64 × Binary64) :=
  let inner (read : Text) : Text :=
    if read.head? = some (CodePoint.ofChar '(') && read.getLast? = some (CodePoint.ofChar ')') then
      trim CodePoint.isWhiteSpace (read.drop 1).dropLast
    else read
  match t.numberText?.bind fun read => complexOf? (inner read) with
  | some (z, []) => some z
  | _ => none

/-- Digits of any script count. -/
example : (readInteger 10 [CodePoint.ofChar '-', CodePoint.ofChar '1', ⟨0x662, by decide⟩]).toOption =
      some (-12) ∧
    (readInteger 16 (ofString " 0x_ff ")).toOption = some 255 ∧
    (readInteger 10 (ofString "1__2")).toOption = none := by
  decide +kernel

end Text

end QueryScaffold
