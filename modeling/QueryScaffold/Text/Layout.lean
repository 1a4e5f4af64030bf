import QueryScaffold.Number.Decimal
import QueryScaffold.Text.Digit

/-!
# Layouts

A layout says how a text or a number is brought into a width: the mark that fills it up, the side on
which it stands, the sign, the groups of digits, the digits behind the point and the way of writing.

* `Layout`: a layout, and `Layout.read` for its written form;
* `Layout.text`: a text in a layout;
* `Layout.integer`, `Layout.real`: a number in a layout;
* `NumberParts`: the parts of a written number.

A layout is written as `[[fill]side][sign][z][#][0][width][group][.places][way]`.
-/

namespace QueryScaffold

/-- How a text or a number is brought into a width. -/
structure Layout where
  fill : CodePoint := CodePoint.ofChar ' '
  side : CodePoint := CodePoint.ofChar '<'
  sign : Option CodePoint := none
  /-- A number that is rounded to zero has no sign. -/
  unsignedZero : Bool := false
  /-- The mark of a base, or a point without digits behind it, is written. -/
  marked : Bool := false
  width : Nat := 0
  group : Option CodePoint := none
  places : Option Nat := none
  way : Option CodePoint := none

/-- The parts of a written number: the sign, the mark of a base, the whole digits and the rest. -/
structure NumberParts where
  sign : Text := []
  mark : Text := []
  digits : Text
  rest : Text := []

namespace Layout

/-! ## Reading -/

/-- The code point says on which side something stands. -/
def isSide (c : CodePoint) : Bool :=
  c = CodePoint.ofChar '<' || c = CodePoint.ofChar '>' || c = CodePoint.ofChar '=' ||
    c = CodePoint.ofChar '^'

/-- The text behind a code point that it starts with. -/
def afterMark? (mark : Char) : Text → Option Text
  | c :: rest => if c = CodePoint.ofChar mark then some rest else none
  | [] => none

/-- The number that a text starts with, if there is one, and the text behind it. -/
def numberOf (t : Text) : Option Nat × Text :=
  let digits := t.takeWhile fun c => c.decimalValue?.isSome
  let n := (digits.filterMap CodePoint.decimalValue?).foldl (fun n digit => n * 10 + digit) 0
  (if digits = [] then none else some n, t.drop digits.length)

/-- The mark that fills up and the side, as far as a text says so, and the text behind them. -/
def sideOf (t : Text) : Option CodePoint × Option CodePoint × Text :=
  match t with
  | fill :: side :: rest =>
    if isSide side then (some fill, some side, rest)
    else if isSide fill then (none, some fill, side :: rest)
    else (none, none, t)
  | [side] => if isSide side then (none, some side, []) else (none, none, t)
  | [] => (none, none, [])

/-- The sign that a text asks for, and the text behind it. -/
def signOf (t : Text) : Option CodePoint × Text :=
  match t with
  | c :: rest =>
    if c = CodePoint.ofChar '+' || c = CodePoint.ofChar '-' || c = CodePoint.ofChar ' ' then
      (some c, rest)
    else (none, t)
  | [] => (none, [])

/-- The greatest width and number of places. -/
def maxNumber : Nat := Nat.pow 2 63 - 1

/-- The mark between groups of digits that a text asks for, and the text behind it. -/
def groupOf (t : Text) : Except Text (Option CodePoint × Text) :=
  let clash : Except Text (Option CodePoint × Text) := .error "Cannot specify both ',' and '_'."
  match afterMark? ',' t, afterMark? '_' t with
  | some rest, _ =>
    if (afterMark? '_' rest).isSome then clash else .ok (some (CodePoint.ofChar ','), rest)
  | none, some rest =>
    if (afterMark? ',' rest).isSome then clash else .ok (some (CodePoint.ofChar '_'), rest)
  | none, none => .ok (none, t)

/-- The number of places that a text asks for, and the text behind it. -/
def placesOf (t : Text) : Except Text (Option Nat × Text) :=
  match afterMark? '.' t with
  | none => .ok (none, t)
  | some rest =>
    match numberOf rest with
    | (none, _) => .error "Format specifier missing precision"
    | (some n, rest) =>
      if maxNumber < n then .error "Too many decimal digits in format string"
      else .ok (some n, rest)

/-- The ways of writing whose digits can have commas between groups. -/
def groupedWays : Text := ("deEfFgG%" : Text)

/-- The ways of writing whose digits can have underscores between groups. -/
def underscoredWays : Text := ("boxX" : Text)

/-- The groups of digits do not fit the way of writing. -/
def groupFault? (group way : Option CodePoint) : Option Text :=
  match group, way with
  | some mark, some c =>
    if groupedWays.contains c || (mark = CodePoint.ofChar '_' && underscoredWays.contains c) then
      none
    else
      some (("Cannot specify '" : Text) ++ [mark] ++ ("' with '" : Text) ++ [c] ++ ("'." : Text))
  | _, _ => none

/-- The layout that a text writes for a value of a kind, whose usual side and way of writing are
given. -/
def read (kind : Text) (usual : CodePoint) (ordinary : Option CodePoint) (source : Text) :
    Except Text Layout := do
  let (fill, side, rest) := sideOf source
  let (sign, rest) := signOf rest
  let (unsignedZero, rest) := match afterMark? 'z' rest with
    | some rest => (true, rest)
    | none => (false, rest)
  let (marked, rest) := match afterMark? '#' rest with
    | some rest => (true, rest)
    | none => (false, rest)
  let (zeros, rest) := match fill, afterMark? '0' rest with
    | none, some rest => (true, rest)
    | _, _ => (false, rest)
  let (width, rest) := numberOf rest
  if maxNumber < width.getD 0 then
    throw ("Too many decimal digits in format string" : Text)
  let (group, rest) ← groupOf rest
  let (places, rest) ← placesOf rest
  let way ← match rest with
    | [] => pure ordinary
    | [c] => pure (some c)
    | _ => throw (("Invalid format specifier '" : Text) ++ source ++
        ("' for object of type '" : Text) ++ kind ++ ("'" : Text))
  if let some notice := groupFault? group way then throw notice
  let zero := CodePoint.ofChar '0'
  let unwritten := if zeros && usual = CodePoint.ofChar '>' then CodePoint.ofChar '=' else usual
  return {
    fill := fill.getD (if zeros then zero else CodePoint.ofChar ' ')
    side := side.getD unwritten
    sign, unsignedZero, marked, group, places, way, width := width.getD 0 }

/-! ## Filling -/

/-- So many marks that fill a text up. -/
def filling (layout : Layout) (count : Nat) : Text := List.replicate count layout.fill

/-- A text, and what belongs before it, brought into the width. -/
def fit (layout : Layout) (before t : Text) : Text :=
  let missing := layout.width - (before.length + t.length)
  if layout.side = CodePoint.ofChar '<' then before ++ t ++ layout.filling missing
  else if layout.side = CodePoint.ofChar '>' then layout.filling missing ++ before ++ t
  else if layout.side = CodePoint.ofChar '=' then before ++ layout.filling missing ++ t
  else
    layout.filling (missing / 2) ++ before ++ t ++ layout.filling (missing - missing / 2)

/-! ## Texts -/

/-- Why the layout is none for a text. -/
def textFault? (layout : Layout) : Option Text :=
  let wrong (notice : Text) : Option Text :=
    some (notice ++ (" not allowed in string format specifier" : Text))
  match layout.sign with
  | some c => wrong (if c = CodePoint.ofChar ' ' then "Space" else "Sign")
  | none =>
    if layout.unsignedZero then wrong "Negative zero coercion (z)"
    else if layout.marked then wrong "Alternate form (#)"
    else if layout.side = CodePoint.ofChar '=' then wrong "'=' alignment"
    else none

/-- What is said of a way of writing that values of a kind do not have. -/
def unknownWay (kind : Text) (c : CodePoint) : Text :=
  let shown : Text :=
    if 32 < c.value && c.value < 128 then [c]
    else ("\\x" : Text) ++ (Nat.toDigits 16 c.value).map CodePoint.ofChar
  ("Unknown format code '" : Text) ++ shown ++ ("' for object of type '" : Text) ++ kind ++
    ("'" : Text)

/-- A text in a layout that is written for texts. -/
def text (source t : Text) : Except Text Text := do
  let layout ← read "str" (CodePoint.ofChar '<') (some (CodePoint.ofChar 's')) source
  match layout.way with
  | some c => if c ≠ CodePoint.ofChar 's' then throw (unknownWay "str" c)
  | none => pure ()
  if let some notice := layout.textFault? then throw notice
  return layout.fit [] (t.take (layout.places.getD t.length))

/-! ## Numbers -/

/-- The least number of digits, and no fewer than there are, with which grouped digits are as wide as
needed; `fuel` bounds how many are added. -/
def digitsFor (size width : Nat) : Nat → Nat → Nat
  | 0, count => count
  | fuel + 1, count =>
    if width ≤ count + (count - 1) / size then count else digitsFor size width fuel (count + 1)

/-- A written number in the layout, where digits are in groups of a size. -/
def number (layout : Layout) (size : Nat) (parts : NumberParts) : Text :=
  let zero := CodePoint.ofChar '0'
  let before := parts.sign ++ parts.mark
  let needed :=
    if layout.fill = zero && layout.side = CodePoint.ofChar '=' then
      layout.width - (before.length + parts.rest.length)
    else 0
  let digits := match layout.group with
    | some mark =>
      let count := digitsFor size needed needed parts.digits.length
      Text.grouped mark size (Text.zeroFilled count parts.digits)
    | none => Text.zeroFilled needed parts.digits
  layout.fit before (digits ++ parts.rest)

/-- The sign that the layout gives to a number. -/
def signText (layout : Layout) (negative : Bool) : Text :=
  if negative then "-"
  else
    match layout.sign with
    | some c => if c = CodePoint.ofChar '-' then [] else [c]
    | none => []

/-- A real number without its sign, in the way of writing. -/
def realParts (layout : Layout) (x : Binary64) : NumberParts :=
  let ofPlaces (places : Binary64.Places) (pointed : Bool) (rest : Text) : NumberParts :=
    { digits := places.whole
      rest := (if places.fraction = [] && !pointed then []
        else ("." : Text) ++ places.fraction) ++ rest }
  let letter : Char :=
    ((layout.way.bind CodePoint.toChar?).map Char.toLower).getD ' '
  let isUpper := (layout.way.bind CodePoint.toChar?).any Char.isUpper
  let e : CodePoint := CodePoint.ofChar (if isUpper then 'E' else 'e')
  let count := layout.places.getD 6
  match x with
  | .nan => { digits := [], rest := if isUpper then "NAN" else "nan" }
  | .infinite _ => { digits := [], rest := if isUpper then "INF" else "inf" }
  | x =>
    if letter = 'f' then ofPlaces (x.fixed count) layout.marked []
    else if letter = '%' then
      ofPlaces ((x.product (.ofInteger 100)).fixed count) layout.marked "%"
    else if letter = 'e' then
      let (places, power) := x.scientificText count
      ofPlaces places layout.marked (Binary64.exponentText e power)
    else if letter = ' ' && layout.places.isNone then
      let shown := (if x.isNegative then x.negated else x).text
      { digits := shown.takeWhile fun c => c.decimalValue?.isSome
        rest := shown.dropWhile fun c => c.decimalValue?.isSome }
    else
      let (places, power) := x.general count layout.marked
      match power with
      | some power => ofPlaces places layout.marked (Binary64.exponentText e power)
      | none =>
        let places : Binary64.Places :=
          if letter = ' ' && places.fraction = [] then { places with fraction := "0" } else places
        ofPlaces places layout.marked []

/-- The way of writing is one of real numbers. -/
def isRealWay (layout : Layout) : Bool :=
  match layout.way with
  | none => true
  | some c => ("eEfFgGn%" : Text).contains c

/-- A real number in a layout. -/
def real (layout : Layout) (x : Binary64) : Text :=
  let parts := layout.realParts x
  let isZero := (parts.digits ++ parts.rest.takeWhile (· ≠ CodePoint.ofChar 'e')).all fun c =>
    c.decimalValue?.getD 0 = 0
  let negative := x.isNegative && !(layout.unsignedZero && isZero && x.isFinite)
  layout.number 3 { parts with sign := layout.signText negative }

/-- The base of a way of writing integers, and its mark. -/
def baseOf (layout : Layout) : Nat × Text :=
  match layout.way.bind CodePoint.toChar? with
  | some 'b' => (2, "0b")
  | some 'o' => (8, "0o")
  | some 'x' => (16, "0x")
  | some 'X' => (16, "0X")
  | _ => (10, [])

/-- The digits of a natural number in a base. -/
def digitsIn (base n : Nat) (isUpper : Bool) : Text :=
  (Nat.toDigits base n).map fun c => CodePoint.ofChar (if isUpper then c.toUpper else c)

/-- An integer in a layout. -/
def integer (layout : Layout) (n : Int) : Text :=
  let (base, mark) := layout.baseOf
  layout.number (if base = 10 then 3 else 4)
    { sign := layout.signText (n < 0)
      mark := if layout.marked then mark else []
      digits := digitsIn base n.natAbs (layout.way = some (CodePoint.ofChar 'X')) }

end Layout

end QueryScaffold
