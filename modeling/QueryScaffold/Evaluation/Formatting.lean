import QueryScaffold.Evaluation.Exception
import QueryScaffold.Number.Power
import QueryScaffold.Text.Layout

/-!
# Values in texts

* `Eval.plainText`, `Eval.display`, `Eval.ascii`: a value as a text;
* `Eval.format`: a value in a layout;
* `Eval.fill`: a text with values in the places that percent signs mark.

An integer with too many digits is not written at all.
-/

namespace QueryScaffold

namespace Value

/-- The least natural number that is too long to be written. -/
def tooLong : Nat := Nat.pow 10 Text.maxIntegerDigits

mutual

/-- An integer within the value is too long to be written. -/
def isTooLong : Value → Bool
  | .constant (.integer n) => tooLong ≤ n.natAbs
  | .tuple items | .list items | .set _ items | .view _ items => areTooLong items
  | .dictionary entries => entriesAreTooLong entries
  | .exception _ _ arguments _ => areTooLong arguments
  | _ => false

/-- An integer within one of the values is too long to be written. -/
def areTooLong : List Value → Bool
  | [] => false
  | value :: rest => isTooLong value || areTooLong rest

/-- An integer within one of the entries is too long to be written. -/
def entriesAreTooLong : List (Value × Value) → Bool
  | [] => false
  | (key, value) :: rest => isTooLong key || isTooLong value || entriesAreTooLong rest

end

end Value

namespace Eval

/-- Passes unless an integer within the value is too long to be written. -/
def checkLength (value : Value) : Eval Unit :=
  if value.isTooLong then
    refuseValue <|
      ("Exceeds the limit (4300 digits) for integer string conversion; " : Text) ++
        ("use sys.set_int_max_str_digits() to increase the limit" : Text)
  else pure ()

/-- The value as a text of its own. -/
def plainText (value : Value) : Eval Text := do
  checkLength value
  match value with
  | .exception _ ref arguments parts => return ((← get).raisedAs ref arguments parts).text
  | value => return value.plainText

/-- The value as messages show it. -/
def display (value : Value) : Eval Text := do
  checkLength value
  return value.display

/-- The value as messages show it, with escapes in place of all that is not ASCII. -/
def ascii (value : Value) : Eval Text := do
  return (← display value).flatMap fun c => if c.value < 128 then [c] else c.numericEscape

/-- The value as a conversion shows it. -/
def converted (conversion : Conversion) (value : Value) : Eval Text :=
  match conversion with
  | .plain => plainText value
  | .quoted => display value
  | .ascii => ascii value

/-! ## Layouts -/

/-- A layout, or a fault with its notice. -/
def ofNotice {α : Type} : Except Text α → Eval α
  | .ok found => pure found
  | .error notice => refuseValue notice

/-- The code point of a number. -/
def codePoint (n : Int) : Eval CodePoint :=
  if h : n.toNat < 0x110000 then
    if n < 0 then refuse "OverflowError" "%c arg not in range(0x110000)" else pure ⟨n.toNat, h⟩
  else refuse "OverflowError" "%c arg not in range(0x110000)"

/-- The way of writing a layout asks for. -/
def wayOf (layout : Layout) : Char :=
  ((layout.way.bind CodePoint.toChar?)).getD ' '

/-- An integer in a layout that is written for values of a kind. -/
def formatInteger (kind : Text) (n : Int) (source : Text) : Eval Text := do
  let layout ← ofNotice
    (Layout.read kind (CodePoint.ofChar '>') (some (CodePoint.ofChar 'd')) source)
  let way := wayOf layout
  if "bcdnoxX".toList.contains way then
    if layout.places.isSome then refuseValue "Precision not allowed in integer format specifier"
    else if layout.unsignedZero then
      refuseValue "Negative zero coercion (z) not allowed in integer format specifier"
    else if way = 'c' then
      if layout.sign.isSome then
        refuseValue "Sign not allowed with integer format specifier 'c'"
      else if layout.marked then
        refuseValue "Alternate form (#) not allowed with integer format specifier 'c'"
      else return layout.fit [] [← codePoint n]
    else
      checkLength (if way = 'd' || way = 'n' then .integer n else .null)
      return layout.integer n
  else if layout.isRealWay then
    match realOf? n with
    | some x => return layout.real x
    | none => throw (.noDouble false)
  else refuseValue (Layout.unknownWay kind ((layout.way).getD (CodePoint.ofChar ' ')))
where
  /-- The double nearest to an integer that is not too large. -/
  realOf? (n : Int) : Option Binary64 :=
    match Binary64.ofInteger n with
    | .infinite _ => none
    | x => some x

/-- A double in a layout. -/
def formatReal (x : Binary64) (source : Text) : Eval Text := do
  let layout ← ofNotice (Layout.read "float" (CodePoint.ofChar '>') none source)
  match layout.way with
  | some c =>
    if layout.isRealWay then return layout.real x else refuseValue (Layout.unknownWay "float" c)
  | none => return layout.real x

/-- A complex number in a layout. -/
def formatComplex (z : Complex64) (source : Text) : Eval Text := do
  let layout ← ofNotice (Layout.read "complex" (CodePoint.ofChar '>') none source)
  if layout.fill = CodePoint.ofChar '0' then
    refuseValue "Zero padding is not allowed in complex format specifier"
  else if layout.side = CodePoint.ofChar '=' then
    refuseValue "'=' alignment flag is not allowed in complex format specifier"
  else if layout.isRealWay then
    let way := layout.way.getD (CodePoint.ofChar (if layout.places.isSome then 'g' else 'r'))
    let part (signed : Bool) (x : Binary64) : Text :=
      let sign := if signed then some (CodePoint.ofChar '+') else layout.sign
      if way = CodePoint.ofChar 'r' then
        (if x.hasSign || sign ≠ some (CodePoint.ofChar '+') then x.shortText else x.signedText)
      else { layout with width := 0, sign, way := some way }.real x
    let imaginary := part true z.im ++ ("j" : Text)
    let whole :=
      if layout.way.isSome then part false z.re ++ imaginary
      else if z.re = Binary64.zero false then part false z.im ++ ("j" : Text)
      else ("(" : Text) ++ part false z.re ++ imaginary ++ (")" : Text)
    return layout.fit [] whole
  else refuseValue (Layout.unknownWay "complex" ((layout.way).getD (CodePoint.ofChar ' ')))

/-- A value in a layout that is written for values of its kind. -/
def format (value : Value) (source : Text) : Eval Text := do
  if source = [] then plainText value
  else
    match value with
    | .constant (.text t) => ofNotice (Layout.text source t)
    | .constant (.truth holds) => formatInteger "bool" (if holds then 1 else 0) source
    | .constant (.integer n) => formatInteger "int" n source
    | .constant (.real x) => formatReal x source
    | .constant (.complex re im) => formatComplex ⟨re, im⟩ source
    | value =>
      refuseType (("unsupported format string passed to " : Text) ++ (← get).kindName value ++
        (".__format__" : Text))

/-! ## Percent signs -/

/-- Bytes as a text of code points up to 255. -/
def levelText (bytes : List UInt8) : Text :=
  bytes.map fun byte => CodePoint.ofChar (Char.ofNat byte.toNat)

/-- The bytes of such a text. -/
def levelBytes (t : Text) : Value :=
  .constant (.bytes (t.map fun c => UInt8.ofNat c.value))

/-- What a percent sign in a text asks for. -/
structure Mark where
  key : Option Text := none
  flags : Text := []
  /-- The width, or that it is a value of its own. -/
  width : Option (Option Nat) := none
  /-- The number of places, or that it is a value of its own. -/
  places : Option (Option Nat) := none
  way : CodePoint

/-- The values that percent signs ask for: those still to come, and those with keys. -/
structure Supply where
  items : List Value
  entries : Option (List (Value × Value))
  /-- The text with the percent signs stands for bytes. -/
  isLevel : Bool

/-- The next value of a supply. -/
def Supply.take (supply : Supply) : Eval (Value × Supply) :=
  match supply.items with
  | value :: rest => pure (value, { supply with items := rest })
  | [] => refuseType "not enough arguments for format string"

/-- The key behind a parenthesis, in which parentheses are in pairs, and the text behind it. -/
def keyOf (depth : Nat) : Text → Option (Text × Text)
  | [] => none
  | c :: rest =>
    if c = CodePoint.ofChar ')' then
      match depth with
      | 0 => some ([], rest)
      | depth + 1 => (keyOf depth rest).map fun (key, after) => (c :: key, after)
    else
      (keyOf (if c = CodePoint.ofChar '(' then depth + 1 else depth) rest).map fun (key, after) =>
        (c :: key, after)

/-- A number of a mark: digits, or a star for a value of its own. -/
def markNumber (t : Text) : Option (Option Nat) × Text :=
  match Layout.afterMark? '*' t with
  | some rest => (some none, rest)
  | none =>
    match Layout.numberOf t with
    | (some n, rest) => (some (some n), rest)
    | (none, rest) => (none, rest)

/-- The flags of a mark. -/
def markFlags : Text := "-+ #0"

/-- The mark that a text starts with behind a percent sign, and the text behind it; without an end
there is none. -/
def markOf? (t : Text) : Option (Mark × Text) := do
  let (key, rest) ← match Layout.afterMark? '(' t with
    | some rest => (keyOf 0 rest).map fun (key, after) => (some key, after)
    | none => some (none, t)
  let flags := rest.takeWhile markFlags.contains
  let (width, rest) := markNumber (rest.drop flags.length)
  let (places, rest) := match Layout.afterMark? '.' rest with
    | some rest =>
      let (places, rest) := markNumber rest
      (some (places.getD (some 0)), rest)
    | none => (none, rest)
  let rest := match rest with
    | c :: after => if ("hlL" : Text).contains c then after else c :: after
    | [] => []
  match rest with
  | [] => none
  | way :: after => some ({ key, flags, width, places, way }, after)

/-- The number that a mark asks for, which may be a value of its own. -/
def numberFor (number : Option (Option Nat)) (supply : Supply) : Eval (Option Int × Supply) :=
  match number with
  | none => pure (none, supply)
  | some (some n) => pure (some n, supply)
  | some none => do
    let (value, supply) ← supply.take
    match value with
    | .constant (.integer n) => return (some n, supply)
    | .constant (.truth holds) => return (some (if holds then 1 else 0), supply)
    | _ => refuseType "* wants int"

/-- The layout that the flags of a mark, a width and a number of places ask for. -/
def markLayout (mark : Mark) (width places : Option Int) : Layout :=
  let has (c : Char) : Bool := mark.flags.contains (CodePoint.ofChar c)
  let isLeft := has '-' || (width.getD 0) < 0
  let isZero := has '0' && !isLeft
  { fill := CodePoint.ofChar (if isZero then '0' else ' ')
    side := CodePoint.ofChar (if isLeft then '<' else if isZero then '=' else '>')
    sign := if has '+' then some (CodePoint.ofChar '+')
      else if has ' ' then some (CodePoint.ofChar ' ') else none
    marked := has '#'
    width := (width.getD 0).natAbs
    places := places.map Int.toNat }

/-- What is said of a value of a kind that is no number in the place of a mark. -/
def noNumber (way : Char) (wanted kind : Text) : Text :=
  ("%" : Text) ++ [CodePoint.ofChar way] ++ (" format: " : Text) ++ wanted ++
    (" is required, not " : Text) ++ kind

/-- The integer that a value gives in the place of a mark. -/
def markInteger (way : Char) (value : Value) : Eval Int := do
  let kind ← kindName value
  match value, value.integer? with
  | _, some n => return n
  | .constant (.real x), none =>
    if "xXo".toList.contains way then refuseType (noNumber way "an integer" kind)
    else if x.isFinite then
      return (if x.hasSign then -(x.negated.floor) else x.floor)
    else if x.isNaN then refuseValue "cannot convert float NaN to integer"
    else refuse "OverflowError" "cannot convert float infinity to integer"
  | _, none =>
    refuseType (noNumber way (if "xXo".toList.contains way then "an integer" else "a real number")
      kind)

/-- The double that a value gives in the place of a mark. -/
def markReal (isLevel : Bool) (value : Value) : Eval Binary64 := do
  match value, value.integer? with
  | .constant (.real x), _ => return x
  | _, some n =>
    match Binary64.ofInteger n with
    | .infinite _ => throw (.noDouble false)
    | x => return x
  | value, none =>
    let notice : Text :=
      if isLevel then "float argument required, not " else "must be real number, not "
    refuseType (notice ++ (← kindName value))

/-- The text that a value gives in the place of a mark for texts. -/
def markText (isLevel : Bool) (way : Char) (value : Value) : Eval Text := do
  match isLevel, value with
  | true, value =>
    match way, value.bytes? with
    | 'r', _ => ascii value
    | _, some content => return levelText content
    | _, none =>
      refuseType (("%b requires a bytes-like object, or an object that implements __bytes__, not '" :
        Text) ++ (← kindName value) ++ ("'" : Text))
  | false, value => if way = 'r' then display value else plainText value

/-- The character that a value gives in the place of a mark. -/
def markCharacter (isLevel : Bool) (value : Value) : Eval Text := do
  match isLevel, value, value.integer? with
  | true, .constant (.bytes [byte]), _ => return levelText [byte]
  | true, _, some n =>
    if 0 ≤ n && n < 256 then return [← codePoint n]
    else refuse "OverflowError" "%c arg not in range(256)"
  | true, _, none => refuseType "%c requires an integer in range(256) or a single byte"
  | false, .constant (.text [c]), _ => return [c]
  | false, _, some n => return [← codePoint n]
  | false, _, none => refuseType "%c requires int or char"

/-- A value in the place of a mark. -/
def fillMark (isLevel : Bool) (mark : Mark) (layout : Layout) (place : Nat) (value : Value) :
    Eval Text := do
  let way := (mark.way.toChar?).getD ' '
  let short (t : Text) : Text :=
    { layout with
      fill := CodePoint.ofChar ' '
      side := if layout.side = CodePoint.ofChar '=' then CodePoint.ofChar '>' else layout.side }.fit
      [] (t.take (layout.places.getD t.length))
  if way = 's' || way = 'r' || (isLevel && way = 'b') then
    return short (← markText isLevel way value)
  else if way = 'a' then return short (← ascii value)
  else if way = 'c' then return short (← markCharacter isLevel value)
  else if "diuoxX".toList.contains way then
    let n ← markInteger way value
    checkLength (if "diu".toList.contains way then .integer n else .null)
    let parts : NumberParts :=
      let base := { layout with way := some mark.way }.baseOf
      { sign := layout.signText (n < 0)
        mark := if layout.marked then base.2 else []
        digits := Text.zeroFilled (layout.places.getD 0)
          (Layout.digitsIn base.1 n.natAbs (way = 'X')) }
    return layout.number 3 parts
  else if "eEfFgG".toList.contains way then
    return { layout with way := some mark.way }.real (← markReal isLevel value)
  else
    refuseValue (("unsupported format character '" : Text) ++ [mark.way] ++ ("' (0x" : Text) ++
      Layout.digitsIn 16 mark.way.value false ++ (") at index " : Text) ++ Text.ofNat place)

/-- The number of code points between two ends of a text. -/
def distance (whole rest : Text) : Nat := whole.length - rest.length

/-- A text with values in place of its marks, of which there are at most so many; `whole` is the text
from its start. -/
def fillFrom (whole : Text) : Nat → Text → Supply → Eval (Text × Supply)
  | 0, t, supply => pure (t, supply)
  | limit + 1, t, supply => do
    let percent := CodePoint.ofChar '%'
    let plain := t.takeWhile (· ≠ percent)
    match t.drop plain.length with
    | [] => return (plain, supply)
    | _ :: behind =>
      if (behind.head? = some (CodePoint.ofChar '(')) && supply.entries.isNone then
        refuseType "format requires a mapping"
      else
        match markOf? behind with
        | none =>
          refuseValue (if behind.head? = some (CodePoint.ofChar '(') && (keyOf 0 (behind.drop 1)).isNone
            then "incomplete format key" else "incomplete format")
        | some (mark, rest) =>
          let supply ← match mark.key with
            | none => pure supply
            | some key =>
              let key := if supply.isLevel then levelBytes key else .text key
              match ← entry? (supply.entries.getD []) key with
              | some value => pure { supply with items := [value] }
              | none => throw (.noKey key.display)
          let (width, supply) ← numberFor mark.width supply
          let (places, supply) ← numberFor mark.places supply
          let layout := markLayout mark width places
          let (here, supply) ←
            if mark.way = percent && behind.head? = some percent then
              pure ((([percent] : Text), supply))
            else do
              let (value, supply) ← supply.take
              pure (← fillMark supply.isLevel mark layout (distance whole rest - 1) value, supply)
          let (later, supply) ← fillFrom whole limit rest supply
          return (plain ++ here ++ later, supply)

/-- A text with values in the places that percent signs mark; `isLevel` tells whether it stands for
bytes. -/
def fill (isLevel : Bool) (t : Text) (value : Value) : Eval Text := do
  let supply : Supply := match value with
    | .tuple items => { items, entries := none, isLevel }
    | .dictionary entries => { items := [value], entries := some entries, isLevel }
    | value => { items := [value], entries := none, isLevel }
  let (filled, left) ← fillFrom t (t.length + 1) t supply
  let needsNone := match value with
    | .dictionary _ | .list _ => true
    | _ => false
  if left.items.isEmpty || needsNone then return filled
  else
    let kind : Text := if isLevel then "bytes" else "string"
    refuseType (("not all arguments converted during " : Text) ++ kind ++ (" formatting" : Text))

end Eval

end QueryScaffold
