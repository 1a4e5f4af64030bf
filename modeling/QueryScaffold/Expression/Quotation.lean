import QueryScaffold.Json.Reader
import QueryScaffold.Text.CharacterName

/-!
# Strings in expressions

A string stands between quotes, one or three on either side, with letters before it that tell how to
read it.

* `Quotation`: how a string is read;
* `Quotation.opening?`: the quotation that a text opens;
* `Quotation.body?`: what stands in it as it is written, and the text behind it;
* `Quotation.meaning?`: what a string stands for that is written so.

A backslash starts an escape; where no escape is known, the backslash stands for itself.
-/

namespace QueryScaffold

/-- How a string is read. -/
structure Quotation where
  /-- The quote. -/
  mark : CodePoint
  /-- The string stands between three quotes, and may hold line breaks. -/
  isLong : Bool
  /-- A backslash stands for itself. -/
  isPlain : Bool
  /-- The string is one of bytes. -/
  isBytes : Bool
  /-- Braces have a meaning. -/
  isTemplate : Bool
deriving DecidableEq

namespace Quotation

/-- The letters that can stand before the opening quote. -/
def letters : List Text :=
  List.map Text.ofString ["", "u", "r", "b", "f", "br", "rb", "fr", "rf"]

/-- The quotation that a text opens, and the text behind the opening quotes. -/
def opening? (t : Text) : Option (Quotation × Text) :=
  let word := Text.asciiLowercase (t.takeWhile CodePoint.isWordStart)
  let has (letter : Char) : Bool := word.contains (CodePoint.ofChar letter)
  match t.drop word.length with
  | [] => none
  | mark :: rest =>
    if letters.contains word && (mark = CodePoint.ofChar '\'' || mark = CodePoint.ofChar '"') then
      let isLong := [mark, mark].isPrefixOf rest
      some (⟨mark, isLong, has 'r', has 'b', has 'f'⟩, if isLong then rest.drop 2 else rest)
    else none

/-- What stands in a string, from behind its opening quotes on, and the text behind its closing
ones. The code point after a backslash closes nothing; `escaped` tells whether a backslash stands
before the text. -/
def body? (q : Quotation) (escaped : Bool) : Text → Option (Text × Text)
  | [] => none
  | c :: rest =>
    if escaped then (body? q false rest).map fun (s, after) => (c :: s, after)
    else if c = q.mark && (!q.isLong || [c, c].isPrefixOf rest) then
      some ([], if q.isLong then rest.drop 2 else rest)
    else if (c = CodePoint.ofChar '\n' && !q.isLong) || (q.isBytes && 128 ≤ c.value) then none
    else
      (body? q (c = CodePoint.ofChar '\\') rest).map fun (s, after) => (c :: s, after)

/-- The value of a number of hexadecimal digits at the start of a text. -/
def hexadecimal? (width : Nat) (t : Text) : Option Nat :=
  let digits := (t.take width).map fun c => Json.hexDigit? c.toCharLossy
  if digits.length < width then none
  else digits.foldl (fun n digit => n.bind fun n => digit.map fun d => n * 16 + d) (some 0)

/-- The code points of letters after a backslash. -/
def letterEscapes : List (Char × Char) :=
  [('\\', '\\'), ('\'', '\''), ('"', '"'), ('a', '\x07'), ('b', '\x08'), ('f', '\x0c'), ('n', '\n'),
    ('r', '\r'), ('t', '\t'), ('v', '\x0b')]

/-- What a numbered escape stands for: the code point of a number. -/
def numbered? (width : Nat) (rest : Text) : Option (Text × Nat) :=
  (hexadecimal? width rest).bind fun n =>
    if h : n < 0x110000 then some ([⟨n, h⟩], width + 1) else none

/-- What an escape stands for that gives the name of a character in braces. -/
def named? (rest : Text) : Option (Text × Nat) :=
  match rest with
  | [] => none
  | c :: inner =>
    match if c = CodePoint.ofChar '\x7b' then Text.cut? (CodePoint.ofChar '\x7d') inner else none with
    | some (name, _) => (CodePoint.ofName? name).map fun found => ([found], name.length + 3)
    | none => none

/-- What up to three octal digits stand for; a byte has eight binary digits. -/
def octal (q : Quotation) (digits : Text) : Text :=
  let n := digits.foldl (fun n c => n * 8 + (c.value - 48)) 0
  [CodePoint.ofChar (Char.ofNat (if q.isBytes then n % 256 else n))]

/-- What an escape stands for whose backslash a text follows, and how long the escape is. -/
def escape? (q : Quotation) (t : Text) : Option (Text × Nat) :=
  match t with
  | [] => some ([CodePoint.ofChar '\\'], 0)
  | c :: rest =>
    let isOctal (c : CodePoint) : Bool := 48 ≤ c.value && c.value ≤ 55
    let letter := c.toCharLossy
    if letter = '\n' then some ([], 1)
    else if isOctal c then
      let digits := (c :: rest.take 2).takeWhile isOctal
      some (q.octal digits, digits.length)
    else if letter = 'x' then numbered? 2 rest
    else if letter = 'u' && !q.isBytes then numbered? 4 rest
    else if letter = 'U' && !q.isBytes then numbered? 8 rest
    else if letter = 'N' && !q.isBytes then named? rest
    else
      match letterEscapes.find? fun entry => entry.1 = letter with
      | some (_, meant) => some ([CodePoint.ofChar meant], 1)
      | none => some ([CodePoint.ofChar '\\', c], 1)

/-- What a string stands for that is written so, of which some code points at the start have been
read already. -/
def meaningFrom? (q : Quotation) (skip : Nat) : Text → Option Text
  | [] => some []
  | c :: rest =>
    if skip ≠ 0 then meaningFrom? q (skip - 1) rest
    else if c = CodePoint.ofChar '\\' then
      match q.escape? rest with
      | some (meant, size) => (meaningFrom? q size rest).map (meant ++ ·)
      | none => none
    else (meaningFrom? q 0 rest).map (c :: ·)

/-- What a string stands for that is written so. -/
def meaning? (q : Quotation) (body : Text) : Option Text :=
  if q.isPlain then some body else q.meaningFrom? 0 body

end Quotation

end QueryScaffold
