import QueryScaffold.Text.Printable

/-!
# Quoted text

Messages show a text between quotes, in ASCII-safe form.

* `Text.quote`, `Text.quoteBytes`: the quoted form of a text and of bytes;
* `CodePoint.escapeIn`: the form of one code point between given quotes.

Apostrophes are the quotes, unless the text has an apostrophe and no quotation mark. A backslash,
the quote, tab, line feed and carriage return are written with a backslash, and a code point that
does not print with its number in two, four or eight hexadecimal digits.
-/

namespace QueryScaffold

/-- The lower-case hexadecimal digits of a number, filled with zeros up to a width. -/
def hexadecimal (width n : Nat) : Text :=
  let digits := (Nat.toDigits 16 n).map CodePoint.ofChar
  List.replicate (width - digits.length) (CodePoint.ofChar '0') ++ digits

namespace CodePoint

/-- The number of the code point as an escape. -/
def numericEscape (c : CodePoint) : Text :=
  if c.value ≤ 0xFF then ("\\x" : Text) ++ hexadecimal 2 c.value
  else if c.value ≤ 0xFFFF then ("\\u" : Text) ++ hexadecimal 4 c.value
  else ("\\U" : Text) ++ hexadecimal 8 c.value

/-- The form of a code point between quotes. -/
def escapeIn (quote c : CodePoint) : Text :=
  if c = quote ∨ c = ofChar '\\' then [ofChar '\\', c]
  else if c = ofChar '\t' then ("\\t" : Text)
  else if c = ofChar '\n' then ("\\n" : Text)
  else if c = ofChar '\r' then ("\\r" : Text)
  else if c.isPrintable then [c]
  else c.numericEscape

end CodePoint

namespace Text

/-- The quotes that a text is put between. -/
def quoteMark (t : Text) : CodePoint :=
  if CodePoint.ofChar '\'' ∈ t ∧ CodePoint.ofChar '"' ∉ t then CodePoint.ofChar '"'
  else CodePoint.ofChar '\''

/-- The text between quotes. -/
def quote (t : Text) : Text :=
  let mark := t.quoteMark
  mark :: t.flatMap (CodePoint.escapeIn mark) ++ [mark]

/-- Bytes between quotes, where only ASCII prints as itself. -/
def quoteBytes (bytes : List UInt8) : Text :=
  let t : Text := bytes.map fun byte => CodePoint.ofChar (Char.ofNat byte.toNat)
  let mark := t.quoteMark
  mark :: t.flatMap (fun c => if c.value < 0x80 then mark.escapeIn c else c.numericEscape) ++
    [mark]

/-- An apostrophe is no quote where it stands between the quotes. -/
example : quoteBytes [105, 116, 39, 115, 255] = ofString "\"it's\\xff\"" := by
  decide +kernel

end Text

end QueryScaffold
