import QueryScaffold.Json.Value
import QueryScaffold.Number.Shortest
import QueryScaffold.Text.Quoted

/-!
# Writing JSON

* `Json.tokens`: the tokens of a value, between which white space may stand;
* `Json.compact`: the tokens with a space after each comma and colon.

Everything is written in ASCII: a code point that does not print there is escaped by its number, and
one above U+FFFF by the two halves of its surrogate pair.
-/

namespace QueryScaffold

namespace Json

/-- A 16-bit unit as an escape. -/
def unitEscape (unit : Nat) : Text :=
  ("\\u" : Text) ++ hexadecimal 4 unit

/-- A code point inside a string. -/
def escapePoint (c : CodePoint) : Text :=
  if c = CodePoint.ofChar '"' then ("\\\"" : Text)
  else if c = CodePoint.ofChar '\\' then ("\\\\" : Text)
  else if c = CodePoint.ofChar '\n' then ("\\n" : Text)
  else if c = CodePoint.ofChar '\r' then ("\\r" : Text)
  else if c = CodePoint.ofChar '\t' then ("\\t" : Text)
  else if c.value = 0x0C then ("\\f" : Text)
  else if c.value = 0x08 then ("\\b" : Text)
  else if 0x20 ≤ c.value ∧ c.value < 0x7F then [c]
  else if c.value < 0x10000 then unitEscape c.value
  else
    unitEscape (0xD800 + (c.value - 0x10000) / 0x400) ++
      unitEscape (0xDC00 + (c.value - 0x10000) % 0x400)

/-- A string with its quotes. -/
def stringToken (s : Text) : Text :=
  CodePoint.ofChar '"' :: s.flatMap escapePoint ++ [CodePoint.ofChar '"']

/-- A double. -/
def floatToken : Binary64 → Text
  | .nan => "NaN"
  | .infinite negative => if negative then "-Infinity" else "Infinity"
  | x => x.text

mutual

/-- The tokens of a value. -/
def tokens : Json → List Text
  | .null => ["null"]
  | .bool b => [if b then "true" else "false"]
  | .int n => [Text.ofInt n]
  | .float x => [floatToken x]
  | .string s => [stringToken s]
  | .array items => ("[" : Text) :: itemTokens items
  | .object entries => ("\x7b" : Text) :: entryTokens entries

/-- The tokens of the items of an array, and of its end. -/
def itemTokens : List Json → List Text
  | [] => ["]"]
  | [item] => tokens item ++ [("]" : Text)]
  | item :: rest => tokens item ++ ("," : Text) :: itemTokens rest

/-- The tokens of the entries of an object, and of its end. -/
def entryTokens : List (Text × Json) → List Text
  | [] => ["\x7d"]
  | [(key, value)] => stringToken key :: (":" : Text) :: (tokens value ++ [("\x7d" : Text)])
  | (key, value) :: rest =>
    stringToken key :: (":" : Text) :: (tokens value ++ ("," : Text) :: entryTokens rest)

end

/-- A value in writing, with a space after each comma and colon between its tokens. -/
def compact (value : Json) : Text :=
  value.tokens.flatMap fun token =>
    if token = (("," : Text)) ∨ token = ((":" : Text)) then token ++ (" " : Text) else token

end Json

end QueryScaffold
