import QueryScaffold.Text.Digit
import QueryScaffold.Text.Lowercase
import QueryScaffold.Text.NameCharacter

/-!
# Upper and lower case of texts

* `Text.lower`, `Text.upper`: a text in lower and in upper case;
* `Text.capitalized`, `Text.titled`, `Text.swapped`: mixtures of both;
* `Text.isLower`, `Text.isUpper`, `Text.isTitled`: how a text is written.

A letter has an upper-case form if it is the lower-case form of one; the sharp s has two letters.
-/

namespace QueryScaffold

namespace CodePoint

/-- The upper-case form. -/
def toUppercase (c : CodePoint) : Text :=
  if c.value = 0xDF then [ofChar 'S', ofChar 'S']
  else
    match lowercaseRuns.find? fun run => run.covers ((c.value : Int) - run.shift).toNat with
    | none => [c]
    | some run => [ofNatD ((c.value : Int) - run.shift).toNat c]

/-- The code point is a capital letter. -/
def isCapital (c : CodePoint) : Bool := c.toLowercase ≠ [c]

/-- The code point is a small letter. -/
def isSmall (c : CodePoint) : Bool := c.toUppercase ≠ [c]

/-- The code point is a letter. -/
def isLetter (c : CodePoint) : Bool := c.isNameStart && c ≠ ofChar '_'

end CodePoint

namespace Text

/-- The text in lower case. -/
def lower (t : Text) : Text := t.flatMap CodePoint.toLowercase

/-- The text in upper case. -/
def upper (t : Text) : Text := t.flatMap CodePoint.toUppercase

/-- The text with its first letter in upper case and all others in lower case. -/
def capitalized : Text → Text
  | [] => []
  | c :: rest => c.toUppercase ++ lower rest

/-- The text with each capital letter in lower case and each small one in upper case. -/
def swapped (t : Text) : Text :=
  t.flatMap fun c => if c.isCapital then c.toLowercase else c.toUppercase

/-- The text with each first letter of a word in upper case; `inWord` tells whether a letter stands
before it. -/
def titledFrom (inWord : Bool) : Text → Text
  | [] => []
  | c :: rest =>
    (if inWord then c.toLowercase else c.toUppercase) ++
      titledFrom (c.isCapital || c.isSmall) rest

/-- The text with each word in lower case but for its first letter. -/
def titled (t : Text) : Text := titledFrom false t

/-- The text has letters with cases, all of them small. -/
def isLower (t : Text) : Bool :=
  t.any CodePoint.isSmall && !t.any CodePoint.isCapital

/-- The text has letters with cases, all of them capital. -/
def isUpper (t : Text) : Bool :=
  t.any CodePoint.isCapital && !t.any CodePoint.isSmall

/-- Capital letters stand where a word starts, and nowhere else. -/
def isTitled (t : Text) : Bool :=
  (t.any fun c => c.isCapital || c.isSmall) && t.titled = t

example : upper (ofString "straße 1") = ofString "STRASSE 1" ∧
    titled (ofString "one tWO") = ofString "One Two" ∧ isTitled (ofString "One Two") = true := by
  decide +kernel

end Text

end QueryScaffold
