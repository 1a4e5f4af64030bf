import QueryScaffold.Json.Equality
import QueryScaffold.Number.Shortest
import QueryScaffold.Text.Quoted

/-!
# Constants

* `Constant`: a value without parts that an expression can write out;
* `Constant.display`: the constant as messages show it, `Constant.kindName`: its kind;
* `Constant.same`: two constants are equal.

Numbers are equal if they stand for the same number, where a truth value counts as one or zero.
-/

namespace QueryScaffold

/-- A value without parts. -/
inductive Constant
  | null
  | truth (holds : Bool)
  | integer (n : Int)
  | real (x : Binary64)
  /-- A complex number, by its real and its imaginary part. -/
  | complex (re im : Binary64)
  | text (t : Text)
  | bytes (content : List UInt8)
  | ellipsis
deriving DecidableEq

instance : Inhabited Constant := ⟨.null⟩

namespace Binary64

/-- The double has a sign, be it zero or infinite. -/
def hasSign : Binary64 → Bool
  | .finite negative _ _ | .infinite negative => negative
  | .nan => false

/-- The double in writing, without a fraction that is zero. -/
def shortText (x : Binary64) : Text :=
  let shown := x.text
  let fraction : Text := ".0"
  if fraction.isSuffixOf shown then shown.take (shown.length - 2) else shown

/-- The double in writing, with a sign in any case. -/
def signedText (x : Binary64) : Text :=
  if x.hasSign then x.shortText else ("+" : Text) ++ x.shortText

end Binary64

namespace Constant

/-- The kind of the constant, as messages give it. -/
def kindName : Constant → Text
  | .null => "NoneType"
  | .truth _ => "bool"
  | .integer _ => "int"
  | .real _ => "float"
  | .complex _ _ => "complex"
  | .text _ => "str"
  | .bytes _ => "bytes"
  | .ellipsis => "ellipsis"

/-- A complex number in writing; a real part that is zero without a sign is left out. -/
def complexText (re im : Binary64) : Text :=
  if re = Binary64.zero false then im.shortText ++ ("j" : Text)
  else ("(" : Text) ++ re.shortText ++ im.signedText ++ ("j)" : Text)

/-- The constant as messages show it. -/
def display : Constant → Text
  | .null => "None"
  | .truth holds => if holds then "True" else "False"
  | .integer n => Text.ofInt n
  | .real x => x.text
  | .complex re im => complexText re im
  | .text t => t.quote
  | .bytes content => ("b" : Text) ++ Text.quoteBytes content
  | .ellipsis => "Ellipsis"

/-- The integer that the constant counts as. -/
def integer? : Constant → Option Int
  | .truth holds => some (if holds then 1 else 0)
  | .integer n => some n
  | _ => none

/-- The double is the number that a constant is. -/
def isReal (x : Binary64) : Constant → Bool
  | .real y => x.equal y
  | other => other.integer?.any fun n => x.isInteger n

/-- The constant is the complex number of two parts. -/
def isComplex (re im : Binary64) : Constant → Bool
  | .complex a b => re.equal a && im.equal b
  | other => im.isInteger 0 && isReal re other

/-- The two constants are equal. -/
def same (a b : Constant) : Bool :=
  match a, b with
  | .complex re im, other | other, .complex re im => isComplex re im other
  | .real x, other | other, .real x => isReal x other
  | .text s, .text t => s = t
  | .bytes s, .bytes t => s = t
  | .null, .null | .ellipsis, .ellipsis => true
  | a, b => a.integer?.isSome && a.integer? = b.integer?

/-- The constant counts as true where a condition is needed. -/
def isTruthy : Constant → Bool
  | .null => false
  | .truth holds => holds
  | .integer n => n ≠ 0
  | .real x => !x.isInteger 0
  | .complex re im => !(re.isInteger 0 && im.isInteger 0)
  | .text t => t ≠ []
  | .bytes content => content ≠ []
  | .ellipsis => true

/-- A truth value equals a double of the same size, and a complex number without an imaginary part
equals its real part. -/
example : (same (.truth true) (.real (.nearest false 10 2 (-1))) &&
    same (.complex (.nearest false 10 2 (-1)) (Binary64.zero true)) (.integer 1) &&
    !same (.integer 1) (.text "1")) = true := by
  decide +kernel

end Constant

end QueryScaffold
