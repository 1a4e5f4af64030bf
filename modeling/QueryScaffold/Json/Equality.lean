import QueryScaffold.Json.Value

/-!
# Equality of JSON values

* `Binary64.isInteger`: a double is equal to an integer;
* `Json.equal`: two values are equal.

Numbers are equal if they stand for the same number, where a truth value counts as one or zero. The
order of an object's entries is of no importance.
-/

namespace QueryScaffold

namespace Binary64

/-- The double is the integer. -/
def isInteger (n : Int) : Binary64 → Bool
  | .finite negative mantissa exponent =>
    let sign : Int := if negative then -1 else 1
    if exponent < 0 then sign * mantissa = n * (Nat.pow 2 exponent.natAbs : Nat)
    else sign * mantissa * (Nat.pow 2 exponent.natAbs : Nat) = n
  | _ => false

/-- The two doubles are the same number. -/
def equal : Binary64 → Binary64 → Bool
  | .nan, _ => false
  | .finite _ 0 _, .finite _ 0 _ => true
  | x, y => x = y

end Binary64

namespace Json

/-- The integer that a value counts as. -/
def integer? : Json → Option Int
  | .bool b => some (if b then 1 else 0)
  | .int n => some n
  | _ => none

mutual

/-- The two values are equal. -/
def equal : Json → Json → Bool
  | .null, .null => true
  | .float x, .float y => x.equal y
  | .float x, value => (integer? value).any fun n => x.isInteger n
  | .bool b, .float y => y.isInteger (if b then 1 else 0)
  | .int n, .float y => y.isInteger n
  | .bool b, value => integer? value = some (if b then 1 else 0)
  | .int n, value => integer? value = some n
  | .string s, .string t => s = t
  | .array as, .array bs => equalItems as bs
  | .object as, .object bs => as.length = bs.length && equalEntries as bs
  | _, _ => false

/-- The values of two lists are equal, one by one. -/
def equalItems : List Json → List Json → Bool
  | [], [] => true
  | a :: as, b :: bs => equal a b && equalItems as bs
  | _, _ => false

/-- Each entry has an equal value under its key in the other object. -/
def equalEntries : List (Text × Json) → List (Text × Json) → Bool
  | [], _ => true
  | (key, value) :: rest, others =>
    (Entries.get? key others).any (fun other => equal value other) && equalEntries rest others

end

/-- A number equals a truth value or another number of the same size. -/
example : (equal (.bool true) (.int 1) && equal (.float (.nearest false 10 2 (-1))) (.int 1)
    && !equal (.int 1) (.string "1")) = true := by
  decide +kernel

end Json

end QueryScaffold
