import QueryScaffold.Value.Basic

/-!
# Equality of values

* `Value.changeable?`: what keeps a value from being told from others by a code;
* `Value.same`: two values are equal;
* `Value.same?`: the same as code asks for it;
* `Value.distinct`: values without repetition.

Unions are equal if they have the same members in any order, and so are sets, and literal types if
they have the same values of the same kinds. To tell that, code asks for a code of each member, which
a value that can change does not have.
-/

namespace QueryScaffold

namespace Value

mutual

/-- The kind of the first part of the value that can change, so that the value cannot be told from
others by a code. -/
def changeable? : Value → Option Text
  | .list _ => some "list"
  | .dictionary _ => some "dict"
  | .proxy _ => some "mappingproxy"
  | .set false _ => some "set"
  | .slice _ _ _ => some "slice"
  | .view kind _ => if kind = ("dict_values" : Text) then none else some kind
  | .tuple items => changeableIn? items
  | .apply _ arguments => changeableIn? arguments
  | .remarked inner remarks => (changeable? inner).or (changeableIn? remarks)
  | .union _ members => changeableIn? members
  | .buffer false _ => some "bytearray"
  | _ => none

/-- The first such kind in a list. -/
def changeableIn? : List Value → Option Text
  | [] => none
  | value :: rest => (changeable? value).or (changeableIn? rest)

end

/-- The items of what is equal by its items in any order. -/
def membersOfSet? : Value → Option (List Value)
  | .set _ items => some items
  | .view kind items => if kind = ("dict_values" : Text) then none else some items
  | _ => none

/-- The values are not constants of different kinds. -/
def isAlike : Value → Value → Bool
  | .constant a, .constant b => a.kindName = b.kindName
  | _, _ => true

mutual

/-- The two values are equal. -/
def same : Value → Value → Bool
  | .constant a, .constant b => a.same b
  | .ofClass a, .ofClass b => a = b
  | .form a, .form b => a = b
  | .variable a, .variable b => a = b
  | .function n a x, .function m b y => n = m && a = b && x = y
  | .builtinFunction a, .builtinFunction b => a = b
  | .closure a, .closure b => a = b
  | .method a m, .method b n => m = n && same a b
  | .unbound _ a m, .unbound _ b n => a = b && m = n
  | .tuple as, .tuple bs => sameAll as bs
  | .list as, .list bs => sameAll as bs
  | .buffer _ as, .buffer _ bs | .buffer _ as, .constant (.bytes bs)
  | .constant (.bytes as), .buffer _ bs => as = bs
  | .set _ as, b =>
    match membersOfSet? b with
    | some bs => allIn false as bs && bs.length = as.length
    | none => false
  | .view kind as, b =>
    match membersOfSet? b with
    | some bs => kind ≠ ("dict_values" : Text) && allIn false as bs && bs.length = as.length
    | none => false
  | .dictionary as, .dictionary bs | .dictionary as, .proxy bs | .proxy as, .dictionary bs
  | .proxy as, .proxy bs => as.length = bs.length && entriesIn as bs
  | .range a b c, .range d e f =>
    rangeLength a b c = rangeLength d e f &&
      (rangeLength a b c = 0 || (a = d && (rangeLength a b c = 1 || c = f)))
  | .slice a b c, .slice d e f => same a d && same b e && same c f
  | .iterator _ m, .iterator _ n => m = n
  | .object m a, .object n b | .exception m a _ _, .exception n b _ _ => m = n && a = b
  | .forward a _, .forward b _ => a = b
  | .apply (.form .literal) as, .apply (.form .literal) bs =>
    allIn true as bs && bs.all fun b => hasSame true as b
  | .apply h as, .apply k bs => h = k && sameAll as bs
  | .remarked a as, .remarked b bs => same a b && sameAll as bs
  | .union _ as, .union _ bs => allIn false as bs && bs.all fun b => hasSame false as b
  | .module a, .module b => a = b
  | .other k a, .other l b => k = l && a = b
  | _, _ => false

/-- The values of two lists are equal, one by one. -/
def sameAll : List Value → List Value → Bool
  | [], [] => true
  | a :: as, b :: bs => same a b && sameAll as bs
  | _, _ => false

/-- Each value is equal to one of the others, and of the same kind if that counts. -/
def allIn (byKind : Bool) : List Value → List Value → Bool
  | [], _ => true
  | a :: as, bs => (bs.any fun b => same a b && (!byKind || isAlike a b)) && allIn byKind as bs

/-- One of the values is equal to another one, and of the same kind if that counts. -/
def hasSame (byKind : Bool) : List Value → Value → Bool
  | [], _ => false
  | a :: as, b => (same a b && (!byKind || isAlike a b)) || hasSame byKind as b

/-- Each entry has an equal value under an equal key of another dictionary. -/
def entriesIn : List (Value × Value) → List (Value × Value) → Bool
  | [], _ => true
  | (key, value) :: rest, others =>
    (others.any fun other => same key other.1 && same value other.2) && entriesIn rest others

end

mutual

/-- The two values are equal, unless a part that code has to tell from others can change; then the
kind of that part is given. -/
def same? : Value → Value → Except Text Bool
  | .tuple as, .tuple bs => sameAll? as bs
  | .list as, .list bs => if as.length = bs.length then sameAll? as bs else .ok false
  | .apply (.form .literal) as, .apply (.form .literal) bs =>
    match changeableIn? (as ++ bs) with
    | some kind => .error kind
    | none => .ok (same (.apply (.form .literal) as) (.apply (.form .literal) bs))
  | .apply h as, .apply k bs => if h = k then sameAll? as bs else .ok false
  | .remarked a as, .remarked b bs =>
    match same? a b with
    | .ok true => sameAll? as bs
    | result => result
  | .union p as, .union q bs =>
    match changeableIn? (as ++ bs) with
    | some kind => .error kind
    | none => .ok (same (.union p as) (.union q bs))
  | a, b => .ok (same a b)

/-- The same for the values of two lists, one by one up to the first difference. -/
def sameAll? : List Value → List Value → Except Text Bool
  | [], [] => .ok true
  | a :: as, b :: bs =>
    match same? a b with
    | .ok true => sameAll? as bs
    | result => result
  | _, _ => .ok false

end

/-- The values that are not the same as an earlier one. -/
def distinctBy (same : Value → Value → Bool) : List Value → List Value
  | [] => []
  | value :: rest => value :: (distinctBy same rest).filter fun other => !same value other

/-- The values that are not equal to an earlier one. -/
def distinct (values : List Value) : List Value :=
  distinctBy same values

end Value

end QueryScaffold
