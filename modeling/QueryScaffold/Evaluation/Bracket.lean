import QueryScaffold.Evaluation.Environment
import QueryScaffold.Value.Equality

/-!
# Types from brackets and bars

* `Value.check`: a value as a type, if types of its kind are allowed where it stands;
* `Environment.either`: one of two types;
* `Environment.subscript`: what a value with another one in brackets after it stands for.

Types are joined without repetition and without unions inside unions; one type alone is itself.
-/

namespace QueryScaffold

namespace Value

/-! ## Types -/

/-- The value as a type: the class of null for null, and a string as something still to be read. -/
def asType (allowsSpecial : Bool) : Value → Except CodeFault Value
  | .constant .null => .ok nullClass
  | .constant (.text source) =>
    match Expression.read source with
    | .ok _ => .ok (.forward source allowsSpecial)
    | .error fault => .error (.unreadable fault)
  | value => .ok value

/-- A form that is only allowed on the outside of a type. -/
def isOutermost (f : Form) : Bool :=
  f = .classVar || f = .final

/-- The type, unless types like it are only allowed on the outside. -/
def inner (allowed : Bool) (value : Value) : Except CodeFault Value :=
  if allowed then .ok value else .error (.notArgument value.display)

/-- The value as a type, if types of its kind are allowed where it stands. -/
def check (place : TypePlace) (allowsSpecial : Bool) (value : Value) :
    Except CodeFault Value :=
  match value.asType allowsSpecial with
  | .error fault => .error fault
  | .ok (.apply (.form f) arguments) =>
    inner (!isOutermost f || allowsSpecial) (.apply (.form f) arguments)
  | .ok (.apply (.generic ref) arguments) =>
    inner (ref ≠ .generic) (.apply (.generic ref) arguments)
  | .ok (.remarked (.form f) remarks) =>
    inner (!isOutermost f || allowsSpecial) (.remarked (.form f) remarks)
  | .ok (.form f) =>
    if f.origin?.isSome || (isOutermost f && allowsSpecial) then .ok (.form f)
    else .error (.bareForm f.display)
  | .ok (.ofClass ref) =>
    if ref = .generic then .error (.bareForm ref.display) else .ok (.ofClass ref)
  | .ok (.tuple items) => .error (.notType place (Value.tuple items).display)
  | .ok value => .ok value

/-- The values as types, up to the first one that is not allowed. -/
def checkAll (place : TypePlace) (values : List Value) : Except CodeFault (List Value) :=
  values.mapM (check place false)

/-! ## Unions -/

/-- The members of a union, or the value itself. -/
def members : Value → List Value
  | .union _ members => members
  | value => [value]

/-- One of some types in general. The types are told apart, so none of them can change. -/
def unionOf (values : List Value) : Except CodeFault Value :=
  let all := values.flatMap members
  match changeableIn? all, distinctBy same all with
  | some kind, _ => .error (.changeable kind)
  | none, [value] => .ok value
  | none, distinct => .ok (.union false distinct)

/-- One of some values, each of which has to be a type. -/
def unionOfChecked (values : List Value) : Except CodeFault Value :=
  if values.isEmpty then .error .emptyUnion
  else
    match checkAll .member values with
    | .ok types => unionOf types
    | .error fault => .error fault

/-- The value is a collection with arguments in brackets. -/
def isCollection : Value → Bool
  | .apply (.collection _) _ => true
  | _ => false

/-- A value is the same as one of some others; only collections are compared part by part. -/
def repeats? (value : Value) : List Value → Except CodeFault Bool
  | [] => .ok false
  | first :: rest =>
    match
      if value.isCollection && first.isCollection then value.same? first
      else .ok (value.same first) with
    | .error kind => .error (.changeable kind)
    | .ok true => .ok true
    | .ok false => repeats? value rest

/-- Values added to others, each unless it is among them already. -/
def addNew (done : List Value) : List Value → Except CodeFault (List Value)
  | [] => .ok done
  | value :: rest =>
    match value.repeats? done with
    | .error fault => .error fault
    | .ok true => addNew done rest
    | .ok false => addNew (done ++ [value]) rest

/-- One of some classes and collections. -/
def plainUnion (values : List Value) : Except CodeFault Value :=
  match addNew [] (values.flatMap members) with
  | .error fault => .error fault
  | .ok [value] => .ok value
  | .ok distinct => .ok (.union true distinct)

/-- The value knows the namespace of its code. -/
def hasNamespace : Value → Bool
  | .constant _ | .tuple _ | .list _ | .buffer _ _ | .set _ _ | .dictionary _ | .proxy _ | .view _ _ | .range _ _ _
  | .slice _ _ _ | .iterator _ _ => false
  | .other kind _ => kind ≠ ("NotImplementedType" : Text)
  | _ => true

/-- A value that makes every union with it one of types in general. -/
def isOpen : Value → Bool
  | .variable _ | .form _ | .forward _ _ | .remarked _ _ | .union false _ => true
  | .apply (.collection _) _ => false
  | .apply _ _ => true
  | _ => false

/-- A value that has unions with values of this kind. -/
def isPlain : Value → Bool
  | .ofClass _ | .constant .null | .union true _ | .apply (.collection _) _ => true
  | _ => false

/-- The value as a member of a union of classes and collections. -/
def asMember (value : Value) : Value :=
  if value.isNull then nullClass else value

/-- The values that a value in brackets gives: the items of a tuple, or the value alone. -/
def bracketItems : Value → List Value
  | .tuple items => items
  | value => [value]

/-- The name of the type variable that the value is. -/
def variableName? : Value → Option Text
  | .variable name => some name
  | _ => none

/-- The value is a literal type, with these values. -/
def literalValues : Value → List Value
  | .apply (.form .literal) values => values
  | value => [value]

end Value

namespace Environment

/-- The type with remarks after any that it has. Only what knows the namespace of its code takes
them. -/
def remark (env : Environment) (inner : Value) (remarks : List Value) :
    Except CodeFault Value :=
  match inner with
  | .remarked inmost earlier => .ok (.remarked inmost (earlier ++ remarks))
  | inner =>
    if inner.hasNamespace then .ok (.remarked inner remarks)
    else
      .error (.noAttribute (("'" : Text) ++ env.kindName inner ++ ("' object" : Text)) "__module__")

/-- The union of two values. -/
def either (env : Environment) (left right : Value) : Except CodeFault Value :=
  if left.isPlain && right.isPlain && !(left.isNull && right.isNull) then
    Value.plainUnion [left.asMember, right.asMember]
  else if left.isOpen || right.isOpen then Value.unionOfChecked [left, right]
  else .error (.noOperation .bar (env.kindName left) (env.kindName right))

/-- The union of values from left to right. -/
def eitherAll (env : Environment) : List Value → Except CodeFault Value
  | [] => .ok .null
  | first :: rest => rest.foldlM env.either first

/-! ## Brackets after forms -/

/-- The literal type of some values. Of equal values of one kind the first one stays, unless there
is one that can change. -/
def literalType (env : Environment) (values : List Value) : Value :=
  let all := values.flatMap Value.literalValues
  let alike (a b : Value) : Bool := a.same b && env.kindName a = env.kindName b
  .apply (.form .literal)
    (if (Value.changeableIn? all).isSome then all else Value.distinctBy alike all)

/-- The type that a form gives with a value in brackets. -/
def subscriptForm (env : Environment) (f : Form) (key : Value) : Except CodeFault Value :=
  match f with
  | .classVar | .final | .unpack =>
    match key.check (.single f) false with
    | .ok value => .ok (.apply (.form f) [value])
    | .error fault => .error fault
  | .optional =>
    match key.check (.single f) false with
    | .ok value => Value.unionOf [value, .nullClass]
    | .error fault => .error fault
  | .union => Value.unionOfChecked key.bracketItems
  | .literal => .ok (env.literalType key.bracketItems)
  | .list | .set =>
    match Value.checkAll .parameter key.bracketItems with
    | .error fault => .error fault
    | .ok [value] => .ok (.apply (.form f) [value])
    | .ok [] => .error (.tooFew f.display 0 1 false)
    | .ok values => .error (.tooMany f.display values.length 1)

/-! ## Brackets after classes -/

/-- The class as a message names it that says what it does not take. -/
def classWord (ref : ClassRef) : Text :=
  if ref = .date then ref.qualifiedName else ref.name

/-- The list of type variables over which a class says that it is generic. -/
def genericOver (values : List Value) : Except CodeFault Value :=
  if values.isEmpty then .error .emptyGeneric
  else
    match values.mapM Value.variableName? with
    | none => .error .notVariables
    | some names =>
      if names.eraseDups.length = names.length then .ok (.apply (.generic .generic) values)
      else .error .repeatedVariable

/-- A generic class with types in brackets. -/
def applyGeneric (c : Class) (values : List Value) : Except CodeFault Value :=
  match values.mapM (Value.asType false) with
  | .error fault => .error fault
  | .ok values =>
    let count := c.body.parameters.length
    if c.ref = .generic then genericOver values
    else if count = 0 then .error (.notGeneric c.ref.display)
    else if count < values.length then .error (.tooMany c.ref.display values.length count)
    else if values.length < count then .error (.tooFew c.ref.display values.length count true)
    else .ok (.apply (.generic c.ref) values)

/-- A type with remarks. -/
def applyRemarks (env : Environment) : List Value → Except CodeFault Value
  | first :: remark :: rest =>
    match first.check .remarked true with
    | .ok first => env.remark first (remark :: rest)
    | .error fault => .error fault
  | _ => .error .noRemark

/-- The type that a class gives with a value in brackets. -/
def subscriptClass (env : Environment) (ref : ClassRef) (key : Value) :
    Except CodeFault Value :=
  match env.class? ref with
  | none => .error (.classNotSubscriptable ref.name)
  | some c =>
    match c.brackets? with
    | none => .error (.classNotSubscriptable (classWord ref))
    | some .anything | some .anythingItself => .ok (.apply (.collection ref) key.bracketItems)
    | some .remarks => env.applyRemarks key.bracketItems
    | some .parameters => applyGeneric c key.bracketItems

/-! ## Brackets after types -/

mutual

/-- The value with other values in place of its type variables. -/
def substitute (env : Environment) (meaning : Text → Value) : Value → Except CodeFault Value
  | .variable name => (meaning name).check .parameter false
  | .apply head arguments =>
    match substituteAll env meaning arguments with
    | .ok arguments => .ok (.apply head arguments)
    | .error fault => .error fault
  | .remarked inner remarks =>
    match substitute env meaning inner with
    | .ok inner => env.remark inner remarks
    | .error fault => .error fault
  | .union plain members =>
    match substituteAll env meaning members with
    | .ok members => if plain then env.eitherAll members else Value.unionOfChecked members
    | .error fault => .error fault
  | value => .ok value

/-- The same for each value of a list, up to the first fault. -/
def substituteAll (env : Environment) (meaning : Text → Value) :
    List Value → Except CodeFault (List Value)
  | [] => .ok []
  | value :: rest =>
    match substitute env meaning value with
    | .error fault => .error fault
    | .ok value =>
      match substituteAll env meaning rest with
      | .error fault => .error fault
      | .ok rest => .ok (value :: rest)

end

/-- The type that a type with type variables gives with values in brackets. -/
def subscriptType (env : Environment) (type key : Value) : Except CodeFault Value :=
  let names := type.parameters
  let values := key.bracketItems
  if names.isEmpty then .error (.notGeneric type.display)
  else if names.length < values.length then
    .error (.tooMany type.display values.length names.length)
  else if values.length < names.length then
    .error (.tooFew type.display values.length names.length false)
  else
    let meaning (name : Text) : Value :=
      (NameTable.find? name (names.zip values)).getD (.variable name)
    env.substitute meaning type

/-! ## Brackets after other values -/

/-- The integer is too large to be a place in either direction. -/
def isNoPlace (n : Int) : Bool :=
  n < -Int.pow 2 63 || Int.pow 2 63 ≤ n

/-- The item with a number, which counts from the end if it is negative. -/
def itemAt (kind : Text) (items : List Value) (place : Int) : Except CodeFault Value :=
  let index := if place < 0 then place + items.length else place
  if isNoPlace place then
    .error (.refused "IndexError" "cannot fit 'int' into an index-sized integer")
  else
    match if index < 0 then none else items[index.toNat]? with
    | some item => .ok item
    | none => .error (.outOfRange kind)

/-- The integer that a bound of a range is, if it is given. -/
def boundOf (value : Value) : Except CodeFault (Option Int) :=
  match value, value.integer? with
  | .constant .null, _ => .ok none
  | _, some n => .ok (some n)
  | _, none => .error .badBound

/-- The place of a bound among so many items, between a lowest and a highest place; a negative bound
counts from the end. -/
def placeOf (length : Nat) (lowest highest : Int) (bound : Int) : Int :=
  max lowest (min highest (if bound < 0 then bound + length else bound))

/-- The items at so many places, one step after the other. -/
def itemsFrom (items : List Value) (step : Int) : Nat → Int → List Value
  | 0, _ => []
  | count + 1, place =>
    items[place.toNat]?.toList ++ itemsFrom items step count (place + step)

/-- The items in a range of places. -/
def itemsBetween (items : List Value) (start stop : Option Int) (step : Int) : List Value :=
  let length := items.length
  let (lowest, highest) : Int × Int := if step < 0 then (-1, length - 1) else (0, length)
  let place := placeOf length lowest highest
  let first := (start.map place).getD (if step < 0 then highest else lowest)
  let last := (stop.map place).getD (if step < 0 then lowest else highest)
  let distance := if step < 0 then first - last else last - first
  itemsFrom items step ((distance + (step.natAbs - 1)) / step.natAbs).toNat first

/-- The items of a value in a range of places. -/
def subscriptRange (items : List Value) (start stop step : Value) :
    Except CodeFault (List Value) :=
  match boundOf step with
  | .error fault => .error fault
  | .ok (some 0) => .error .zeroStep
  | .ok gap =>
    match boundOf start, boundOf stop with
    | .error fault, _ | .ok _, .error fault => .error fault
    | .ok first, .ok last => .ok (itemsBetween items first last (gap.getD 1))

/-- What a value whose items have numbers gives with a value in brackets: the item with a number, or
the items in a range of places. -/
def subscriptItems (env : Environment) (head : Value) (items : List Value) (key : Value) :
    Except CodeFault Value :=
  let kind := env.kindName head
  match key, key.integer? with
  | .slice start stop step, _ => (subscriptRange items start stop step).map (Value.ofItemsLike head)
  | _, some place => itemAt kind items place
  | _, none => .error (.badIndex kind (env.kindName key))

/-- The value under a key of a dictionary. -/
def entryOf (entries : List (Value × Value)) (key : Value) : Except CodeFault Value :=
  match key.changeable? with
  | some kind => .error (.changeable kind)
  | none =>
    match entries.find? fun entry => entry.1.same key with
    | some (_, value) => .ok value
    | none => .error (.noKey key.display)

/-- What a range of integers gives with a value in brackets. -/
def subscriptIntegers (start stop step : Int) (key : Value) : Except CodeFault Value :=
  let length := Value.rangeLength start stop step
  match key, key.integer? with
  | .slice first last gap, _ =>
    match boundOf gap with
    | .error fault => .error fault
    | .ok (some 0) => .error .zeroStep
    | .ok gap =>
      match boundOf first, boundOf last with
      | .error fault, _ | .ok _, .error fault => .error fault
      | .ok first, .ok last =>
        let gap := gap.getD 1
        let (low, high) : Int × Int := if gap < 0 then (-1, length - 1) else (0, length)
        let place := placeOf length low high
        let from' := (first.map place).getD (if gap < 0 then high else low)
        let to' := (last.map place).getD (if gap < 0 then low else high)
        .ok (.range (start + from' * step) (start + to' * step) (step * gap))
  | _, some place =>
    let index := if place < 0 then place + length else place
    if 0 ≤ index && index < length then .ok (.integer (start + index * step))
    else .error (.refused "IndexError" "range object index out of range")
  | _, none => .error (.badIndex "range" [])

/-- What a value with another one in brackets after it stands for. -/
def subscript (env : Environment) (head key : Value) : Except CodeFault Value :=
  match head with
  | .ofClass ref => env.subscriptClass ref key
  | .form f => env.subscriptForm f key
  | .apply (.generic ref) arguments =>
    if ref = .generic then .error (.subscriptedTwice head.display)
    else env.subscriptType (.apply (.generic ref) arguments) key
  | .apply _ _ | .remarked _ _ | .union _ _ => env.subscriptType head key
  | .dictionary entries | .proxy entries => entryOf entries key
  | .range start stop step =>
    match subscriptIntegers start stop step key with
    | .error (.badIndex kind _) => .error (.badIndex kind (env.kindName key))
    | result => result
  | .tuple items | .list items => env.subscriptItems head items key
  | .constant (.text _) | .constant (.bytes _) | .buffer _ _ =>
    env.subscriptItems head (head.items?.getD []) key
  | value => .error (.valueNotSubscriptable (env.kindName value))

end Environment

end QueryScaffold
