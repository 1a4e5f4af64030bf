import QueryScaffold.Evaluation.Environment
import QueryScaffold.Value.Display
import QueryScaffold.Value.Equality

/-!
# Interpreters

Evaluating an expression, calling a value and asking for a next item need one another. What is built
on all three takes them as an interpreter; the interpreter that really runs code puts them together
to a depth.

* `CallArguments`: what a call hands over;
* `Interpreter`: the three ways of running code;
* `Interpreter.items`, `Interpreter.iterate`: going through a value item by item;
* `Interpreter.callName`: a value as messages on its call name it;
* `Eval.same`, `Eval.isAmong`: equality of values as code asks for it.
-/

namespace QueryScaffold

/-- What a call hands over. -/
structure CallArguments where
  places : List Value := []
  named : List (Text × Value) := []

namespace CallArguments

/-- The number of arguments. -/
def count (arguments : CallArguments) : Nat :=
  arguments.places.length + arguments.named.length

end CallArguments

/-- The ways of running code. -/
structure Interpreter where
  /-- The value of an expression at a place. -/
  evaluate : Place → Expression → Eval Value
  /-- What a call of a value gives to code at a place. -/
  call : Place → Value → CallArguments → Eval Value
  /-- The next item of an iteration, unless it has ended. -/
  next : Nat → Eval (Option Value)

/-- The interpreter that can go no deeper. -/
def Interpreter.exhausted : Interpreter :=
  { evaluate := fun _ _ => throw .endless
    call := fun _ _ _ => throw .endless
    next := fun _ => throw .endless }

namespace Eval

/-- Two values are equal. -/
def same (a b : Value) : Eval Bool :=
  match a.same? b with
  | .ok found => pure found
  | .error kind => throw (.changeable kind)

/-- A value is equal to one of some items. -/
def isAmongItems (value : Value) : List Value → Eval Bool
  | [] => pure false
  | item :: rest => do
    if ← same item value then return true else isAmongItems value rest

/-- The value can be told from others by a code. -/
def checkFixed (value : Value) : Eval Unit :=
  match value.changeable? with
  | some kind => throw (.changeable kind)
  | none => pure ()

/-- Values without repetition, each of which can be told from others. -/
def members (values : List Value) : Eval (List Value) := do
  values.forM checkFixed
  let distinct := Value.distinct values
  let order (a b : Value) : Bool := (a.integer?.getD 0) ≤ (b.integer?.getD 0)
  return if distinct.all fun value => value.integer?.isSome then distinct.mergeSort order
    else distinct

/-- The entries of a dictionary with a key given a value. -/
def putEntry (entries : List (Value × Value)) (key value : Value) :
    Eval (List (Value × Value)) := do
  checkFixed key
  return if entries.any fun entry => entry.1.same key then
      entries.map fun entry => if entry.1.same key then (entry.1, value) else entry
    else entries ++ [(key, value)]

/-- The entries of a dictionary with others put over them. -/
def putEntries (entries : List (Value × Value)) :
    List (Value × Value) → Eval (List (Value × Value))
  | [] => pure entries
  | (key, value) :: rest => do putEntries (← putEntry entries key value) rest

/-- The value of a key of a dictionary. -/
def entry? (entries : List (Value × Value)) (key : Value) : Eval (Option Value) := do
  checkFixed key
  return (entries.find? fun entry => entry.1.same key).map Prod.snd

end Eval

namespace Interpreter

/-- The kind of the iterations through a value. -/
def iteratorKind (kind : Text) (value : Value) : Text :=
  match value with
  | .view view _ =>
    if view = ("dict_keys" : Text) then "dict_keyiterator"
    else if view = ("dict_values" : Text) then "dict_valueiterator"
    else "dict_itemiterator"
  | .dictionary _ | .proxy _ => "dict_keyiterator"
  | .set _ _ => "set_iterator"
  | .constant (.text t) =>
    if t.all fun c => c.value < 128 then "str_ascii_iterator" else "str_iterator"
  | _ => kind ++ ("_iterator" : Text)

/-- The item that a type gives where one goes through it. -/
def unpacked (head : TypeHead) (arguments : List Value) : Value :=
  .apply (.form .unpack) [.apply head arguments]

/-- The iteration through a value, as a value. -/
def iterate (value : Value) : Eval Value := do
  let kind ← Eval.kindName value
  match value with
  | .iterator kind number => return .iterator kind number
  | .range start stop step => Eval.iterator "range_iterator" (.counting start stop step)
  | .apply head arguments => Eval.iterator "generator" (.items [unpacked head arguments])
  | value =>
    match value.items? with
    | some items => Eval.iterator (iteratorKind kind value) (.items items)
    | none => throw (.notPassedThrough kind)

/-- The number of the iteration through a value. -/
def iterationOf (value : Value) : Eval Nat := do
  match ← iterate value with
  | .iterator _ number => return number
  | _ => throw .endless

/-- The most items that one goes through at once. -/
def maxItems : Nat := 1000000

/-- The items of an iteration up to a number of them. -/
def drain (run : Interpreter) (number : Nat) : Nat → List Value → Eval (List Value)
  | 0, _ => throw .endless
  | limit + 1, done => do
    match ← run.next number with
    | some item => run.drain number limit (item :: done)
    | none => return done.reverse

/-- The items of a value. -/
def items (run : Interpreter) (value : Value) : Eval (List Value) := do
  match value.items? with
  | some items => return items
  | none => run.drain (← iterationOf value) maxItems []

/-- The items of a value in the place of one item. What has no items at all is refused in other
words. -/
def spread (run : Interpreter) (value : Value) : Eval (List Value) :=
  match value with
  | .form _ | .remarked _ _ | .union false _ | .apply _ _ | .iterator _ _ => run.items value
  | value =>
    match value.items? with
    | some items => pure items
    | none => do throw (.noItems (← Eval.kindName value))

/-- An item of an iteration is equal to a value; the items up to it are used up. -/
def isAmongNext (run : Interpreter) (value : Value) (number : Nat) : Nat → Eval Bool
  | 0 => throw .endless
  | limit + 1 => do
    match ← run.next number with
    | none => return false
    | some item =>
      if ← Eval.same item value then return true else run.isAmongNext value number limit

/-- The value as messages on its call name it. -/
def callName (env : Environment) (head : Value) : Text :=
  let home : Text := match env.names.find? "__name__" with
    | some (.constant (.text name)) => name ++ ("." : Text)
    | _ => []
  match head with
  | .ofClass ref => ref.label ++ ("()" : Text)
  | .builtinFunction name => name ++ ("()" : Text)
  | .function codeNamespace owner name =>
    codeNamespace ++ ("." : Text) ++ Value.functionName owner name ++ ("()" : Text)
  | .closure number =>
    match env.closures[number]? with
    | some closure =>
      (if closure.place.isHome then home else []) ++ closure.name ++ ("()" : Text)
    | none => closureName ++ ("()" : Text)
  | .method owner name => env.kindName owner ++ ("." : Text) ++ name ++ ("()" : Text)
  | .unbound _ owner name => owner.name ++ ("." : Text) ++ name ++ ("()" : Text)
  | value => value.plainText

end Interpreter

end QueryScaffold
