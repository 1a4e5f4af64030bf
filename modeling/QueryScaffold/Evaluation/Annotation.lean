import QueryScaffold.Evaluation.Evaluator

/-!
# Annotations

An annotation is a text for a type. What stands between quotes in it is read as a type after all the
rest is evaluated, and then what stands between quotes in that, and so on. At last remarks are left
out.

* `Eval.mapForward`: a type with an action in place of each string that is to be read as a type;
* `Eval.resolve`: the type of an annotation, with such strings resolved;
* `Environment.strip`: the type without remarks.

A type of which no part has become another one stays as it is, and is not looked at as a type again.
-/

namespace QueryScaffold

namespace Environment

/-- No part has become another value; a part that has become an equal value counts as the same. -/
def areKept : List (Value × Option Value) → Except CodeFault Bool
  | [] => .ok true
  | (_, none) :: rest => areKept rest
  | (old, some new) :: rest =>
    match old.same? new with
    | .error kind => .error (.changeable kind)
    | .ok false => .ok false
    | .ok true => areKept rest

/-- The values that parts have become, where nothing stands for a part that stays as it is. -/
def partsAfter (parts : List (Value × Option Value)) : List Value :=
  parts.map fun part => part.2.getD part.1

/-- The type of the kind of another one with other parts. -/
def withParts (env : Environment) (parts : List Value) : Value → Except CodeFault Value
  | .apply head _ => .ok (.apply head parts)
  | .remarked inner remarks => env.remark (parts.headD inner) remarks
  | .union true _ => env.eitherAll parts
  | .union false _ => Value.unionOfChecked parts
  | value => .ok value

/-- What a type becomes whose parts become others: nothing stands for the type as it is. -/
def rebuild (env : Environment) (type : Value) (parts : List (Value × Option Value)) :
    Except CodeFault (Option Value) :=
  match areKept parts with
  | .error fault => .error fault
  | .ok true => .ok none
  | .ok false => (env.withParts (partsAfter parts) type).map some

mutual

/-- What the type without remarks is, where nothing stands for the type as it is. -/
def stripped (env : Environment) : Value → Except CodeFault (Option Value)
  | .remarked inner _ =>
    match stripped env inner with
    | .ok changed => .ok (some (changed.getD inner))
    | .error fault => .error fault
  | .apply head arguments =>
    match strippedAll env arguments with
    | .ok parts => env.rebuild (.apply head arguments) parts
    | .error fault => .error fault
  | .union plain members =>
    match strippedAll env members with
    | .ok parts => env.rebuild (.union plain members) parts
    | .error fault => .error fault
  | _ => .ok none

/-- The same for each of some types, up to the first fault. -/
def strippedAll (env : Environment) :
    List Value → Except CodeFault (List (Value × Option Value))
  | [] => .ok []
  | value :: rest =>
    match stripped env value with
    | .error fault => .error fault
    | .ok changed =>
      match strippedAll env rest with
      | .error fault => .error fault
      | .ok rest => .ok ((value, changed) :: rest)

end

/-- The type without remarks. -/
def strip (env : Environment) (type : Value) : Except CodeFault Value :=
  (env.stripped type).map fun changed => changed.getD type

end Environment

namespace Eval

/-- An argument of a collection, where a string is to be read as a type. -/
def asReference (value : Value) : Except CodeFault Value :=
  match value with
  | .constant (.text source) => (Value.text source).asType false
  | value => .ok value

mutual

/-- What the type becomes with an action in place of each string that is to be read as a type, where
nothing stands for the type as it is. A string in the brackets of a collection is one. The parts of
a type are handed out one by one, and a fault that ends an iteration leaves them as another one. -/
def mapForward (resolve : Text → Bool → Eval (Option Value)) : Value → Eval (Option Value)
  | .forward source allowsSpecial => resolve source allowsSpecial
  | .apply (.collection ref) arguments => do
    let read ← ofExcept (arguments.mapM asReference)
    let parts ← leavingStream (mapForwardAll resolve true arguments)
    let type := Value.apply (.collection ref) read
    match ← ofExcept ((← get).rebuild type (read.zip (parts.map Prod.snd))) with
    | some changed => return some changed
    | none => return some type
  | .apply head arguments => do
    let parts ← leavingStream (mapForwardAll resolve false arguments)
    ofExcept ((← get).rebuild (.apply head arguments) parts)
  | .remarked inner remarks => do
    let part ← leavingStream (mapForward resolve inner)
    ofExcept ((← get).rebuild (.remarked inner remarks) [(inner, part)])
  | .union plain members => do
    let parts ← leavingStream (mapForwardAll resolve false members)
    ofExcept ((← get).rebuild (.union plain members) parts)
  | _ => pure none

/-- The same for each of some types; among the arguments of a collection strings are to be read as
well. -/
def mapForwardAll (resolve : Text → Bool → Eval (Option Value)) (inCollection : Bool) :
    List Value → Eval (List (Value × Option Value))
  | [] => pure []
  | .constant (.text source) :: rest => do
    let changed ← if inCollection then resolve source false else pure none
    return (.text source, changed) :: (← mapForwardAll resolve inCollection rest)
  | value :: rest => do
    let changed ← mapForward resolve value
    return (value, changed) :: (← mapForwardAll resolve inCollection rest)

end

/-- What a string that is to be read as a type becomes. A string inside itself stays as it is. -/
def resolveText : Nat → List Text → Text → Bool → Eval (Option Value)
  | 0, _, _, _ => throw .endless
  | depth + 1, outer, source, allowsSpecial => do
    if source ∈ outer then return none
    else
      match Expression.read source with
      | .error fault => throw (.unreadable fault)
      | .ok e =>
        let value ← valueOf e
        let type ← ofExcept (value.check .reference allowsSpecial)
        return some ((← mapForward (resolveText depth (source :: outer)) type).getD type)

/-- The type of an annotation, with strings resolved: of a text that is to be read, or of another
value. -/
def resolve (written : Value) : Eval Value := do
  let type ← match written with
    | .constant .null => pure Value.nullClass
    | .constant (.text source) => ofExcept ((Value.text source).asType true)
    | value => pure value
  return (← mapForward (resolveText maxDepth []) type).getD type

end Eval

end QueryScaffold
