import QueryScaffold.Evaluation.Interpreter

/-!
# Exceptions of code

* `Environment.raisedAs`: the exception on its way that an instance is;
* `Eval.raiseValue`: raises a value.

What an exception says depends on the nearest of its classes that has a way of its own.
-/

namespace QueryScaffold

namespace Environment

/-- The exception that an instance of a class is which keeps some arguments. -/
def raisedAs (env : Environment) (ref : ClassRef) (arguments : List Value) (parts : NameTable) :
    Raised :=
  match env.class? ref with
  | none => .ofKind ref.name (exceptionText "BaseException" arguments parts)
  | some c =>
    let ancestry := c.builtinAncestry
    let family := (ancestry.find? exceptionsWithText.contains).getD "BaseException"
    ⟨c.name, ancestry.filter (· ≠ ClassRef.object.name), exceptionText family arguments parts⟩

end Environment

namespace Eval

/-- Raises a value: an exception, or an instance of a class of exceptions. -/
def raiseValue {α : Type} (run : Interpreter) (place : Place) (value : Value) : Eval α := do
  let env ← get
  match value with
  | .exception _ ref arguments parts => throw (.raised (env.raisedAs ref arguments parts))
  | .ofClass ref =>
    if (env.class? ref).any (·.isA .exception) then
      match ← run.call place (.ofClass ref) {} with
      | .exception _ ref arguments parts =>
        throw (.raised ((← get).raisedAs ref arguments parts))
      | _ => throw .notException
    else throw .notException
  | _ => throw .notException

end Eval

end QueryScaffold
