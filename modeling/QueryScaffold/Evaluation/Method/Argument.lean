import QueryScaffold.Class.Member
import QueryScaffold.Evaluation.Operation

/-!
# Arguments of built-in functions

* `CallArguments.fitted`: arguments in the order of the parameters of a built-in function;
* `Eval.integerOf`, `Eval.countOf`, `Eval.textOf`, `Eval.argumentText`: an argument of a kind;
* `Outcome`: what a function of a value gives, and what becomes of the value.
-/

namespace QueryScaffold

/-- What a function of a value gives, and the value in its changed form if it changes. -/
structure Outcome where
  result : Value
  changed : Option Value := none

namespace CallArguments

/-- The arguments in the order of a function's parameters, as far as they are given. -/
def inOrder (arity : Arity) (arguments : CallArguments) : List (Option Value) :=
  match arity with
  | .named names _ _ =>
    arguments.places.map some ++ (names.drop arguments.places.length).map fun name =>
      NameTable.find? name arguments.named
  | _ => arguments.places.map some

/-- The arguments in the order of a function's parameters, unless they do not fit. -/
def fitted (arguments : CallArguments) (arity : Arity) (full short : Text) :
    Eval (List (Option Value)) :=
  match arity.fault? full short arguments.places.length (arguments.named.map Prod.fst) with
  | some notice => Eval.refuseType notice
  | none => pure (arguments.inOrder arity)

end CallArguments

namespace Eval

/-- The integer that an argument counts as. -/
def integerOf (value : Value) : Eval Int := do
  match value.integer? with
  | some n => return n
  | none =>
    refuseType (("'" : Text) ++ (← kindName value) ++
      ("' object cannot be interpreted as an integer" : Text))

/-- The integer that an argument counts as where a machine number is needed. -/
def countOf (value : Value) : Eval Int := do
  let n ← integerOf value
  if Environment.isNoPlace n then
    refuse "OverflowError" "Python int too large to convert to C ssize_t"
  else return n

/-- The integer of an argument that may be missing. -/
def countOr (usual : Int) : Option Value → Eval Int
  | some value => countOf value
  | none => pure usual

/-- The text that an argument is; what is said of others ends with their kind. -/
def textOf (notice : Text) (value : Value) : Eval Text := do
  match value with
  | .constant (.text t) => return t
  | value => refuseType (notice ++ (← kindName value))

/-- The kind of an argument in words on it. -/
def argumentKind (value : Value) : Eval Text :=
  match value with
  | .constant .null => pure "None"
  | value => kindName value

/-- The text that an argument is, which has a name in words. -/
def argumentText (name : Text) (value : Value) : Eval Text := do
  match value with
  | .constant (.text t) => return t
  | value =>
    refuseType (name ++ (" must be str, not " : Text) ++ (← argumentKind value))

/-- A bound among so many items that an argument gives, where one may be missing. -/
def boundOf (length : Nat) (usual : Int) (bound : Option Value) : Eval Nat := do
  match bound.getD .null with
  | .constant .null => return (Environment.placeOf length 0 length usual).toNat
  | value =>
    match value.integer? with
    | some n => return (Environment.placeOf length 0 length n).toNat
    | none => throw .badBound

/-- Two arguments of which one may be missing. -/
def second? (arguments : List (Option Value)) : Option Value := (arguments[1]?).join

/-- The third argument, if it is given. -/
def third? (arguments : List (Option Value)) : Option Value := (arguments[2]?).join

/-- The first argument, if it is given. -/
def first? (arguments : List (Option Value)) : Option Value := (arguments[0]?).join

end Eval

end QueryScaffold
