import QueryScaffold.Evaluation.Method.Collection
import QueryScaffold.Evaluation.Method.Number
import QueryScaffold.Evaluation.Method.Text

/-!
# Calling the functions of values

* `Eval.callMethod`: what a call of a function of a value gives, and the value as it is afterwards;
* `Eval.reservedMethod`: the same for the functions kept for the language, which stand for operators.

A function of a class's instances that is asked of the class takes the instance as its first
argument.
-/

namespace QueryScaffold

namespace Eval

/-- What stands for an operator that a value does not have. -/
def notImplemented : Value := .other "NotImplementedType" "NotImplemented"

/-- The operators that functions stand for; a marked one has its operands in the opposite order. -/
def operatorFunctions : List (Text × Operator × Bool) :=
  List.map (fun (name, operator, isReflected) => (Text.ofString name, operator, isReflected))
    [("__add__", .plus, false), ("__radd__", .plus, true), ("__sub__", .minus, false),
      ("__rsub__", .minus, true), ("__mul__", .times, false), ("__rmul__", .times, true),
      ("__truediv__", .over, false), ("__rtruediv__", .over, true),
      ("__floordiv__", .wholeOver, false), ("__rfloordiv__", .wholeOver, true),
      ("__mod__", .modulo, false), ("__rmod__", .modulo, true), ("__pow__", .power, false),
      ("__rpow__", .power, true), ("__and__", .ampersand, false), ("__rand__", .ampersand, true),
      ("__or__", .bar, false), ("__ror__", .bar, true), ("__xor__", .caret, false),
      ("__rxor__", .caret, true), ("__lshift__", .shiftLeft, false),
      ("__rlshift__", .shiftLeft, true), ("__rshift__", .shiftRight, false),
      ("__rrshift__", .shiftRight, true), ("__lt__", .less, false), ("__le__", .atMost, false),
      ("__gt__", .greater, false), ("__ge__", .atLeast, false), ("__eq__", .equal, false),
      ("__ne__", .different, false)]

/-- An operation, where operands that it does not fit give a value that says so. -/
def attempt (operation : Eval Value) : Eval Value :=
  tryCatch operation fun fault =>
    match fault with
    | .noOperation _ _ _ => pure notImplemented
    | fault => throw fault

/-- Passes if there are so many arguments. -/
def checkCount (count : Nat) (arguments : CallArguments) : Eval Unit :=
  let given := arguments.places.length
  if given = count then pure ()
  else
    refuseType (("expected " : Text) ++ Arity.boundText count ++ (", got " : Text) ++
      Text.ofNat given)

/-- The two values are of kinds that are compared with one another. -/
def areComparable (a b : Value) : Bool :=
  match a, b with
  | .constant a, .constant b =>
    a.kindName = b.kindName ||
      ((Numeric.ofConstant? a).isSome && (Numeric.ofConstant? b).isSome)
  | .tuple _, .tuple _ | .list _, .list _ | .dictionary _, .dictionary _
  | .range _ _ _, .range _ _ _ => true
  | a, b => (a.membersOfSet?.isSome && b.membersOfSet?.isSome) || a.same b

/-- What a value gives for a function that is kept for the language. -/
def reservedMethod (run : Interpreter) (place : Place) (owner : Value) (name : Text)
    (arguments : CallArguments) : Eval Value := do
  let is (other : String) : Bool := name = Text.ofString other
  let first := arguments.places.headD .null
  match operatorFunctions.find? fun entry => entry.1 = name with
  | some (_, operator, isReflected) =>
    checkCount 1 arguments
    if (operator = .equal || operator = .different) && !areComparable owner first then
      return notImplemented
    else
      attempt (if isReflected then operate run operator first owner
        else operate run operator owner first)
  | none =>
    if is "__str__" then return .text (← plainText owner)
    else if is "__repr__" then return .text (← display owner)
    else if is "__format__" then
      checkCount 1 arguments
      return .text (← format owner (← argumentText "__format__() argument" first))
    else if is "__len__" then return .integer ((owner.items?.getD []).length)
    else if is "__bool__" then return .truth owner.isTruthy
    else if is "__contains__" then
      checkCount 1 arguments
      return .truth (← run.isAmong first owner)
    else if is "__getitem__" || is "__class_getitem__" then
      checkCount 1 arguments
      let env ← get
      let head := match owner, is "__class_getitem__" with
        | .ofClass ref, _ => Value.ofClass ref
        | owner, true => .ofClass (env.classOf owner)
        | owner, false => owner
      ofExcept (env.subscript head first)
    else if is "__iter__" then Interpreter.iterate owner
    else if is "__next__" then
      match owner with
      | .iterator _ number =>
        match ← run.next number with
        | some item => return item
        | none => refuse "StopIteration" []
      | _ => return .null
    else if is "__call__" then run.call place owner arguments
    else if is "__neg__" then applySign .minus owner
    else if is "__pos__" then applySign .plus owner
    else if is "__invert__" then applySign .tilde owner
    else if is "__abs__" then
      match owner with
      | .constant (.real x) => return .constant (.real x.unsigned)
      | owner => return .integer ((owner.integer?.getD 0).natAbs)
    else if is "__int__" || is "__index__" || is "__trunc__" || is "__floor__" || is "__ceil__" then
      match owner with
      | .constant (.real x) =>
        return .integer (if is "__ceil__" then -(x.negated.floor)
          else if is "__floor__" || !x.hasSign then x.floor else -(x.negated.floor))
      | owner => return .integer (owner.integer?.getD 0)
    else if is "__getattribute__" then
      checkCount 1 arguments
      part owner (first.text?.getD [])
    else if is "__dir__" then return .list []
    else if is "__sizeof__" then return .integer 0
    else if is "__hash__" then
      checkFixed owner
      return .integer (owner.integer?.getD 0)
    else if is "__instancecheck__" then
      checkCount 1 arguments
      match owner with
      | .ofClass ref => return .truth (((← get).class? ((← get).classOf first)).any (·.isA ref))
      | _ => return .truth false
    else if is "__subclasscheck__" then
      checkCount 1 arguments
      match owner, first with
      | .ofClass ref, .ofClass other => return .truth (((← get).class? other).any (·.isA ref))
      | _, _ => refuseType "issubclass() arg 1 must be a class"
    else return .null

/-- A function belongs to a built-in class itself. -/
def ownFunction? (className name : Text) : Bool :=
  ownFunctions.contains (className, name)

/-- What a function of a stream of items gives. -/
def generatorMethod (run : Interpreter) (place : Place) (number : Nat) (name : Text)
    (first : Value) : Eval Value := do
  let stop : Eval Unit := modify fun env =>
    { env with iterations := env.iterations.setIfInBounds number (.items []) }
  if name = ("send" : Text) then
    match ← run.next number with
    | some item => return item
    | none => refuse "StopIteration" []
  else if name = ("close" : Text) then
    stop
    return .null
  else
    stop
    tryCatch (raiseValue run place first) fun fault => do
      match fault with
      | .notException =>
        refuseType (("exceptions must be classes or instances deriving from BaseException, not " :
          Text) ++ (← kindName first))
      | .raised failure => throw (.raised failure.leavingScope)
      | fault => throw fault

/-- What a function of an exception gives. -/
def exceptionMethod (owner : Value) (name : Text) (first : Value) : Eval Value := do
  if name = ("with_traceback" : Text) then
    if first.isNull then return owner
    else refuseType "__traceback__ must be a traceback or None"
  else
    match first with
    | .constant (.text _) => return .null
    | note =>
      refuseType (("note must be a str, not '" : Text) ++ (← kindName note) ++ ("'" : Text))

/-- What a function that an instance of a built-in class has gives. -/
def instanceMethod (run : Interpreter) (place : Place) (owner : Value) (name : Text)
    (given : CallArguments) (arguments : List (Option Value)) : Eval Outcome := do
  let first := (first? arguments).getD .null
  let plain (value : Eval Value) : Eval Outcome := do return { result := ← value }
  match owner with
  | .constant (.text t) => plain (textMethod run t name given arguments)
  | .constant (.bytes content) => plain (bytesMethod run content name arguments)
  | .buffer false content =>
    plain (do return asBuffer (← bytesMethod run content name arguments))
  | .buffer true content => plain (pure (viewMethod content name))
  | .constant (.real x) => plain (realMethod x name)
  | .constant (.complex re im) => plain (pure (.constant (.complex re im.negated)))
  | .constant c => plain (integerMethod run ((c.integer?).getD 0) name arguments)
  | .list items => listMethod run place items name arguments
  | .tuple items =>
    if name = ("count" : Text) then plain (return .integer (← countOfItem first items))
    else plain (indexOf "tuple" items arguments)
  | .set isFrozen items => setMethod run isFrozen items name arguments
  | .dictionary entries | .proxy entries => dictionaryMethod run entries name given arguments
  | .range start stop step => plain (rangeMethod start stop step name first)
  | .slice start stop step => plain (sliceIndices start stop step first)
  | .view _ items =>
    plain (do return .truth (keep true (← memberItems run first) items).isEmpty)
  | .iterator _ number => plain (generatorMethod run place number name first)
  | .exception _ _ _ _ => plain (exceptionMethod owner name first)
  | _ => return { result := .null }

/-- What a function gives that a value has under a name. -/
def valueMethod (run : Interpreter) (place : Place) (owner : Value) (name : Text)
    (arguments : CallArguments) : Eval Outcome := do
  let env ← get
  let kind : Text := match owner with
    | .exception _ ref _ _ =>
      if ((env.class? ref).bind fun c => c.member? name).isSome then ref.name else "BaseException"
    | owner => env.kindName owner
  match methodArity? kind name with
  | some arity =>
    let fitted ← arguments.fitted arity (kind ++ ("." : Text) ++ name) name
    instanceMethod run place owner name arguments fitted
  | none =>
    match owner, isReservedPart name with
    | owner, true => return { result := ← reservedMethod run place owner name arguments }
    | .object _ ref, false | .exception _ ref _ _, false =>
      match ((← get).class? ref).bind fun c => c.member? name with
      | some function =>
        return { result :=
          ← run.call place function { arguments with places := owner :: arguments.places } }
      | none => return { result := .null }
    | _, false => return { result := .null }

/-- The functions that are asked of a class itself. -/
def classFunctions : List Text :=
  namesIn ["__call__ __subclasses__ __instancecheck__ __subclasscheck__ __class_getitem__"]

/-- What a function of a class's instances gives that is asked of the class. -/
def unboundMethod (run : Interpreter) (place : Place) (c : Class) (name : Text)
    (arguments : CallArguments) : Eval Outcome := do
  match arguments.places with
  | [] =>
    refuseType (if isReservedPart name then
        ("descriptor '" : Text) ++ name ++ ("' of '" : Text) ++ c.name ++
          ("' object needs an argument" : Text)
      else ("unbound method " : Text) ++ c.name ++ ("." : Text) ++ name ++
        ("() needs an argument" : Text))
  | self :: rest =>
    let env ← get
    let fits := (env.class? (env.classOf self)).any fun own => own.isA c.ref
    if fits || c.ref = .object then
      valueMethod run place self name { arguments with places := rest }
    else
      refuseType (("descriptor '" : Text) ++ name ++
        (if isReservedPart name then
          ("' requires a '" : Text) ++ c.name ++ ("' object but received a '" : Text) ++
            env.kindName self ++ ("'" : Text)
        else ("' for '" : Text) ++ c.name ++ ("' objects doesn't apply to a '" : Text) ++
          env.kindName self ++ ("' object" : Text)))

/-- What a function of a class's instances gives, where the class is known by its identity. -/
def callUnbound (run : Interpreter) (place : Place) (owner : ClassRef) (name : Text)
    (arguments : CallArguments) : Eval Outcome := do
  match (← get).class? owner with
  | some c => unboundMethod run place c name arguments
  | none => return { result := .null }

/-- What a function of a class gives. -/
def classMethod (run : Interpreter) (place : Place) (ref : ClassRef) (name : Text)
    (arguments : CallArguments) : Eval Outcome := do
  let env ← get
  match env.class? ref with
  | none => return { result := ← reservedMethod run place (.ofClass ref) name arguments }
  | some c =>
    let hasOperator := (operatorFunctions.find? fun entry => entry.1 = name).isSome &&
      (reservedNamesOf ref.name).contains name && ref.isBuiltin
    if name = ("mro" : Text) && ref ≠ .type then
      let _ ← arguments.fitted .nothing (ref.name ++ (".mro" : Text)) name
      return { result := .list (c.lineage.map fun body => .ofClass body.ref) }
    else if name = ("__subclasses__" : Text) then
      return { result := .list ((env.subclasses ref).map Value.ofClass) }
    else if ownFunction? ref.name name then
      let arity := (methodArity? ref.name name).getD .free
      let fitted ← arguments.fitted arity (ref.name ++ ("." : Text) ++ name) name
      if name = ("fromkeys" : Text) then return { result := ← fromKeys run fitted }
      else if name = ("from_bytes" : Text) then return { result := ← integerOfBytes run fitted }
      else if name = ("maketrans" : Text) then return { result := ← translation fitted }
      else if name = ("fromhex" : Text) then
        if ref.name = ("float" : Text) then return { result := ← realOfDigits fitted }
        else
          let content ← bytesOfDigits fitted
          return { result :=
            if ref.name = ("bytes" : Text) then .constant (.bytes content)
            else .buffer false content }
      else return { result := .null }
    else if classFunctions.contains name ||
        ((name = ("__or__" : Text) || name = ("__ror__" : Text)) && !hasOperator) then
      return { result := ← reservedMethod run place (.ofClass ref) name arguments }
    else if ref = .type && name = ("mro" : Text) then
      match arguments.places with
      | [.ofClass other] =>
        return { result := .list (((env.class? other).map Class.lineage).getD [] |>.map
          fun body => .ofClass body.ref) }
      | _ => refuseType "unbound method type.mro() needs an argument"
    else unboundMethod run place c name arguments

/-- What a call of a function of a value gives. -/
def callMethod (run : Interpreter) (place : Place) (owner : Value) (name : Text)
    (arguments : CallArguments) : Eval Outcome :=
  match owner with
  | .ofClass ref => classMethod run place ref name arguments
  | owner => valueMethod run place owner name arguments

end Eval

end QueryScaffold
