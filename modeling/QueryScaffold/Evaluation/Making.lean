import QueryScaffold.Evaluation.Binding
import QueryScaffold.Evaluation.Conversion
import QueryScaffold.Evaluation.Creation
import QueryScaffold.Evaluation.Method.Call

/-!
# Making instances

A class makes an instance in two steps: it makes the instance, and then it sets it up.

* `Eval.makeBuiltin`: the first step as built-in classes do it;
* `Eval.setUpBuiltin`: the second one;
* `Eval.instantiate`: what a call of a class gives.

The first maker among a class and those it inherits from decides. A built-in one hands the work over
to the class that fixes how instances are kept; any other one goes on to the next maker, which has to
be of that class. What a class that inherits from a built-in one makes is not told apart further.
-/

namespace QueryScaffold

namespace Environment

/-- The first maker of a class, and the class that it is from. -/
def makerOf (c : Class) : ClassRef × Maker :=
  (c.makers.head?).getD (.object, .builtin ClassRef.object.name)

/-- The class has its first maker from a class of its own kind. -/
def isMadeByNotice (c : Class) : Bool :=
  match makerOf c with
  | (_, .abstract _) => true
  | (_, .builtin _) => false

/-- The first class of those that fix how instances are kept, from a class on, that makes them as a
built-in one does; so many classes are looked at. -/
def keeperOf (env : Environment) : Nat → Class → Class
  | 0, c => c
  | count + 1, c =>
    if isMadeByNotice c then
      match c.body.base.bind env.class? with
      | some base => env.keeperOf count base
      | none => c
    else c

end Environment

namespace Eval

/-- Fails as a class that makes no instance. -/
def refuseMaking {α : Type} (fault : MakingFault) : Eval α :=
  throw (.making fault)

/-! ## Classes -/

/-- What stands for a class statement in a call of `type`: a name, the bases, and the attributes. -/
def createFrom (kind : Text) (name bases members : Value) (named : List (Text × Value)) :
    Eval Value := do
  let wrong {α : Type} (place : String) (wanted : Text) (value : Value) : Eval α := do
    refuseType (("type.__new__() argument " : Text) ++ (place : Text) ++ (" must be " : Text) ++
      wanted ++ (", not " : Text) ++ (← kindName value))
  match name, bases, members with
  | .constant (.text name), .tuple bases, .dictionary entries =>
    let env ← get
    if bases.any Value.standsForBases then
      refuseType "type() doesn't support MRO entry resolution; use types.new_class()"
    else
      match Class.kindOfBases (bases.map env.kindName) kind with
      | .error fault => throw (.creation fault)
      | .ok _ =>
        if named.isEmpty then
          let given : NameTable := entries.filterMap fun entry =>
            entry.1.text?.map fun name => (name, entry.2)
          let shown := given.filter fun member => member.1 ≠ ("__qualname__" : Text)
          let members := match (env.shared !env.isAnnotating).find? "__name__" with
            | some space => giveMissing "__module__" space shown
            | none => shown
          createClass { name, written := bases, bases, members }
        else
          refuseType (name ++ (".__init_subclass__() takes no keyword arguments" : Text))
  | .constant (.text _), .tuple _, members => wrong "3" "dict" members
  | .constant (.text _), bases, _ => wrong "2" "tuple" bases
  | name, _, _ => wrong "1" "str" name

/-- What a call of `type` gives: the class of a value, or a new class. -/
def callType (arguments : CallArguments) : Eval Value := do
  match arguments.places with
  | [value] =>
    if arguments.named.isEmpty then return .ofClass ((← get).classOf value)
    else refuseType "type() takes no keyword arguments"
  | [name, bases, members] => createFrom "type" name bases members arguments.named
  | _ => refuseType "type() takes 1 or 3 arguments"

/-! ## Iterations -/

/-- What a call of `enumerate` gives. -/
def makeNumbered (arguments : CallArguments) : Eval Value := do
  let known : List Text := ["iterable", "start"]
  let names := arguments.named.map Prod.fst
  if 2 < arguments.count then
    refuseType (("enumerate() takes at most 2 arguments" : Text) ++
      Arity.givenText arguments.count)
  else if arguments.count = 0 then
    refuseType "enumerate() missing required argument 'iterable'"
  else
    let isKnown (name : Text) : Bool :=
      (known.drop arguments.places.length).contains name &&
        (arguments.places ≠ [] || names.contains "iterable")
    match names.find? fun name => !isKnown name with
    | some name =>
      refuseType (("'" : Text) ++ name ++
        ("' is an invalid keyword argument for enumerate()" : Text))
    | none =>
      let given (place : Nat) (name : Text) : Option Value :=
        (arguments.places[place]?).or (NameTable.find? name arguments.named)
      let start ← match given 1 "start" with
        | some value => integerOf value
        | none => pure 0
      let source ← Interpreter.iterationOf ((given 0 "iterable").getD .null)
      iterator "enumerate" (.numbered source start)

/-- What a call of `reversed` gives. -/
def makeReversed (value : Value) : Eval Value := do
  let backwards (kind : Text) (items : List Value) : Eval Value :=
    iterator kind (.items items.reverse)
  match value with
  | .list items => backwards "list_reverseiterator" items
  | .dictionary entries | .proxy entries => backwards "dict_reversekeyiterator" (entries.map Prod.fst)
  | .view kind items =>
    backwards (if kind = ("dict_keys" : Text) then "dict_reversekeyiterator"
      else if kind = ("dict_values" : Text) then "dict_reversevalueiterator"
      else "dict_reverseitemiterator") items
  | .range _ _ _ => backwards "range_iterator" (value.items?.getD [])
  | .tuple _ | .constant (.text _) | .constant (.bytes _) =>
    backwards "reversed" (value.items?.getD [])
  | value =>
    refuseType (("'" : Text) ++ (← kindName value) ++ ("' object is not reversible" : Text))

/-- What a call of `zip` gives. -/
def makePaired (arguments : CallArguments) : Eval Value := do
  match arguments.named.find? fun entry => entry.1 ≠ ("strict" : Text) with
  | some (name, _) =>
    refuseType (("'" : Text) ++ name ++ ("' is an invalid keyword argument for zip()" : Text))
  | none =>
    let strict := arguments.named.any fun entry => entry.2.isTruthy
    let sources ← arguments.places.mapM Interpreter.iterationOf
    iterator "zip" (.paired sources strict)

/-- What a call of `map` gives. -/
def makeMapped (arguments : CallArguments) : Eval Value := do
  if arguments.named ≠ [] then refuseType "map() takes no keyword arguments"
  else
    match arguments.places with
    | function :: source :: sources =>
      let numbers ← (source :: sources).mapM Interpreter.iterationOf
      iterator "map" (.mapped function numbers)
    | _ => refuseType "map() must have at least two arguments."

/-- What a call of `filter` gives. -/
def makeChosen (function source : Value) : Eval Value := do
  iterator "filter" (.chosen function (← Interpreter.iterationOf source))

/-! ## Other built-in classes -/

/-- What `super` gives in front of a class. -/
def makeSuper (arguments : List (Option Value)) : Eval Value := do
  match first? arguments, second? arguments with
  | none, _ => refuse "RuntimeError" "super(): no arguments"
  | some (.ofClass ref), none =>
    return .other "super" (("<super: " : Text) ++ ref.display ++ (", NULL>" : Text))
  | some (.ofClass ref), some value =>
    let env ← get
    let isBelow (other : ClassRef) : Bool := (env.class? other).any (·.isA ref)
    if isBelow (env.classOf value) || value.class?.any isBelow then
      return .other "super" (("<super: " : Text) ++ ref.display ++ (", <" : Text) ++
        env.kindName value ++ (" object>>" : Text))
    else refuseType "super(type, obj): obj must be an instance or subtype of type"
  | some value, _ =>
    refuseType (("super() argument 1 must be a type, not " : Text) ++ (← argumentKind value))

/-- The arities of built-in classes. -/
def classArity? (name : Text) : Option Arity :=
  let isOf (names : List String) : Bool := (names.map Text.ofString).contains name
  if isOf ["bool", "float", "list", "tuple", "set", "frozenset"] then
    some (.between 0 (some 1))
  else if isOf ["int"] then some (.named ["", "base"] 0 2)
  else if isOf ["complex"] then some (.named ["real", "imag"] 0 2)
  else if isOf ["str"] then some (.named ["object", "encoding", "errors"] 0 3)
  else if isOf ["bytes", "bytearray"] then some (.named ["source", "encoding", "errors"] 0 3)
  else if isOf ["range", "slice"] then some (.between 1 (some 3))
  else if isOf ["reversed", "classmethod", "staticmethod"] then some (.between 1 (some 1))
  else if isOf ["filter"] then some (.between 2 (some 2))
  else if isOf ["memoryview"] then some (.named ["object"] 1 1)
  else if isOf ["module"] then some (.named ["name", "doc"] 1 2)
  else if isOf ["property"] then some (.named ["fget", "fset", "fdel", "doc"] 0 4)
  else if isOf ["function"] then
    some (.named ["code", "globals", "name", "argdefs", "closure"] 2 5)
  else none

/-- What a built-in class makes of arguments in the order of its parameters. -/
def makeFitted (run : Interpreter) (name : Text) (arguments : List (Option Value)) :
    Eval Value := do
  let is (other : String) : Bool := name = Text.ofString other
  let first := (first? arguments).getD .null
  let items : Eval (List Value) := match first? arguments with
    | some value => run.items value
    | none => pure []
  let shown (before after : Text) : Eval Value := do
    return .other name (before ++ first.display ++ after)
  if is "bool" then return .truth ((first? arguments).any Value.isTruthy)
  else if is "int" then integerFrom arguments
  else if is "float" then realFrom arguments
  else if is "complex" then complexFrom arguments
  else if is "str" then textFrom arguments
  else if is "bytes" then return .constant (.bytes (← bytesFrom run name arguments))
  else if is "bytearray" then
    return .buffer false (← bytesFrom run name arguments)
  else if is "list" then return .list (← items)
  else if is "tuple" then return .tuple (← items)
  else if is "set" || is "frozenset" then return .set (is "frozenset") (← members (← items))
  else if is "range" then rangeFrom arguments
  else if is "slice" then sliceFrom arguments
  else if is "reversed" then makeReversed first
  else if is "filter" then makeChosen first ((second? arguments).getD .null)
  else if is "memoryview" then
    match first.bytes? with
    | some content => return .buffer true content
    | none =>
      refuseType (("memoryview: a bytes-like object is required, not '" : Text) ++
        (← kindName first) ++ ("'" : Text))
  else if is "module" then
    match first with
    | .constant (.text _) => return .object 0 .module
    | value => refuseType (("module() argument 'name' must be str, not " : Text) ++
        (← argumentKind value))
  else if is "function" then
    refuseType (("function() argument 'code' must be code, not " : Text) ++ (← argumentKind first))
  else if is "classmethod" || is "staticmethod" then shown (("<" : Text) ++ name ++ ("(" : Text)) ")>"
  else return .other name (("<" : Text) ++ name ++ (" object>" : Text))

/-- The classes of values of which there is only one, with that value. -/
def lonelyValues : NameTable :=
  [("NoneType", .null), ("ellipsis", .constant .ellipsis), ("NotImplementedType", notImplemented)]

/-- What a built-in class makes of arguments, where exceptions are left out. -/
def makeBuiltin (run : Interpreter) (name : Text) (arguments : CallArguments) : Eval Value := do
  let is (other : String) : Bool := name = Text.ofString other
  match classArity? name, lonelyValues.find? name with
  | some arity, _ => makeFitted run name (← arguments.fitted arity name name)
  | none, some value =>
    if arguments.count = 0 then return value
    else
      refuseType ((if is "ellipsis" then ("EllipsisType" : Text) else name) ++
        (" takes no arguments" : Text))
  | none, none =>
    if is "dict" then return .dictionary (← updateAll run name [] arguments)
    else if is "type" then callType arguments
    else if is "enumerate" then makeNumbered arguments
    else if is "zip" then makePaired arguments
    else if is "map" then makeMapped arguments
    else if is "super" then
      makeSuper (← arguments.fitted (.between 0 (some 2)) "super" "super()")
    else refuseType (("cannot create '" : Text) ++ name ++ ("' instances" : Text))

/-- What the class of days says of arguments; days are not told apart. -/
def makeDate (arguments : CallArguments) : Eval Value := do
  let arguments ← arguments.fitted (.named ["year", "month", "day"] 0 3) "date" "date"
  let missing (name place : Text) : Eval Value :=
    refuseType (("function missing required argument '" : Text) ++ name ++ ("' (pos " : Text) ++
      place ++ (")" : Text))
  match first? arguments, second? arguments, third? arguments with
  | none, _, _ => missing "year" "1"
  | some year, none, _ =>
    let _ ← integerOf year
    missing "month" "2"
  | _, some _, none => missing "day" "3"
  | some _, some _, some _ => return .object 0 .date

/-! ## Exceptions -/

/-- The classes of exceptions that system errors with a number belong to. -/
def systemErrors : List (Int × Text) :=
  [(1, "PermissionError"), (2, "FileNotFoundError"), (3, "ProcessLookupError"),
    (4, "InterruptedError"), (10, "ChildProcessError"), (11, "BlockingIOError"),
    (13, "PermissionError"), (17, "FileExistsError"), (20, "NotADirectoryError"),
    (21, "IsADirectoryError"), (32, "BrokenPipeError"), (103, "ConnectionAbortedError"),
    (104, "ConnectionResetError"), (108, "BrokenPipeError"), (110, "TimeoutError"),
    (111, "ConnectionRefusedError"), (114, "BlockingIOError"), (115, "BlockingIOError")]

/-- The class of a system error with a number. -/
def systemClass (ref : ClassRef) (places : List Value) : ClassRef :=
  match decide (ref = .builtin "OSError"), places with
  | true, number :: _ :: _ =>
    match number.integer?.bind fun n => systemErrors.find? fun entry => entry.1 = n with
    | some (_, name) => .builtin name
    | none => ref
  | _, _ => ref

/-- Passes unless a value cannot be the list of exceptions of a group. -/
def checkGroup (c : Class) (items : List Value) : Eval Unit := do
  let env ← get
  let isOf (family : ClassRef) (value : Value) : Bool :=
    (env.class? (env.classOf value)).any (·.isA family)
  match items.findIdx? fun item => !isOf .exception item with
  | some place =>
    refuseValue (("Item " : Text) ++ Text.ofNat place ++
      (" of second argument (exceptions) is not an exception" : Text))
  | none =>
    if c.isA (.builtin "Exception") && items.any fun item => !isOf (.builtin "Exception") item then
      refuseType (("Cannot nest BaseExceptions in " : Text) ++
        (if c.ref = .builtin "ExceptionGroup" then ("an ExceptionGroup" : Text)
          else Text.quote c.name))
    else pure ()

/-- The group of exceptions that a class makes. -/
def makeGroup (c : Class) (places : List Value) : Eval Value := do
  match places with
  | [message, exceptions] =>
    match message, exceptions.items? with
    | .constant (.text _), some items =>
      if items.isEmpty then
        refuseValue "second argument (exceptions) must be a non-empty sequence"
      else
        checkGroup c items
        return .exception (← newNumber) c.ref places [("message", message), ("exceptions", .tuple items)]
    | .constant (.text _), none => refuseType "second argument (exceptions) must be a sequence"
    | message, _ =>
      refuseType (("BaseExceptionGroup.__new__() argument 1 must be str, not " : Text) ++
        (← argumentKind message))
  | places =>
    refuseType (("BaseExceptionGroup.__new__() takes exactly 2 arguments" : Text) ++
      Arity.givenText places.length)

/-- The parts of a system error, and what it keeps besides them. -/
def systemParts (className : Text) (places : List Value) : List Value × NameTable :=
  match places with
  | number :: reason :: rest =>
    if 3 < rest.length then (places, [])
    else
      let parts : NameTable := [("errno", number), ("strerror", reason)]
      match rest with
      | [] => (places, parts)
      | file :: more =>
        if file.isNull then (places, parts)
        else if className = ("BlockingIOError" : Text) && file.integer?.isSome then
          (places, NameTable.set "characters_written" file parts)
        else
          let named := NameTable.set "filename" file parts
          ([number, reason], NameTable.set "filename2" ((more[1]?).getD .null) named)
  | places => (places, [])

/-- The exception that a class makes. -/
def makeException (c : Class) (maker : Text) (arguments : CallArguments) : Eval Value := do
  let isOwn := match c.initializer? with
    | some (_, .call _) => true
    | _ => false
  if maker = ("BaseExceptionGroup" : Text) then makeGroup c arguments.places
  else if maker = ("OSError" : Text) then
    if isOwn then return .exception (← newNumber) c.ref [] []
    else if arguments.named ≠ [] then
      refuseType (c.name ++ ("() takes no keyword arguments" : Text))
    else
      let ref := systemClass c.ref arguments.places
      let (kept, parts) := systemParts ref.name arguments.places
      return .exception (← newNumber) ref kept parts
  else return .exception (← newNumber) c.ref arguments.places []

/-- The parts that an exception has from the arguments that set it up. -/
def partsFrom (run : Interpreter) (family : Text) (arguments : CallArguments) :
    Eval NameTable := do
  let is (other : String) : Bool := (exceptionAncestry family).contains (Text.ofString other)
  let places := arguments.places
  let only : Value := match places with
    | [argument] => argument
    | _ => .null
  let message : NameTable := if is "ImportError" then [("msg", only)] else []
  if is "SyntaxError" then
    let details ← match places with
      | [_, details] => run.items details
      | _ => pure []
    let fields := (exceptionFields ["SyntaxError"]).drop 1
    return ("msg", places.headD .null) :: fields.zip details
  else if is "StopIteration" then return [("value", places.headD .null)]
  else if is "SystemExit" then
    return [("code", if 1 < places.length then .tuple places else only)]
  else if is "UnicodeDecodeError" || is "UnicodeEncodeError" then
    return (["encoding", "object", "start", "end", "reason"] : List Text).zip places
  else if is "UnicodeTranslateError" then
    return (["object", "start", "end", "reason"] : List Text).zip places
  else return message ++ arguments.named

/-- The names by which a class of exceptions takes arguments, behind the class that takes them. -/
def exceptionNames (family : Text) : Text × List Text :=
  match (exceptionAncestry family).findSome? fun name =>
    if name = ("ImportError" : Text) then some (name, (["name", "path"] : List Text))
    else if name = ("AttributeError" : Text) then some (name, ["name", "obj"])
    else if name = ("NameError" : Text) then some (name, ["name"])
    else none with
  | some found => found
  | none => (family, [])

/-- The number of arguments that a class of exceptions takes, if it takes a certain one. -/
def exceptionCount? (family : Text) : Option Nat :=
  if family = ("UnicodeDecodeError" : Text) || family = ("UnicodeEncodeError" : Text) then some 5
  else if family = ("UnicodeTranslateError" : Text) then some 4
  else none

/-- Passes unless the arguments of an error in the encoding of a text are of wrong kinds. -/
def checkUnits (family : Text) (places : List Value) : Eval Unit := do
  let isText (place : Nat) : Bool :=
    place = 4 || (if family = ("UnicodeTranslateError" : Text) then place = 0 || place = 3
      else place = 0 || (place = 1 && family = ("UnicodeEncodeError" : Text)))
  let check (entry : Value × Nat) : Eval Unit := do
    let (value, place) := entry
    if isText place then
      let _ ← argumentText (("argument " : Text) ++ Text.ofNat (place + 1)) value
    else if place = 1 && family = ("UnicodeDecodeError" : Text) then
      match value with
      | .constant (.bytes _) => pure ()
      | value =>
        refuseType (("a bytes-like object is required, not '" : Text) ++ (← kindName value) ++
          ("'" : Text))
    else
      let _ ← integerOf value
  places.zipIdx.forM check

/-- Passes unless a class of exceptions refuses to set an instance up from arguments. -/
def checkException (run : Interpreter) (c : Class) (family : Text) (arguments : CallArguments) :
    Eval Unit := do
  let (taker, known) := exceptionNames family
  match arguments.named.find? fun entry => !known.contains entry.1, exceptionCount? family with
  | some (name, _), _ =>
    if known.isEmpty then refuseType (c.name ++ ("() takes no keyword arguments" : Text))
    else
      refuseType (("'" : Text) ++ name ++ ("' is an invalid keyword argument for " : Text) ++
        taker ++ ("()" : Text))
  | none, some count =>
    if arguments.places.length = count then checkUnits family arguments.places
    else
      refuseType (("function takes exactly " : Text) ++ Arity.boundText count ++
        Arity.givenText arguments.places.length)
  | none, none =>
    match (exceptionAncestry family).contains "SyntaxError", arguments.places with
    | true, [_, details] =>
      let given := (← run.items details).length
      if given < 4 then
        refuseType (("function takes at least 4 arguments" : Text) ++ Arity.givenText given)
      else if 6 < given then
        refuseType (("function takes at most 6 arguments" : Text) ++ Arity.givenText given)
      else pure ()
    | _, _ => pure ()

/-! ## The two steps -/

/-- Passes unless `object` refuses to make an instance; `handedOver` tells whether another maker has
gone on to it. -/
def checkObject (c : Class) (handedOver : Bool) (arguments : CallArguments) : Eval Unit :=
  if arguments.count ≠ 0 && handedOver then refuseMaking .handedOver
  else if arguments.count ≠ 0 && c.initializer?.isNone then
    refuseMaking (.takesNothing c.name)
  else if c.missingMethods.isEmpty then pure ()
  else refuseMaking (.abstract c.name c.missingMethods)

/-- The instance that a built-in maker makes for a class. -/
def makeNative (run : Interpreter) (c : Class) (maker : Text) (handedOver : Bool)
    (arguments : CallArguments) : Eval Value := do
  let isItself := c.ref = .builtin maker
  if maker = ClassRef.object.name then
    checkObject c handedOver arguments
    newObject c.ref
  else if (exceptionAncestry maker).length ≠ 0 then makeException c maker arguments
  else if maker = ClassRef.date.name && !isItself && c.isA .date then
    let value ← makeDate arguments
    if c.ref = .date then return value else newObject c.ref
  else if isItself then makeBuiltin run maker arguments
  else if maker = ("type" : Text) then
    refuseType (("type.__new__() takes exactly 3 arguments" : Text) ++
      Arity.givenText arguments.count)
  else if settingUp.contains maker then newObject c.ref
  else
    let _ ← makeBuiltin run maker arguments
    newObject c.ref

/-- The instance that a class makes, before it is set up. -/
def make (run : Interpreter) (c : Class) (arguments : CallArguments) : Eval Value := do
  let env ← get
  match Environment.makerOf c with
  | (_, .builtin _) => makeNative run c c.nativeMaker.2 false arguments
  | (owner, .abstract notice) =>
    if owner = c.ref then refuseMaking (.refused notice)
    else
      let keeper := env.keeperOf c.lineage.length c
      match (c.makers.drop 1).headD (.object, .builtin ClassRef.object.name) with
      | (_, .abstract notice) => refuseMaking (.refused notice)
      | (ref, .builtin maker) =>
        if maker ≠ keeper.nativeMaker.2 then
          refuseMaking (.foreignMaker ref.name c.name keeper.name)
        else makeNative run c maker true arguments

/-- The places of values among limits of a type variable. -/
def typeVariableSignature : Signature :=
  [(⟨.plain, "self"⟩, none), (⟨.plain, "name"⟩, none), (⟨.rest, "constraints"⟩, none),
    (⟨.byName, "bound"⟩, some .null), (⟨.byName, "covariant"⟩, some (.truth false)),
    (⟨.byName, "contravariant"⟩, some (.truth false))]

/-- The type variable that arguments make. -/
def makeTypeVariable (self : Value) (arguments : CallArguments) : Eval Value := do
  let given ← bindAll "TypeVar.__init__" typeVariableSignature
    { arguments with places := self :: arguments.places }
  let holds (name : Text) : Bool := (given.find? name).any Value.isTruthy
  let limits := ((given.find? "constraints").bind Value.items?).getD []
  let bound := (given.find? "bound").getD .null
  if holds "covariant" && holds "contravariant" then
    refuseValue "Bivariant types are not supported."
  else
    if bound.isTruthy then
      let _ ← ofExcept (bound.check .bound false)
    if limits ≠ [] && !bound.isNull then
      refuseType "Constraints cannot be combined with bound=..."
    else if limits.length = 1 then
      refuseMaking (.refused "A single constraint is not allowed")
    else
      let _ ← ofExcept (Value.checkAll .limit limits)
      return .variable ((given.find? "name").getD .null).plainText

/-- Sets an instance up as a built-in class does it. -/
def setUpBuiltin (run : Interpreter) (c : Class) (name : Text) (self : Value)
    (arguments : CallArguments) : Eval Value := do
  if name = ClassRef.typeVariable.name then makeTypeVariable self arguments
  else if (exceptionAncestry name).length ≠ 0 then
    checkException run c name arguments
    match self with
    | .exception number ref kept parts =>
      return .exception number ref (if kept.isEmpty then arguments.places else kept)
        (parts ++ (← partsFrom run name arguments))
    | self => return self
  else if c.ref = .builtin name then return self
  else if name = ("super" : Text) then
    match arguments.places with
    | [] => refuse "RuntimeError" "super(): no arguments"
    | .ofClass _ :: _ => return self
    | value :: _ =>
      refuseType (("super() argument 1 must be a type, not " : Text) ++ (← argumentKind value))
  else
    let _ ← makeBuiltin run name arguments
    return self

/-- Sets an instance of a class up. -/
def setUp (run : Interpreter) (place : Place) (c : Class) (self : Value)
    (arguments : CallArguments) : Eval Value := do
  match c.initializer? with
  | none => return self
  | some (_, .builtin name) => setUpBuiltin run c name self arguments
  | some (_, .call function) =>
    let result ← run.call place function { arguments with places := self :: arguments.places }
    if result.isNull then return self
    else
      refuseType (("__init__() should return None, not '" : Text) ++ (← kindName result) ++
        ("'" : Text))

/-- What a call of a class gives of which nothing more is known. -/
def instantiateUnknown (ref : ClassRef) (arguments : CallArguments) : Eval Value := do
  match lonelyValues.find? ref.name, arguments.places with
  | some value, [] => return value
  | some _, _ => refuseType (ref.name ++ (" takes no arguments" : Text))
  | none, [name, bases, members] =>
    if Class.isKindOf ref.name Metaclass.type.name then
      createFrom ref.name name bases members arguments.named
    else newObject ref
  | none, _ =>
    if ref.isBuiltin || ref.codeNamespace = ("types" : Text) then
      refuseType (("cannot create '" : Text) ++ ref.label ++ ("' instances" : Text))
    else newObject ref

/-- What a call of a class gives. -/
def instantiate (run : Interpreter) (place : Place) (ref : ClassRef) (arguments : CallArguments) :
    Eval Value := do
  match (← get).class? ref with
  | none => instantiateUnknown ref arguments
  | some c =>
    let self ← make run c arguments
    match self with
    | .object _ _ | .exception _ _ _ _ => setUp run place c self arguments
    | self => return self

end Eval

end QueryScaffold
