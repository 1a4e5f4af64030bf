import QueryScaffold.Evaluation.Making

/-!
# Built-in functions

* `Eval.callBuiltin`: what a call of a built-in function gives;
* `Eval.isInstance`, `Eval.isSubclass`: the tests of classes;
* `Environment.isCallable`: a value can be called.

What depends on where a program runs, such as the number of a value, is not told apart.
-/

namespace QueryScaffold

namespace Environment

/-- A value can be called. -/
def isCallable (env : Environment) : Value → Bool
  | .ofClass _ | .form _ | .function _ _ _ | .builtinFunction _ | .closure _ | .method _ _ => true
  | .unbound _ _ _ => true
  | .apply _ _ | .remarked _ _ | .union false _ => true
  | .other kind _ => (namesIn ["Quitter _Helper _Printer staticmethod"]).contains kind
  | .object _ ref => ((env.class? ref).bind fun c => c.member? "__call__").isSome
  | _ => false

/-- The names that the code at a place sees without those of anything around it. -/
def namesAround (env : Environment) (isHome : Bool) : NameTable := env.shared isHome

/-- The names that the code at a place gives to values itself. -/
def namesHere (env : Environment) (place : Place) : NameTable :=
  match (place.frames.head?).bind fun number => env.frames[number]? with
  | some frame => frame.names
  | none =>
    match env.level with
    | .classBody names => names
    | _ => env.names

end Environment

namespace Eval

/-- The dictionary of names with what they stand for. -/
def dictionaryOf (names : NameTable) : Value :=
  .dictionary (names.map fun entry => (.text entry.1, entry.2))

/-- The names of a dictionary with what they stand for. -/
def namesOf (entries : List (Value × Value)) : NameTable :=
  entries.filterMap fun entry => entry.1.text?.map fun name => (name, entry.2)

/-! ## Tests of classes -/

/-- Values that belong to a class of collections without inheriting from it. -/
def belongsByParts? (name : Text) (kind : ClassRef) : Option Bool :=
  let isOf (names : List String) : Bool := (names.map Text.ofString).contains kind.name
  let isIterator : Bool := ("iterator" : Text).isSuffixOf kind.name ||
    isOf ["generator", "map", "filter", "zip", "enumerate", "reversed"]
  let isSequence := isOf ["list", "tuple", "str", "bytes", "bytearray", "range", "memoryview"]
  let isSized := isOf ["set", "frozenset", "dict", "dict_keys", "dict_values", "dict_items"]
  if !kind.isBuiltin then none
  else if name = ("Iterator" : Text) then some isIterator
  else if name = ("Sequence" : Text) then some isSequence
  else if name = ("Iterable" : Text) then some (isIterator || isSequence || isSized)
  else none

/-- A class is another one, inherits from it or belongs to it by its parts. -/
def isBelow (env : Environment) (ref other : ClassRef) : Bool :=
  ref = other || other = .object || (env.class? ref).any (·.isA other) ||
    (other = .abstractCollection other.name && (belongsByParts? other.name ref).getD false)

mutual

/-- A class is below what a test of classes names; `notice` says what such a test asks for. -/
def isBelowAny (env : Environment) (notice generic : Text) (ref : ClassRef) (display : Text) :
    Value → Except CodeFault Bool
  | .ofClass other =>
    if other = .any then .error (.refused "TypeError" ("typing.Any cannot be used with isinstance()"))
    else .ok (isBelow env ref other)
  | .constant .null => .error (.refused "TypeError" notice)
  | .form f =>
    match f.origin? with
    | some other => .ok (isBelow env ref other)
    | none =>
      .error (.refused "TypeError" (f.display ++ (" cannot be used with isinstance()" : Text)))
  | .apply (.collection _) _ => .error (.refused "TypeError" generic)
  | .apply _ _ | .remarked _ _ =>
    .error (.refused "TypeError"
      "Subscripted generics cannot be used with class and instance checks")
  | .tuple items => isBelowOneOf env notice generic ref display items
  | .union _ members => isBelowOneOf env notice generic ref display members
  | _ => .error (.refused "TypeError" notice)

/-- The same for one of several values. -/
def isBelowOneOf (env : Environment) (notice generic : Text) (ref : ClassRef) (display : Text) :
    List Value → Except CodeFault Bool
  | [] => .ok false
  | value :: rest =>
    match isBelowAny env notice generic ref display value with
    | .ok false => isBelowOneOf env notice generic ref display rest
    | result => result

end

/-- A value is an instance of what a test of classes names. -/
def isInstance (value classes : Value) : Eval Bool := do
  let env ← get
  ofExcept (isBelowAny env
    "isinstance() arg 2 must be a type, a tuple of types, or a union"
    "isinstance() argument 2 cannot be a parameterized generic" (env.classOf value) [] classes)

/-- A class is below what a test of classes names. -/
def isSubclass (value classes : Value) : Eval Bool := do
  match value with
  | .ofClass ref =>
    ofExcept (isBelowAny (← get)
      "issubclass() arg 2 must be a class, a tuple of classes, or a union"
      "issubclass() argument 2 cannot be a parameterized generic" ref [] classes)
  | _ => refuseType "issubclass() arg 1 must be a class"

/-! ## Numbers -/

/-- The size of a number. -/
def size (value : Value) : Eval Value := do
  match value, value.integer? with
  | _, some n => return .integer n.natAbs
  | .constant (.real x), none => return .constant (.real x.unsigned)
  | .constant (.complex re im), none =>
    let square (x : Binary64) : Float := x.toFloat * x.toFloat
    return .constant (.real (.ofFloat (Float.sqrt (square re + square im))))
  | value, none =>
    refuseType (("bad operand type for abs(): '" : Text) ++ (← kindName value) ++ ("'" : Text))

/-- An integer in a base, with the mark of the base. -/
def inBase (base : Nat) (mark : Text) (value : Value) : Eval Value := do
  let n ← integerOf value
  let sign : Text := if n < 0 then "-" else []
  return .text (sign ++ mark ++ Layout.digitsIn base n.natAbs false)

/-- A whole quotient and what it leaves. -/
def divide (run : Interpreter) (left right : Value) : Eval Value :=
  tryCatch
    (do return .tuple [← operate run .wholeOver left right, ← operate run .modulo left right])
    fun fault => do
      match fault with
      | .noOperation _ left right =>
        refuseType (("unsupported operand type(s) for divmod(): '" : Text) ++ left ++
          ("' and '" : Text) ++ right ++ ("'" : Text))
      | .dividedByZero _ true => refuse "ZeroDivisionError" "float divmod()"
      | fault => throw fault

/-- The power of integers that is left by a modulus, squaring as often as there are `bits`. -/
def modularPower (modulus : Nat) : Nat → Nat → Nat → Nat
  | 0, _, _ => 1 % modulus
  | bits + 1, base, exponent =>
    let half := modularPower modulus bits (base * base % modulus) (exponent / 2)
    if exponent % 2 = 1 then half * base % modulus else half

/-- The number that gives one with another number, up to a modulus. -/
def inverse? (n modulus : Nat) : Option Nat :=
  if Nat.gcd n modulus ≠ 1 then none
  else some (bezout modulus 1 0 (n % modulus) modulus (modulus + 1) % modulus).toNat
where
  /-- The factor of the first number at which the greatest common divisor is a sum of multiples. -/
  bezout (modulus : Nat) (x next : Int) (a b : Nat) : Nat → Int
    | 0 => x
    | fuel + 1 => if b = 0 then x else bezout modulus next (x - (a / b) * next) b (a % b) fuel

/-- A power of integers that is left by a modulus. -/
def powerLeft (base exponent modulus : Int) : Eval Value := do
  let size := modulus.natAbs
  let residue := (base % (size : Int)).toNat
  let signed (n : Nat) : Value :=
    .integer (if modulus < 0 && n ≠ 0 then (n : Int) - size else n)
  if size = 0 then refuseValue "pow() 3rd argument cannot be 0"
  else if 0 ≤ exponent then
    return signed (modularPower size (exponent.natAbs.log2 + 1) residue exponent.natAbs)
  else
    match inverse? residue size with
    | some n => return signed (modularPower size (exponent.natAbs.log2 + 1) n exponent.natAbs)
    | none => refuseValue "base is not invertible for the given modulus"

/-- A power, which a modulus may leave. -/
def power (run : Interpreter) (base exponent : Value) (modulus : Option Value) : Eval Value := do
  match (modulus.getD .null), base.integer?, exponent.integer?, modulus.bind Value.integer? with
  | .constant .null, _, _, _ => operate run .power base exponent
  | _, some b, some e, some m => powerLeft b e m
  | _, _, _, _ => refuseType "pow() 3rd argument not allowed unless all arguments are integers"

/-- An integer rounded to a power of ten, a half going to the even neighbour. -/
def roundInteger (n : Int) (places : Int) : Int :=
  if 0 ≤ places then n
  else
    let unit : Nat := Nat.pow 10 places.natAbs
    let size := roundHalfEven n.natAbs unit * unit
    if n < 0 then -(size : Int) else size

/-- A double rounded to so many decimal places. -/
def roundReal (x : Binary64) (places : Int) : Eval Binary64 := do
  if !x.isFinite || x.isZero || 323 < places then return x
  else if places < -308 then return Binary64.zero x.hasSign
  else
    let multiple := x.nearestMultiple (-places)
    match Binary64.nearest x.hasSign multiple (Text.ofNat multiple).length (-places) with
    | .infinite _ => refuse "OverflowError" "rounded value too large to represent"
    | rounded => return rounded

/-- A number without its fraction, or with so many decimal places. -/
def rounded (value : Value) (places : Option Value) : Eval Value := do
  match value, value.integer?, places.getD .null with
  | _, some n, .constant .null => return .integer n
  | _, some n, places => return .integer (roundInteger n (← integerOf places))
  | .constant (.real x), none, .constant .null =>
    if x.isFinite then
      let size := x.nearestMultiple 0
      return .integer (if x.hasSign then -(size : Int) else size)
    else wholePart x
  | .constant (.real x), none, places => return .constant (.real (← roundReal x (← integerOf places)))
  | value, none, _ =>
    refuseType (("type " : Text) ++ (← kindName value) ++
      (" doesn't define __round__ method" : Text))

/-- The code of an integer among values that are told apart. -/
def integerCode (n : Int) : Int :=
  let code : Int := (n.natAbs % (Nat.pow 2 61 - 1) : Nat)
  let signed := if n < 0 then -code else code
  if signed = -1 then -2 else signed

/-! ## Collections -/

/-- The number of items of a value. -/
def lengthOf (value : Value) : Eval Value := do
  match value, value.items? with
  | .range start stop step, _ => return .integer (Value.rangeLength start stop step)
  | _, some items => return .integer items.length
  | value, none =>
    refuseType (("object of type '" : Text) ++ (← kindName value) ++ ("' has no len()" : Text))

/-- All items count as true, or one of them does, as `wanted` says. -/
def findTruth (run : Interpreter) (wanted : Bool) (number : Nat) : Nat → Eval Value
  | 0 => throw .endless
  | limit + 1 => do
    match ← run.next number with
    | none => return .truth (!wanted)
    | some item =>
      if item.isTruthy = wanted then return .truth wanted else findTruth run wanted number limit

/-- The sum of a value and items. -/
def sumFrom (run : Interpreter) : Value → List Value → Eval Value
  | total, [] => pure total
  | total, item :: rest => do sumFrom run (← operate run .plus total item) rest

/-- The sum of the items of a value, from a start on. -/
def sumOf (run : Interpreter) (items : Value) (start : Value) : Eval Value := do
  let wrong (kind mark : Text) : Eval Value :=
    refuseType (("sum() can't sum " : Text) ++ kind ++ (" [use " : Text) ++ mark ++
      ("''.join(seq) instead]" : Text))
  match start with
  | .constant (.text _) => wrong "strings" []
  | .constant (.bytes _) => wrong "bytes" "b"
  | start => sumFrom run start (← run.items items)

/-- Of values with keys, the first one whose key stands in an order to all others. -/
def extreme (run : Interpreter) (operator : Operator) (best : Value × Value) :
    List (Value × Value) → Eval Value
  | [] => pure best.2
  | entry :: rest => do
    let found ← operate run operator entry.1 best.1
    extreme run operator (if found.isTruthy then entry else best) rest

/-- The least or greatest of some values. -/
def extremeOf (run : Interpreter) (place : Place) (name : Text) (operator : Operator)
    (arguments : CallArguments) : Eval Value := do
  let known : List Text := ["key", "default"]
  let default := NameTable.find? "default" arguments.named
  match arguments.named.find? fun entry => !known.contains entry.1 with
  | some (other, _) =>
    refuseType (("'" : Text) ++ other ++ ("' is an invalid keyword argument for " : Text) ++ name ++
      ("()" : Text))
  | none =>
    let values ← match arguments.places with
      | [] => refuseType (name ++ (" expected at least 1 argument, got 0" : Text))
      | [items] => run.items items
      | places =>
        if default.isSome then
          refuseType (("Cannot specify a default for " : Text) ++ name ++
            ("() with multiple positional arguments" : Text))
        else pure places
    let entries ← values.mapM fun value =>
      match (NameTable.find? "key" arguments.named).getD .null with
      | .constant .null => pure (value, value)
      | function => do return (← run.call place function { places := [value] }, value)
    match entries, default with
    | [], some value => return value
    | [], none => refuseValue (name ++ ("() arg is an empty sequence" : Text))
    | first :: rest, _ => extreme run operator first rest

/-- The items of a value in order. -/
def sortedOf (run : Interpreter) (place : Place) (arguments : CallArguments) : Eval Value := do
  let known : List Text := ["key", "reverse"]
  match arguments.places with
  | [value] =>
    let items ← run.items value
    match arguments.named.find? fun entry => !known.contains entry.1 with
    | some (other, _) =>
      refuseType (("'" : Text) ++ other ++ ("' is an invalid keyword argument for sort()" : Text))
    | none =>
      return .list (← sorted run place items (NameTable.find? "key" arguments.named)
        (NameTable.find? "reverse" arguments.named))
  | places => refuseType (Arity.expectedText "sorted" [] 1 places.length)

/-- The next item of a value, or else another value. -/
def nextOf (run : Interpreter) (value : Value) (fallback : Option Value) : Eval Value := do
  match value with
  | .iterator _ number =>
    match ← run.next number, fallback with
    | some item, _ | none, some item => return item
    | none, none => refuse "StopIteration" []
  | value => refuseType (("'" : Text) ++ (← kindName value) ++ ("' object is not an iterator" : Text))

/-! ## Parts -/

/-- The name of a part that an argument gives. -/
def partName (value : Value) : Eval Text := do
  match value with
  | .constant (.text name) => return name
  | value =>
    refuseType (("attribute name must be string, not '" : Text) ++ (← kindName value) ++
      ("'" : Text))

/-- A part of a value, or else what stands for a part that is not there. -/
def partOr (value : Value) (name : Text) (fallback : Eval Value) : Eval Value :=
  tryCatch (part value name) fun fault =>
    if fault.toRaised.isOf "AttributeError" then fallback else throw fault

/-- Gives a class a value for an attribute. -/
def givePart (owner : Value) (name : Text) (value : Value) : Eval Value := do
  let env ← get
  match owner with
  | .ofClass (.declared load serial space className) =>
    let ref := ClassRef.declared load serial space className
    let given (c : Class) : Class :=
      if c.ref = ref then
        { c with body := { c.body with members := c.body.members.set name value } }
      else c
    set { env with classes := env.classes.map given }
    return .null
  | .ofClass ref =>
    refuseType (("cannot set '" : Text) ++ name ++ ("' attribute of immutable type '" : Text) ++
      ref.label ++ ("'" : Text))
  | .object _ _ | .exception _ _ _ _ | .function _ _ _ | .closure _ => return .null
  | owner =>
    throw (.noAttribute (("'" : Text) ++ env.kindName owner ++ ("' object" : Text)) name)

/-! ## Sources -/

/-- An expression evaluated among other names. -/
def evaluateAmong (run : Interpreter) (names outer : NameTable) (e : Expression) : Eval Value := do
  let before ← get
  let restore : Eval Unit := modify fun env =>
    { env with names := before.names, level := before.level }
  set { before with names, level := .annotating outer }
  let value ← tryCatch (run.evaluate (Place.outside (← get) e) e) fun fault => do
    restore
    throw fault
  restore
  return value

/-- The value of a source. -/
def evaluateSource (run : Interpreter) (place : Place) (source : Value)
    (globals locals : Option Value) : Eval Value := do
  let text ← match source with
    | .constant (.text t) => pure t
    | .constant (.bytes content) => decode usualEncoding usualHandling content
    | _ => refuseType "eval() arg 1 must be a string, bytes or code object"
  let blank (c : CodePoint) : Bool := c = CodePoint.ofChar ' ' || c = CodePoint.ofChar '\t'
  match Expression.read (text.dropWhile blank), globals.getD .null, locals.getD .null with
  | .error .empty, _, _ => refuse "SyntaxError" "invalid syntax (<string>, line 0)"
  | .error (.malformed _), _, _ => refuse "SyntaxError" "invalid syntax (<string>, line 1)"
  | .error fault, _, _ => throw (.unreadable fault)
  | .ok e, .constant .null, .constant .null => run.evaluate place e
  | .ok e, .dictionary outer, .dictionary names =>
    evaluateAmong run (namesOf names) (namesOf outer) e
  | .ok e, .dictionary outer, _ => evaluateAmong run (namesOf outer) (namesOf outer) e
  | .ok e, .constant .null, .dictionary names =>
    evaluateAmong run (namesOf names) ((← get).shared place.isHome) e
  | .ok _, _, _ => refuseType "globals must be a dict"

/-- What becomes of a file that a path asks for. -/
def openNamed (path : Value) : Eval Value := do
  match path with
  | .constant (.text t) =>
    refuse "FileNotFoundError" (("[Errno 2] No such file or directory: " : Text) ++ t.quote)
  | value =>
    refuseType (("expected str, bytes or os.PathLike object, not " : Text) ++ (← kindName value))

/-! ## Calls -/

/-- The code point of a character that an argument is. -/
def characterNumber (value : Value) : Eval Value := do
  let wrong (count : Nat) : Eval Value :=
    refuseType (("ord() expected a character, but string of length " : Text) ++
      Text.ofNat count ++ (" found" : Text))
  match value with
  | .constant (.text [c]) => return .integer c.value
  | .constant (.bytes [byte]) => return .integer byte.toNat
  | .constant (.text t) => wrong t.length
  | .constant (.bytes content) => wrong content.length
  | value =>
    refuseType (("ord() expected string of length 1, but " : Text) ++ (← kindName value) ++
      (" found" : Text))

/-- The character of a number. -/
def characterOf (value : Value) : Eval Value := do
  let n ← integerOf value
  if h : n.toNat < 0x110000 ∧ 0 ≤ n then return .text [⟨n.toNat, h.1⟩]
  else if n < -Int.pow 2 31 || Int.pow 2 31 ≤ n then
    refuse "OverflowError" "Python int too large to convert to C int"
  else refuseValue "chr() arg not in range(0x110000)"

/-- What a call of a built-in function gives that takes its arguments in an order. -/
def callFitted (run : Interpreter) (place : Place) (name : Text)
    (arguments : List (Option Value)) : Eval Value := do
  let is (other : String) : Bool := name = Text.ofString other
  let first := (first? arguments).getD .null
  let second := (second? arguments).getD .null
  if is "len" then lengthOf first
  else if is "repr" then return .text (← display first)
  else if is "ascii" then return .text (← ascii first)
  else if is "abs" then size first
  else if is "bin" then inBase 2 "0b" first
  else if is "oct" then inBase 8 "0o" first
  else if is "hex" then inBase 16 "0x" first
  else if is "chr" then characterOf first
  else if is "ord" then characterNumber first
  else if is "all" then findTruth run false (← Interpreter.iterationOf first) Interpreter.maxItems
  else if is "any" then findTruth run true (← Interpreter.iterationOf first) Interpreter.maxItems
  else if is "sum" then sumOf run first ((second? arguments).getD (.integer 0))
  else if is "divmod" then divide run first second
  else if is "pow" then power run first second (third? arguments)
  else if is "round" then rounded first (second? arguments)
  else if is "callable" then return .truth ((← get).isCallable first)
  else if is "isinstance" then return .truth (← isInstance first second)
  else if is "issubclass" then return .truth (← isSubclass first second)
  else if is "hasattr" then
    let name ← partName second
    let found ← partOr first name (pure (.other [] []))
    return .truth (match found with
      | .other [] [] => false
      | _ => true)
  else if is "getattr" then
    let name ← partName second
    match third? arguments with
    | some fallback => partOr first name (pure fallback)
    | none => part first name
  else if is "setattr" then givePart first (← partName second) ((third? arguments).getD .null)
  else if is "delattr" then
    let _ ← part first (← partName second)
    return .null
  else if is "hash" then
    checkFixed first
    return .integer (integerCode (first.integer?.getD 0))
  else if is "format" then
    let source ← argumentText "format() argument 2"
      ((second? arguments).getD (.text []))
    return .text (← format first source)
  else if is "iter" then
    match second? arguments with
    | none => Interpreter.iterate first
    | some sentinel =>
      if (← get).isCallable first then iterator "callable_iterator" (.repeated first sentinel)
      else refuseType "iter(v, w): v must be callable"
  else if is "next" then nextOf run first (second? arguments)
  else if is "globals" then return dictionaryOf ((← get).shared place.isHome)
  else if is "locals" then return dictionaryOf ((← get).namesHere place)
  else if is "vars" then
    match first? arguments with
    | none => return dictionaryOf ((← get).namesHere place)
    | some value =>
      partOr value "__dict__" (refuseType "vars() argument must have __dict__ attribute")
  else if is "dir" then
    match first? arguments with
    | none =>
      let names := ((← get).namesHere place).map Prod.fst
      return .list ((names.mergeSort Text.le).map Value.text)
    | some _ => return .list (reservedNames.map Value.text)
  else if is "eval" then
    evaluateSource run place first (second? arguments) (third? arguments)
  else if is "exec" then
    match Expression.read (first.text?.getD []) with
    | .ok _ =>
      let _ ← evaluateSource run place first (second? arguments) (third? arguments)
      return .null
    | .error _ => return .null
  else if is "compile" then
    let modes : List Text := ["exec", "eval", "single"]
    if modes.contains ((third? arguments).getD .null).letters then
      return .other "code" "<code object>"
    else refuseValue "compile() mode must be 'exec', 'eval' or 'single'"
  else if is "__import__" then importNamed first
  else if is "open" then openNamed first
  else if is "input" then refuse "EOFError" "EOF when reading a line"
  else if is "aiter" then
    refuseType (("'" : Text) ++ (← kindName first) ++ ("' object is not an async iterable" : Text))
  else if is "anext" then
    refuseType (("'" : Text) ++ (← kindName first) ++ ("' object is not an async iterator" : Text))
  else if is "id" then return .integer 1
  else return .null

/-- What a call of a built-in function gives. -/
def callBuiltin (run : Interpreter) (place : Place) (name : Text) (arguments : CallArguments) :
    Eval Value := do
  if name = ("max" : Text) then extremeOf run place name .greater arguments
  else if name = ("min" : Text) then extremeOf run place name .less arguments
  else if name = ("sorted" : Text) then sortedOf run place arguments
  else
    callFitted run place name (← arguments.fitted (functionArity name) name name)

end Eval

end QueryScaffold
