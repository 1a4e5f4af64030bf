import QueryScaffold.Evaluation.Comprehension
import QueryScaffold.Evaluation.Construction

/-!
# Running code

* `Eval.evaluate`: the value of an expression, with a way to run what it calls;
* `Eval.call`: what a call of a value gives;
* `Eval.next`: the next item of an iteration;
* `interpreter`: the three of them, to a depth.

Evaluation goes from left to right, what stands before a bracket first, and stops at the first
fault. A function that changes a list, a set or a dictionary gives the name of it the changed value.
-/

namespace QueryScaffold

namespace Eval

/-! ## Expressions -/

/-- The code of a function hands a value out, which is kept in the frame of the function. -/
def handOut (place : Place) (values : List Value) : Eval Unit := do
  let env ← get
  match env.functionFrame? place.frames with
  | none => return
  | some number =>
    let earlier := match (env.frames[number]?).bind fun frame => frame.names.find? [] with
      | some (.list values) => values
      | _ => []
    set (env.giveIn number [] (.list (earlier ++ values)))

/-- The message on a value that is spread into the arguments of a call. -/
def argumentNotice (head : Value) (mark wanted : Text) (value : Value) : Eval Text := do
  let env ← get
  return Interpreter.callName env head ++ (" argument after " : Text) ++ mark ++
    (" must be " : Text) ++ wanted ++ (", not " : Text) ++ env.kindName value

/-- The arguments with names that the entries of a value are, behind those that are there. -/
def mergeNamed (head : Value) (named : List (Text × Value)) (value : Value) :
    Eval (List (Text × Value)) := do
  match value.entries? with
  | some entries =>
    entries.foldlM (fun named (key, value) => do
      match key with
      | .constant (.text name) =>
        if (NameTable.find? name named).isSome then
          refuseType (Interpreter.callName (← get) head ++
            (" got multiple values for keyword argument '" : Text) ++ name ++ ("'" : Text))
        else return named ++ [(name, value)]
      | _ => refuseType "keywords must be strings") named
  | none => refuseType (← argumentNotice head "**" "a mapping" value)

/-- A call of a function of a value that has a name, which is given the changed value if the value
changes. -/
def callOwn (run : Interpreter) (place : Place) (ownerName : Option Text) (head : Value)
    (arguments : CallArguments) : Eval Value := do
  match ownerName, head with
  | some name, .method owner function =>
    let outcome ← callMethod run place owner function arguments
    match outcome.changed with
    | some changed => modify fun env => env.rebind place name changed
    | none => pure ()
    return outcome.result
  | _, head => run.call place head arguments

/-- The name that a value is known by after it is evaluated. -/
def nameOfValue? : Expression → Option Text
  | .name n | .naming n _ => some n
  | _ => none

/-- The name of the value whose part an expression is. -/
def ownerName? : Expression → Option Text
  | .part owner _ => nameOfValue? owner
  | _ => none

/-- The text of a field of a template. -/
def fieldText (value : Value) (conversion : Option Conversion) (form : Text) : Eval Text := do
  match conversion with
  | none => format value form
  | some conversion => format (.text (← converted conversion value)) form

/-- The entries of a value that are taken over into a dictionary. -/
def entriesOf (value : Value) : Eval (List (Value × Value)) := do
  match value.entries? with
  | some entries => return entries
  | none =>
    refuseType (("'" : Text) ++ (← kindName value) ++ ("' object is not a mapping" : Text))

/-- The items of a value in the place of one item of a set. -/
def spreadIntoSet (run : Interpreter) (value : Value) : Eval (List Value) := run.items value

/-- What a value between two comparisons gives: the finding, if it is the last one or does not count
as true. -/
def endsLinks (found : Value) (rest : List (Operator × Expression)) : Bool :=
  rest.isEmpty || !found.isTruthy

mutual

/-- The value of an expression at a place. -/
def evaluate (run : Interpreter) (place : Place) : Expression → Eval Value
  | .name n => do ofExcept ((← get).lookUp place n)
  | .constant c => pure (.constant c)
  | .template parts => do return .text (← evaluateTemplate run place parts)
  | .field value conversion form => do
    let found ← evaluate run place value
    match form with
    | none => return .text (← fieldText found conversion [])
    | some e => do
      let shown ← evaluate run place e
      return .text (← fieldText found conversion shown.letters)
  | .tuple items => do return .tuple (← evaluateItems run run.spread place items)
  | .list items => do return .list (← evaluateItems run run.spread place items)
  | .set items => do
    return .set false (← members (← evaluateItems run (spreadIntoSet run) place items))
  | .dictionary entries => do
    return .dictionary (← evaluateEntries run place [] [] entries)
  | .spread e => evaluate run place e
  | .part owner n => do part (← evaluate run place owner) n
  | .subscript head argument => do
    let value ← evaluate run place head
    let key ← evaluate run place argument
    ofExcept ((← get).subscript value key)
  | .slice start stop step => do
    let first ← match start with
      | some e => evaluate run place e
      | none => pure .null
    let last ← match stop with
      | some e => evaluate run place e
      | none => pure .null
    let gap ← match step with
      | some e => evaluate run place e
      | none => pure .null
    return .slice first last gap
  | .call head arguments => do
    let value ← evaluate run place head
    let (places, late) ← evaluatePlaced run place arguments
    let named ← evaluateNamed run place value [] arguments
    let places ← match late with
      | none => pure places
      | some items => do
        match ← tryCatch (some <$> run.spread items) fun fault =>
          match fault with
          | .noItems _ => pure none
          | fault => throw fault with
        | some places => pure places
        | none => refuseType (← argumentNotice value "*" "an iterable" items)
    callOwn run place (ownerName? head) value { places, named }
  | .signed sign operand => do applySign sign (← evaluate run place operand)
  | .operation operator left right => do
    let first ← evaluate run place left
    if (operator = .or && first.isTruthy) || (operator = .and && !first.isTruthy) then return first
    else
      let second ← evaluate run place right
      if operator = .or || operator = .and then return second
      else operate run operator first second
  | .comparison first links => do
    evaluateLinks run place (← evaluate run place first) links
  | .choice condition yes no => do
    if (← evaluate run place condition).isTruthy then evaluate run place yes
    else evaluate run place no
  | .function parameters body => do
    let parameters ← evaluateParameters run place parameters
    addClosure { name := Place.nameOf (← get) place closureName, place, parameters, body }
  | .naming n value => do
    let found ← evaluate run place value
    modify fun env => env.give place n found
    return found
  | .comprehension form element value clauses => comprehend run place form element value clauses
  | .handing all value => do
    let found ← match value with
      | some e => evaluate run place e
      | none => pure .null
    handOut place (← if all then run.items found else pure [found])
    return .null

/-- The text of the parts of a template. -/
def evaluateTemplate (run : Interpreter) (place : Place) : List Expression → Eval Text
  | [] => pure []
  | e :: rest => do
    let here ← evaluate run place e
    return here.letters ++ (← evaluateTemplate run place rest)

/-- The values of expressions in turn, with the items of spreads among them. -/
def evaluateItems (run : Interpreter) (spread : Value → Eval (List Value)) (place : Place) :
    List Expression → Eval (List Value)
  | [] => pure []
  | e :: rest => do
    let value ← evaluate run place e
    let here ← if Expression.isSpread e then spread value else pure [value]
    return here ++ (← evaluateItems run spread place rest)

/-- The entries of a dictionary in turn: those that are there, and those that are still to be put
over them. -/
def evaluateEntries (run : Interpreter) (place : Place) (done waiting : List (Value × Value)) :
    List (Option Expression × Expression) → Eval (List (Value × Value))
  | [] => putEntries done waiting
  | (none, value) :: rest => do
    let done ← putEntries done waiting
    let entries ← entriesOf (← evaluate run place value)
    evaluateEntries run place (← putEntries done entries) [] rest
  | (some key, value) :: rest => do
    let k ← evaluate run place key
    let v ← evaluate run place value
    evaluateEntries run place done (waiting ++ [(k, v)]) rest

/-- The arguments of a call without names; those that a single spread gives are left to it. -/
def evaluatePlaced (run : Interpreter) (place : Place) :
    List (ArgumentWay × Expression) → Eval (List Value × Option Value)
  | [] => pure ([], none)
  | (way, e) :: rest =>
    if way = .byPlace then do
      let value ← evaluate run place e
      let isLast := rest.all fun argument => argument.1 ≠ .byPlace
      if Expression.isSpread e && isLast then
        let _ ← evaluatePlaced run place rest
        return ([], some value)
      else
        let here ← if Expression.isSpread e then run.spread value else pure [value]
        let (later, late) ← evaluatePlaced run place rest
        match late with
        | none => return (here ++ later, none)
        | some items => return (here ++ later ++ (← run.spread items), none)
    else evaluatePlaced run place rest

/-- The arguments of a call of a value with names, behind those that are there. -/
def evaluateNamed (run : Interpreter) (place : Place) (head : Value)
    (done : List (Text × Value)) :
    List (ArgumentWay × Expression) → Eval (List (Text × Value))
  | [] => pure done
  | (way, e) :: rest =>
    match way with
    | .byPlace => evaluateNamed run place head done rest
    | .byName name => do
      let value ← evaluate run place e
      evaluateNamed run place head (done ++ [(name, value)]) rest
    | .entries => do
      let value ← evaluate run place e
      evaluateNamed run place head (← mergeNamed head done value) rest

/-- The value of a comparison that goes on from a value. -/
def evaluateLinks (run : Interpreter) (place : Place) (left : Value) :
    List (Operator × Expression) → Eval Value
  | [] => pure left
  | (operator, e) :: rest => do
    let right ← evaluate run place e
    let found ← operate run operator left right
    if endsLinks found rest then return found else evaluateLinks run place right rest

/-- The parameters of a function with the values of their defaults. -/
def evaluateParameters (run : Interpreter) (place : Place) :
    List (FunctionParameter × Option Expression) → Eval Signature
  | [] => pure []
  | (parameter, default) :: rest => do
    let value ← match default with
      | some e => some <$> evaluate run place e
      | none => pure none
    return (parameter, value) :: (← evaluateParameters run place rest)

end

/-! ## Calls -/

/-- What a call of a function without a name gives. -/
def callClosure (run : Interpreter) (closure : Closure) (arguments : CallArguments) : Eval Value := do
  let given ← bindAll closure.name closure.parameters arguments
  let frame ← addFrame
    { name := closure.name
      isFunction := true
      own := closure.parameters.map (fun parameter => parameter.1.name) ++
        Expression.ownNames closure.body
      names := given }
  let inside := closure.place.within frame
  if Expression.handsOut closure.body then iterator "generator" (.delayed inside closure.body)
  else run.evaluate inside closure.body

/-- What a call of a value of a certain kind gives that ends the program or has a function for
calls. -/
def callOther (run : Interpreter) (place : Place) (head : Value) (arguments : CallArguments) :
    Eval Value := do
  let env ← get
  match head with
  | .other kind _ =>
    if kind = ("Quitter" : Text) then
      let code := arguments.places.headD .null
      throw (.raised (env.raisedAs (.builtin "SystemExit") [code] []))
    else if kind = ("_Helper" : Text) || kind = ("_Printer" : Text) then return .null
    else throw (.notCallable kind)
  | .object _ ref =>
    match (env.class? ref).bind fun c => c.member? "__call__" with
    | some function =>
      run.call place function { arguments with places := head :: arguments.places }
    | none => throw (.notCallable (env.kindName head))
  | head => throw (.notCallable (env.kindName head))

/-- What a call of a value gives to code at a place. -/
def call (run : Interpreter) (place : Place) (head : Value) (arguments : CallArguments) :
    Eval Value := do
  match head with
  | .ofClass ref | .apply (.generic ref) _ | .apply (.collection ref) _ =>
    instantiate run place ref arguments
  | .function _ owner name => callFunction run owner name arguments
  | .builtinFunction name => callBuiltin run place name arguments
  | .closure number =>
    match (← get).closures[number]? with
    | some closure => callClosure run closure arguments
    | none => return .null
  | .method owner name => return (← callMethod run place owner name arguments).result
  | .unbound _ owner name => return (← callUnbound run place owner name arguments).result
  | .form f | .apply (.form f) _ => throw (.formCalled f)
  | .union false _ => throw (.formCalled .union)
  | .remarked inner _ => run.call place inner arguments
  | head => callOther run place head arguments

/-! ## Iterations -/

/-- Keeps an iteration in place of the one of a number. -/
def putIteration (number : Nat) (iteration : Iteration) : Eval Unit :=
  modify fun env => { env with iterations := env.iterations.setIfInBounds number iteration }

/-- The fault signals the end of an iteration. -/
def endsIteration (fault : CodeFault) : Bool :=
  fault.toRaised.isOf "StopIteration"

/-- A value, unless the end of an iteration is signalled in place of it. -/
def unlessEnded (value : Eval Value) : Eval (Option Value) :=
  tryCatch (some <$> value) fun fault =>
    if endsIteration fault then pure none else throw fault

/-- The next items of several iterations, up to the first one that has ended. -/
def nextOfEach (run : Interpreter) : List Nat → Eval (List Value × Bool)
  | [] => pure ([], true)
  | number :: rest => do
    match ← run.next number with
    | none => return ([], false)
    | some item =>
      let (items, isWhole) ← nextOfEach run rest
      return (item :: items, isWhole)

/-- The place of the first iteration that goes on, counted from a number on. -/
def placeOfLonger (run : Interpreter) : Nat → List Nat → Eval (Option Nat)
  | _, [] => pure none
  | place, number :: rest => do
    match ← run.next number with
    | some _ => return some place
    | none => placeOfLonger run (place + 1) rest

/-- Fails as iterations that should have ended together; the one of this place was at odds with
those before it. -/
def refuseLengths (place : Nat) (word : Text) : Eval (Option Value) :=
  refuseValue (("zip() argument " : Text) ++ Text.ofNat place ++ (" is " : Text) ++ word ++
    (" than argument" : Text) ++
    (if place = 2 then (" 1" : Text) else ("s 1-" : Text) ++ Text.ofNat (place - 1)))

/-- The tuple of the next items of iterations, all of which may have to end together. -/
def nextPaired (run : Interpreter) (sources : List Nat) (strict : Bool) : Eval (Option Value) := do
  if sources.isEmpty then return none
  else
    let (items, isWhole) ← nextOfEach run sources
    if isWhole then return some (.tuple items)
    else if !strict then return none
    else if 0 < items.length then refuseLengths (items.length + 1) "shorter"
    else
      match ← placeOfLonger run 2 (sources.drop 1) with
      | some place => refuseLengths place "longer"
      | none => return none

/-- The next item of an iteration that a function, or the truth of the item, chooses. -/
def nextChosen (run : Interpreter) (function : Value) (source : Nat) : Nat → Eval (Option Value)
  | 0 => throw .endless
  | limit + 1 => do
    match ← run.next source with
    | none => return none
    | some item =>
      let isPlain := function.isNull || (match function with
        | .ofClass ref => ref = .builtin "bool"
        | _ => false)
      let found ← if isPlain then pure item else run.call {} function { places := [item] }
      if found.isTruthy then return some item else nextChosen run function source limit

/-- The fault as it leaves the code of a comprehension or of a function that hands values out. -/
def leavingStream {α : Type} (code : Eval α) : Eval α :=
  tryCatch code fun fault =>
    if endsIteration fault then throw (.raised fault.toRaised.leavingScope) else throw fault

/-- The next item of an iteration of a kind, which is kept under a number. -/
def nextOfIteration (run : Interpreter) (number : Nat) : Iteration → Eval (Option Value)
  | .items [] => return none
  | .items (item :: rest) => do
    putIteration number (.items rest)
    return some item
  | .counting start stop step => do
    if Value.rangeLength start stop step = 0 then return none
    else
      putIteration number (.counting (start + step) stop step)
      return some (.integer start)
  | .numbered source n => do
    match ← run.next source with
    | none => return none
    | some item =>
      putIteration number (.numbered source (n + 1))
      return some (.tuple [.integer n, item])
  | .paired sources strict => nextPaired run sources strict
  | .mapped function sources => do
    let (items, isWhole) ← nextOfEach run sources
    if isWhole then unlessEnded (run.call {} function { places := items }) else return none
  | .chosen function source => do
    let found ← unlessEnded (do
      return (← nextChosen run function source Interpreter.maxItems).elim (.tuple [])
        fun item => .tuple [item])
    match found with
    | some (.tuple [item]) => return some item
    | _ => return none
  | .repeated function sentinel => do
    match ← unlessEnded (run.call {} function {}) with
    | none => return none
    | some value =>
      if ← same value sentinel then
        putIteration number (.items [])
        return none
      else return some value
  | .stream place element clauses active => do
    let (item, active) ←
      leavingStream (advance run place element clauses Interpreter.maxItems active)
    putIteration number (.stream place element clauses active)
    return item
  | .delayed place body => do
    putIteration number (.items [])
    let _ ← leavingStream (run.evaluate place body)
    let env ← get
    let frame := (env.functionFrame? place.frames).bind fun number => env.frames[number]?
    match (frame.bind fun frame => frame.names.find? []).getD .null with
    | .list (item :: rest) =>
      putIteration number (.items rest)
      return some item
    | _ => return none

/-- The next item of an iteration. -/
def next (run : Interpreter) (number : Nat) : Eval (Option Value) := do
  match (← get).iterations[number]? with
  | some iteration => nextOfIteration run number iteration
  | none => return none

end Eval

/-! ## The interpreter -/

/-- The interpreter to a depth of calls. -/
def interpreterTo : Nat → Interpreter
  | 0 => .exhausted
  | depth + 1 =>
    let run := interpreterTo depth
    { evaluate := Eval.evaluate run
      call := Eval.call run
      next := Eval.next run }

/-- The depth to which code calls code. -/
def maxDepth : Nat := 1000

/-- The interpreter. -/
def interpreter : Interpreter := interpreterTo maxDepth

namespace Eval

/-- The value of an expression that belongs to no function. -/
def valueOf (e : Expression) : Eval Value := do
  interpreter.evaluate (Place.outside (← get) e) e

end Eval

end QueryScaffold
