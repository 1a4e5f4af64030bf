import QueryScaffold.Class.Standard
import QueryScaffold.Evaluation.Fault

/-!
# Environments

Code runs where names stand for something and classes are known, and changes both as it runs.

* `CodeLevel`: what the code that belongs to no function sees besides the names of its module;
* `Frame`: the names of one run of a function or of a comprehension;
* `Iteration`: items that are still to come;
* `Memory`: what code has made;
* `Environment`: all that code sees and changes;
* `Eval`: a computation in an environment, which may fail;
* `Environment.kindName`: the kind of a value, as messages give it.

The changes that code has made before a fault stay.
-/

namespace QueryScaffold

/-- What containers report. -/
inductive ContainerEvent
  /-- The constructor of a class has finished. -/
  | made (className connectionString : Text)
  /-- The closing of a container has begun. -/
  | closing (className : Text)
deriving DecidableEq

/-- What the code that belongs to no function sees besides the names of its module. -/
inductive CodeLevel
  /-- Nothing: it is the code of the module. -/
  | module
  /-- The names that the body of a class has given so far, before those of the module. -/
  | classBody (names : NameTable)
  /-- The attributes of a class, behind the names of the module. The functions of such code see them
  in place of the names of the module. -/
  | annotating (attributes : NameTable)

/-- The names of one run of a function or of a comprehension. -/
structure Frame where
  /-- What the code is called, with the names of what it stands in. -/
  name : Text
  isFunction : Bool
  /-- All names that belong to the frame, with a value or without. -/
  own : List Text
  names : NameTable

/-- Where code stands. -/
structure Place where
  /-- The numbers of the frames around the code, the innermost first. -/
  frames : List Nat := []
  /-- Functions see the names of the module. -/
  isHome : Bool := true
  /-- The names that comprehensions outside of functions give to values. -/
  shared : List Text := []

/-- A function without a name. -/
structure Closure where
  /-- What the function is called, with the names of what it stands in. -/
  name : Text
  place : Place
  parameters : List (FunctionParameter × Option Value)
  body : Expression

/-- Items that are still to come. -/
inductive Iteration
  /-- These items. -/
  | items (rest : List Value)
  /-- The integers from one to another, so many apart. -/
  | counting (next stop step : Int)
  /-- The items of another iteration, with numbers. -/
  | numbered (source : Nat) (next : Int)
  /-- Tuples of one item of each iteration; all of them may have to end together. -/
  | paired (sources : List Nat) (strict : Bool)
  /-- What a function makes of one item of each iteration. -/
  | mapped (function : Value) (sources : List Nat)
  /-- The items of which a function holds; without a function, those that count as true. -/
  | chosen (function : Value) (source : Nat)
  /-- What a function gives, up to a certain value. -/
  | repeated (function sentinel : Value)
  /-- The items of a comprehension: its element, its clauses, where it stands, and the iterations of
  the clauses that are under way, the innermost first. -/
  | stream (place : Place) (element : Expression)
    (clauses : List (Bool × Expression × Expression × List Expression)) (active : List Nat)
  /-- What the code of a function hands out that has not been run yet. -/
  | delayed (place : Place) (body : Expression)

/-- What code has made and what stays for later code, mostly known by numbers. -/
structure Memory where
  /-- The classes of container modules. -/
  classes : List Class := []
  /-- The number of the next class. -/
  nextClass : Nat := 0
  frames : Array Frame := #[]
  closures : Array Closure := #[]
  iterations : Array Iteration := #[]
  /-- The number of the next instance of a class. -/
  nextObject : Nat := 1

/-- All that code sees and changes. -/
structure Environment extends Memory where
  /-- The names of the module. -/
  names : NameTable
  level : CodeLevel := .module
  /-- The number of the load whose code it is. -/
  load : Nat
  /-- What was reported. -/
  events : List ContainerEvent := []

/-- The name of functions without a name. -/
def closureName : Text := "<lambda>"

/-- A computation in an environment, which may fail. -/
abbrev Eval (α : Type) := ExceptT CodeFault (StateM Environment) α

namespace Eval

/-- The value of an outcome, or its fault. -/
def ofExcept {α : Type} : Except CodeFault α → Eval α
  | .ok value => pure value
  | .error fault => throw fault

/-- Fails as an exception of a class, with a notice. -/
def refuse {α : Type} (kind notice : Text) : Eval α :=
  throw (.refused kind notice)

/-- Fails as a wrong type, with a notice. -/
def refuseType {α : Type} (notice : Text) : Eval α :=
  refuse "TypeError" notice

/-- Fails as a wrong value, with a notice. -/
def refuseValue {α : Type} (notice : Text) : Eval α :=
  refuse "ValueError" notice

/-- Reports an event. -/
def report (event : ContainerEvent) : Eval Unit :=
  modify fun env => { env with events := env.events ++ [event] }

end Eval

/-- What a class is, by its identity. -/
def Memory.class? (memory : Memory) (ref : ClassRef) : Option Class :=
  match memory.classes.find? fun c => c.ref = ref with
  | some c => some c
  | none => standardClasses.find? fun c => c.ref = ref

namespace Environment

/-- What a class is, by its identity. -/
def class? (env : Environment) (ref : ClassRef) : Option Class :=
  env.toMemory.class? ref

/-- The namespaces of kinds that are not built in. -/
def kindSpaces : List (Text × Text) :=
  [("TypeVar", "typing"), ("ForwardRef", "typing"), ("_SpecialForm", "typing"),
    ("_LiteralSpecialForm", "typing"), ("_SpecialGenericAlias", "typing"),
    ("_GenericAlias", "typing"), ("_LiteralGenericAlias", "typing"),
    ("_UnionGenericAlias", "typing"), ("_UnpackGenericAlias", "typing"),
    ("_AnnotatedAlias", "typing"), ("_AnyMeta", "typing"),
    ("ABCMeta", "abc"), ("_Feature", "__future__"), ("Quitter", "_sitebuiltins"),
    ("_Helper", "_sitebuiltins"), ("_Printer", "_sitebuiltins"),
    ("types.GenericAlias", "types"), ("types.UnionType", "types"),
    ("SourceFileLoader", "_frozen_importlib_external"), ("ModuleSpec", "_frozen_importlib")]

/-- The class of a kind of values. -/
def classOfKind (kind : Text) : ClassRef :=
  let mark : Text := "types."
  match kindSpaces.find? fun entry => entry.1 = kind with
  | some (_, space) =>
    .standard space (if mark.isPrefixOf kind then kind.drop mark.length else kind)
  | none => .builtin kind

/-- The class that a value is an instance of. -/
def classOf (env : Environment) : Value → ClassRef
  | .ofClass ref =>
    match env.class? ref with
    | some c => classOfKind c.metaclass.name
    | none => .type
  | .constant c => .builtin c.kindName
  | .form .list | .form .set => classOfKind "_SpecialGenericAlias"
  | .form .literal => classOfKind "_LiteralSpecialForm"
  | .form _ => classOfKind "_SpecialForm"
  | .variable _ => .typeVariable
  | .function _ _ _ | .closure _ => .builtin "function"
  | .method (.object _ _) _ | .method (.exception _ _ _ _) _ => .builtin "method"
  | .builtinFunction _ | .method _ _ => .builtin "builtin_function_or_method"
  | .unbound isSlot _ _ => .builtin (if isSlot then "wrapper_descriptor" else "method_descriptor")
  | .tuple _ => .builtin "tuple"
  | .list _ => .builtin "list"
  | .buffer isView _ => .builtin (if isView then "memoryview" else "bytearray")
  | .set isFrozen _ => .builtin (if isFrozen then "frozenset" else "set")
  | .dictionary _ => .builtin "dict"
  | .proxy _ => .builtin "mappingproxy"
  | .view kind _ => .builtin kind
  | .range _ _ _ => .builtin "range"
  | .slice _ _ _ => .builtin "slice"
  | .iterator kind _ => .builtin kind
  | .object _ ref | .exception _ ref _ _ => ref
  | .forward _ _ => classOfKind "ForwardRef"
  | .apply (.collection _) _ => classOfKind "types.GenericAlias"
  | .apply (.form .literal) _ => classOfKind "_LiteralGenericAlias"
  | .apply (.form .unpack) _ => classOfKind "_UnpackGenericAlias"
  | .apply _ _ => classOfKind "_GenericAlias"
  | .remarked _ _ => classOfKind "_AnnotatedAlias"
  | .union true _ => classOfKind "types.UnionType"
  | .union false _ => classOfKind "_UnionGenericAlias"
  | .module _ => .module
  | .other kind _ => classOfKind kind

/-- The kind of a value, as messages give it. -/
def kindName (env : Environment) (value : Value) : Text :=
  match value with
  | .apply (.collection _) _ => "types.GenericAlias"
  | .union true _ => "types.UnionType"
  | value => (env.classOf value).name

end Environment

namespace Eval

/-- The kind of a value, as messages give it. -/
def kindName (value : Value) : Eval Text := do
  return (← get).kindName value

/-- A number that no instance of a class has yet. -/
def newNumber : Eval Nat := do
  let env ← get
  set { env with nextObject := env.nextObject + 1 }
  return env.nextObject

/-- A new instance of a class. -/
def newObject (ref : ClassRef) : Eval Value := do
  return .object (← newNumber) ref

/-- Keeps an iteration, as a value of a kind. -/
def iterator (kind : Text) (iteration : Iteration) : Eval Value := do
  let env ← get
  set { env with iterations := env.iterations.push iteration }
  return .iterator kind env.iterations.size

/-- Keeps a frame, and gives its number. -/
def addFrame (frame : Frame) : Eval Nat := do
  let env ← get
  set { env with frames := env.frames.push frame }
  return env.frames.size

/-- Keeps a function without a name. -/
def addClosure (closure : Closure) : Eval Value := do
  let env ← get
  set { env with closures := env.closures.push closure }
  return .closure env.closures.size

end Eval

/-! ## Names -/

namespace Environment

/-- What a name stands for among those that are built in. -/
def builtin? (name : Text) : Option Value := builtinNames.find? name

/-- What a name stands for to code that belongs to no function. -/
def outside? (env : Environment) (name : Text) : Option Value :=
  match env.level with
  | .module => env.names.find? name
  | .classBody names => (names.find? name).or (env.names.find? name)
  | .annotating attributes => (env.names.find? name).or (attributes.find? name)

/-- The names that functions see besides their own. -/
def shared (env : Environment) (isHome : Bool) : NameTable :=
  match env.level with
  | .annotating attributes => if isHome then env.names else attributes
  | _ => env.names

/-- The code is that of an annotation. -/
def isAnnotating (env : Environment) : Bool :=
  match env.level with
  | .annotating _ => true
  | _ => false

/-- The environment with a value for a name among those that functions see besides their own. -/
def giveShared (env : Environment) (isHome : Bool) (name : Text) (value : Value) : Environment :=
  match env.level, isHome with
  | .annotating attributes, false =>
    { env with level := .annotating (attributes.set name value) }
  | _, _ => { env with names := env.names.set name value }

/-- The environment with a value for a name, given by code that belongs to no function. -/
def giveOutside (env : Environment) (name : Text) (value : Value) : Environment :=
  match env.level with
  | .classBody names => { env with level := .classBody (names.set name value) }
  | _ => { env with names := env.names.set name value }

/-- The environment with a value for a name of a frame. -/
def giveIn (env : Environment) (frame : Nat) (name : Text) (value : Value) : Environment :=
  { env with
    frames := env.frames.modify frame fun found =>
      { found with names := found.names.set name value } }

/-- What a name stands for in frames, from the innermost one on: nothing if it belongs to none of
them. -/
def inFrames? (env : Environment) (name : Text) (around : Bool) :
    List Nat → Option (Except CodeFault Value)
  | [] => none
  | number :: rest =>
    match env.frames[number]? with
    | none => env.inFrames? name true rest
    | some frame =>
      if frame.own.contains name then
        some (match frame.names.find? name with
          | some value => .ok value
          | none => .error (.unbound name around))
      else env.inFrames? name true rest

/-- What a name stands for. -/
def lookUp (env : Environment) (place : Place) (name : Text) : Except CodeFault Value :=
  match env.inFrames? name false place.frames with
  | some found => found
  | none =>
    let known :=
      if place.frames.isEmpty && !place.shared.contains name then env.outside? name
      else (env.shared place.isHome).find? name
    match known.or (builtin? name) with
    | some value => .ok value
    | none => .error (.undefinedName name)

/-- The innermost frame of a function. -/
def functionFrame? (env : Environment) (frames : List Nat) : Option Nat :=
  frames.find? fun number => (env.frames[number]?).any Frame.isFunction

/-- The environment in which a name has been given a value on the way. -/
def give (env : Environment) (place : Place) (name : Text) (value : Value) : Environment :=
  match env.functionFrame? place.frames with
  | some frame => env.giveIn frame name value
  | none =>
    if place.frames.isEmpty && !place.shared.contains name then env.giveOutside name value
    else env.giveShared place.isHome name value

end Environment

namespace Place

/-- The place of the code of a level that belongs to no function. -/
def outside (env : Environment) (e : Expression) : Place :=
  { isHome := !env.isAnnotating
    shared := e.outerNames }

/-- What code at the place is called that has a short name. -/
def nameOf (env : Environment) (place : Place) (short : Text) : Text :=
  let around : Text := match (place.frames.head?).bind fun number => env.frames[number]? with
    | some frame => frame.name ++ (if frame.isFunction then (".<locals>." : Text) else ".")
    | none =>
      match env.level with
      | .classBody names =>
        ((names.find? "__qualname__").bind Value.text?).elim [] (· ++ ("." : Text))
      | _ => []
  around ++ short

/-- The place with one more frame around it. -/
def within (place : Place) (frame : Nat) : Place :=
  { place with frames := frame :: place.frames }

end Place

end QueryScaffold
