import QueryScaffold.Class.Member
import QueryScaffold.Evaluation.Bracket
import QueryScaffold.Evaluation.Import

/-!
# Parts of values

A part of a value has a name: an attribute that a class gives its instances, what a value is made
from, or a function of its own.

* `Environment.part`: what a part of a value stands for;
* `Environment.classPart`: the same for the parts of a class.

A part of a type in brackets is one of the class before them, unless the type has it itself. What is
kept for the language has names with two underscores on either side.
-/

namespace QueryScaffold

/-- The name asks for the name of what it is a part of. -/
def asksForName (name : Text) : Bool :=
  name = ("__name__" : Text) || name = ("__qualname__" : Text)

/-- The name is kept for the language: it has two underscores on either side. -/
def isReservedPart (name : Text) : Bool :=
  let mark : Text := "__"
  mark.isPrefixOf name && mark.isSuffixOf name && 4 < name.length

namespace Environment

/-! ## Parts of classes -/

/-- The values of classes. -/
def classValues (refs : List ClassRef) : Value := .tuple (refs.map Value.ofClass)

/-- The classes of container modules that name a class as their base. -/
def subclasses (env : Environment) (ref : ClassRef) : List ClassRef :=
  (env.classes.filter fun c => c.body.bases.contains ref).map Class.ref

/-- A part that every class has, whatever it says of it. -/
def ownPart? (env : Environment) (c : Class) (name : Text) : Option Value :=
  let is (other : String) : Bool := name = Text.ofString other
  if asksForName name then some (.text c.name)
  else if is "__module__" then
    some ((c.body.members.find? name).getD (.text c.ref.codeNamespace))
  else if is "__bases__" then some (classValues c.body.bases)
  else if is "__mro__" then some (classValues (c.lineage.map fun body => body.ref))
  else if is "__base__" then some ((c.body.base.map Value.ofClass).getD .null)
  else if is "__class__" then some (.ofClass (env.classOf (.ofClass c.ref)))
  else if is "__doc__" then some ((c.body.members.find? name).getD .null)
  else if is "__dict__" then
    some (.proxy (c.body.members.map fun entry => (.text entry.1, entry.2)))
  else if is "__annotations__" then
    match c.ref with
    | .declared _ _ _ _ =>
      some ((c.body.members.find? "__annotations__").getD (.dictionary []))
    | .standard _ _ => none
  else if is "__basicsize__" || is "__dictoffset__" || is "__flags__" || is "__itemsize__" ||
      is "__weakrefoffset__" then some (.integer 0)
  else if is "__text_signature__" then some .null
  else none

/-- A function that a built-in class among those that a class inherits from gives its instances. -/
def hasMethod (c : Class) (name : Text) : Bool :=
  c.lineage.any fun body =>
    body.ref.isBuiltin && ((methodArity? body.ref.name name).isSome ||
      (reservedNamesOf body.ref.name).contains name)

/-- The built-in class among those that a class inherits from whose function its instances have under
a name. -/
def functionOwner? (c : Class) (name : Text) : Option ClassRef :=
  if classFunctionNames.contains name || ownFunctions.any fun entry => entry.2 = name then none
  else
    ((c.lineage.map ClassBody.ref).find? fun ref => ref.isBuiltin && givesFunction ref.name name)

/-- Instances of a built-in class cannot be told apart by their contents. -/
def isUnhashable (ref : ClassRef) : Bool :=
  ref.isBuiltin && ((["bytearray", "dict", "list", "set", "slice"] : List String).map
    Text.ofString).contains ref.name

/-- What the parts of a number stand for as parts of its class. -/
def descriptors : List Text :=
  namesIn ["real imag numerator denominator args start stop step"]

/-- What a part of a class stands for. -/
def classPart (env : Environment) (ref : ClassRef) (name : Text) : Except CodeFault Value :=
  let missing : CodeFault :=
    .noAttribute (("type object '" : Text) ++ ref.name ++ ("'" : Text)) name
  let known := classNames.contains name || reservedNames.contains name
  match env.class? ref with
  | none =>
    if asksForName name then .ok (.text ref.name)
    else if name = ("__module__" : Text) then .ok (.text ref.codeNamespace)
    else if known then .ok (.method (.ofClass ref) name)
    else .error missing
  | some c =>
    if name = ("__module__" : Text) && ref.hidesNamespace then .error (.noPart name) else
    match env.ownPart? c name, c.member? name, functionOwner? c name with
    | some value, _, _ | none, some value, _ => .ok value
    | none, none, some owner =>
      if name = ("__hash__" : Text) && isUnhashable owner then .ok .null
      else .ok (.unbound (isSlot owner.name name) owner name)
    | none, none, none =>
      if name = ("__abstractmethods__" : Text) then
        if c.metaclass = .abstract then
          .ok (.set true ((c.missingMethods).map Value.text))
        else .error (.noPart name)
      else if name = ("__annotations__" : Text) then .error missing
      else if known || hasMethod c name || (name = ("__class_getitem__" : Text) && c.brackets?.isSome)
      then .ok (.method (.ofClass ref) name)
      else if name = ("register" : Text) && c.metaclass = .abstract then
        .ok (.method (.ofClass ref) name)
      else if descriptors.contains name && (c.lineage.any fun body =>
          body.ref.isBuiltin && ((["int", "float", "complex", "range", "slice", "BaseException"] :
            List String).map Text.ofString).contains body.ref.name) then
        .ok (.other "getset_descriptor" (Value.inAngles (("attribute '" : Text) ++ name ++
          ("' of '" : Text) ++ ref.name ++ ("' objects" : Text))))
      else .error missing

/-! ## Parts of types -/

/-- A part of a form, or of a type from one or from a generic class: its own, or else a part of the
class that it stands for. -/
def typePart (env : Environment) (type : Value) (own : NameTable) (ref : Option ClassRef)
    (name : Text) : Except CodeFault Value :=
  let usual : NameTable :=
    [("__class__", .ofClass (env.classOf type)), ("__doc__", .null), ("_inst", .truth false)]
  match (own ++ usual).find? (if name = ("__qualname__" : Text) then "__name__" else name), ref with
  | some value, _ => .ok value
  | none, ref =>
    if reservedNames.contains name || name = ("__mro_entries__" : Text) ||
        name = ("__getitem__" : Text) || name = ("__or__" : Text) || name = ("__ror__" : Text) ||
        name = ("__call__" : Text) then .ok (.method type name)
    else
      match ref with
      | some ref => if isReservedPart name then .error (.noPart name) else env.classPart ref name
      | none => .error (.noPart name)

/-- The parts that a type has from what it is made from. -/
def originParts (origin : Value) (arguments : List Value) : NameTable :=
  [("__origin__", origin), ("__args__", .tuple arguments),
    ("__parameters__", .tuple ((Value.tuple arguments).parameters.map Value.variable))]

/-- The parts of what has a name in a namespace, before other ones. -/
def namedParts (name codeNamespace : Text) (others : NameTable) : NameTable :=
  ("__name__", .text name) :: ("__module__", .text codeNamespace) :: others

/-- The parts of a type from a head. -/
def headParts (head : TypeHead) (arguments : List Value) : NameTable :=
  match head with
  | .generic ref =>
    namedParts ref.name ref.codeNamespace
      (("_name", .null) :: originParts (.ofClass ref) arguments)
  | .collection ref => ("__unpacked__", .truth false) :: originParts (.ofClass ref) arguments
  | .form f =>
    namedParts f.name "typing"
      (("_name", .text f.name) ::
        originParts ((f.origin?.map Value.ofClass).getD (.form f)) arguments)

/-! ## Parts of other values -/

/-- The parts of an integer. -/
def integerParts (n : Int) : NameTable :=
  [("real", .integer n), ("numerator", .integer n), ("imag", .integer 0),
    ("denominator", .integer 1)]

/-- The parts of a constant. -/
def constantParts : Constant → NameTable
  | .real x =>
    [("real", .constant (.real x)), ("imag", .constant (.real (Binary64.zero false)))]
  | .complex re im => [("real", .constant (.real re)), ("imag", .constant (.real im))]
  | c => (c.integer?.map integerParts).getD []

/-- The parts of an exception, of which some are there before it is set up. -/
def exceptionParts (env : Environment) (ref : ClassRef) (arguments : List Value)
    (parts : NameTable) : NameTable :=
  let families := ((env.class? ref).map Class.builtinAncestry).getD []
  List.flatten [
    [("args", .tuple arguments), ("__cause__", .null), ("__context__", .null),
      ("__traceback__", .null), ("__suppress_context__", .truth false),
      ("__dict__", .dictionary [])],
    parts, (exceptionFields families).map fun name => (name, .null)]

/-- The namespace of the code that is run. -/
def homeSpace (env : Environment) : Value :=
  (env.names.find? "__name__").getD .null

/-- The parts of the values that are no classes, types or instances of classes. -/
def plainParts (env : Environment) : Value → NameTable
  | .constant c => constantParts c
  | .variable n =>
    [("__name__", .text n), ("__bound__", .null), ("__constraints__", .tuple []),
      ("__covariant__", .truth false), ("__contravariant__", .truth false),
      ("__module__", env.homeSpace)]
  | .function codeNamespace owner n =>
    namedParts n codeNamespace
      [("__qualname__", .text (Value.functionName owner n)), ("__doc__", .null), ("__dict__", .dictionary []),
        ("__defaults__", .null), ("__kwdefaults__", .null), ("__closure__", .null),
        ("__annotations__", .dictionary [])]
  | .closure number =>
    let closure := env.closures[number]?
    let space := if (closure.map Closure.place).all Place.isHome then env.homeSpace else .null
    let defaults := ((closure.map Closure.parameters).getD []).filterMap fun p =>
      if p.1.way = .byName then none else p.2
    [("__name__", .text closureName),
      ("__qualname__", .text ((closure.map Closure.name).getD closureName)),
      ("__module__", space), ("__doc__", .null), ("__dict__", .dictionary []),
      ("__defaults__", if defaults.isEmpty then .null else .tuple defaults),
      ("__annotations__", .dictionary [])]
  | .builtinFunction n => namedParts n "builtins" [("__qualname__", .text n), ("__doc__", .null)]
  | .method owner n =>
    [("__name__", .text n), ("__self__", owner),
      ("__qualname__", .text (env.kindName owner ++ ("." : Text) ++ n)), ("__doc__", .null)]
  | .unbound _ owner n =>
    [("__name__", .text n), ("__objclass__", .ofClass owner),
      ("__qualname__", .text (owner.name ++ ("." : Text) ++ n)), ("__doc__", .null)]
  | .range start stop step =>
    [("start", .integer start), ("stop", .integer stop), ("step", .integer step)]
  | .slice start stop step => [("start", start), ("stop", stop), ("step", step)]
  | .union _ members => originParts (.form .union) members |>.drop 1
  | .forward source _ =>
    [("__forward_arg__", .text source), ("__forward_evaluated__", .truth false),
      ("__forward_value__", .null), ("__forward_is_argument__", .truth true),
      ("__forward_is_class__", .truth false), ("__forward_module__", .null)]
  | .module name => moduleParts name
  | .object _ _ => [("__dict__", .dictionary [])]
  | .exception _ ref arguments parts => env.exceptionParts ref arguments parts
  | _ => []

/-- The names of the functions that every iteration has. -/
def iterationNames : List Text := namesIn ["__iter__ __next__ __length_hint__ __setstate__"]

/-- A value has a function of its own under a name. -/
def hasOwnFunction (env : Environment) (value : Value) (name : Text) : Bool :=
  let kind := env.kindName value
  (methodArity? kind name).isSome || (reservedNamesOf kind).contains name ||
    reservedNames.contains name ||
    (match value with
      | .iterator _ _ => iterationNames.contains name
      | .closure _ | .function _ _ _ => (reservedNamesOf "function").contains name
      | .union true _ => name = ("__or__" : Text) || name = ("__ror__" : Text)
      | .variable _ => name = ("__or__" : Text) || name = ("__ror__" : Text)
      | _ => false)

/-- What a part of an instance of a class stands for. -/
def instancePart? (env : Environment) (value : Value) (ref : ClassRef) (name : Text) :
    Option Value :=
  match env.class? ref with
  | none => none
  | some c =>
    match c.member? name with
    | some (.function _ _ _) | some (.closure _) => some (.method value name)
    | some member => some member
    | none =>
      if name = ("__module__" : Text) && !ref.isBuiltin then some (.text ref.codeNamespace)
      else if hasMethod c name then some (.method value name)
      else none

/-- The value as messages name it that say which part it does not have. -/
def ownerLabel (env : Environment) : Value → Text
  | .module name => ("module " : Text) ++ name.quote
  | value => ("'" : Text) ++ env.kindName value ++ ("' object" : Text)

/-- What a part of a value other than a class or a type stands for. -/
def valuePart (env : Environment) (value : Value) (name : Text) : Except CodeFault Value :=
  let ofInstance := match value with
    | .object _ ref | .exception _ ref _ _ => env.instancePart? value ref name
    | _ => none
  if name = ("__class__" : Text) then .ok (.ofClass (env.classOf value))
  else
    match (env.plainParts value).find? name, ofInstance with
    | some found, _ | none, some found => .ok found
    | none, none =>
      if name = ("__hash__" : Text) && value.changeable?.isSome then .ok .null
      else if env.hasOwnFunction value name then .ok (.method value name)
      else
        .error (.noAttribute (env.ownerLabel value) name)

/-- What a part of a value stands for. -/
def part (env : Environment) (name : Text) : Value → Except CodeFault Value
  | .ofClass ref => env.classPart ref name
  | .form f =>
    let origin : NameTable := f.origin?.toList.map fun ref => ("__origin__", .ofClass ref)
    let named : NameTable := ("_name", .text f.name) :: origin
    env.typePart (.form f) (namedParts f.name "typing" named) f.origin? name
  | .apply (.collection ref) arguments =>
    let type := Value.apply (.collection ref) arguments
    if name = ("__class__" : Text) then .ok (.ofClass (env.classOf type))
    else
      match (headParts (.collection ref) arguments).find? name with
      | some value => .ok value
      | none => env.classPart ref name
  | .apply head arguments =>
    env.typePart (.apply head arguments) (headParts head arguments) head.origin? name
  | .remarked inner remarks =>
    let own : NameTable :=
      [("__name__", .text "Annotated"), ("__origin__", inner), ("__args__", .tuple [inner]),
        ("__metadata__", .tuple remarks), ("__module__", .text "typing"),
        ("__parameters__", .tuple (inner.parameters.map Value.variable)),
        ("__class__", .ofClass (env.classOf (.remarked inner remarks))), ("__doc__", .null)]
    match own.find? (if name = ("__qualname__" : Text) then "__name__" else name) with
    | some value => .ok value
    | none =>
      if isReservedPart name then
        if reservedNames.contains name then .ok (.method (.remarked inner remarks) name)
        else .error (.noPart name)
      else part env name inner
  | .union false members =>
    let label : Text := if members.length = 2 && members.any Value.isNullClass then "Optional"
      else "Union"
    env.typePart (.union false members)
      (namedParts label "typing" (("_name", .text label) :: originParts (.form .union) members))
      none name
  | value => env.valuePart value name

end Environment

namespace Eval

/-- What a part of a value stands for. -/
def part (value : Value) (name : Text) : Eval Value := do
  ofExcept ((← get).part name value)

end Eval

end QueryScaffold
