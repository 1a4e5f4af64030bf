import QueryScaffold.Class.Exception
import QueryScaffold.Class.Making

/-!
# What built-in classes give their instances

* `Arity`: which arguments a built-in function takes;
* `Arity.fault?`: why it does not take so many arguments;
* `methodArity?`, `functionArity?`: the functions of built-in classes, and those without a class;
* `reservedNames`, `classNames`: the names that every value has, and those that every class has;
* `givesFunction`: the functions that a built-in class itself gives its instances.
-/

namespace QueryScaffold

/-- Which arguments a built-in function takes. -/
inductive Arity
  | nothing
  | one
  /-- So many arguments without names; there may be no greatest number. -/
  | between (least : Nat) (greatest : Option Nat)
  /-- The same in other words, and with a greatest number. -/
  | taking (least greatest : Nat)
  /-- Arguments that may be given by these names: the first ones are needed, and so many may be
  given by their places. -/
  | named (names : List Text) (least greatest : Nat)
  /-- Any arguments. -/
  | free
deriving DecidableEq

namespace Arity

/-- The words for a number of arguments that is needed or allowed. -/
def boundText (count : Nat) : Text :=
  Text.ofNat count ++ (" " : Text) ++ countedWord count "argument"

/-- The words for the number of arguments that are given. -/
def givenText (count : Nat) : Text :=
  (" (" : Text) ++ Text.ofNat count ++ (" given)" : Text)

/-- What a function says that is given the wrong number of arguments. -/
def expectedText (name bound : Text) (limit given : Nat) : Text :=
  name ++ (" expected " : Text) ++ bound ++ boundText limit ++ (", got " : Text) ++
    Text.ofNat given

/-- Why a function does not take arguments by name, of which the first one has a name. -/
def nameFault? (arity : Arity) (full short : Text) (places : Nat) (names : List Text) :
    Option Text :=
  match arity, names with
  | .free, _ | _, [] => none
  | .taking _ _, _ => some (short ++ ("() takes no keyword arguments" : Text))
  | .named allowed _ _, names =>
    match names.find? fun name => !allowed.contains name,
      names.find? fun name => (allowed.take places).contains name with
    | some name, _ =>
      some (("'" : Text) ++ name ++ ("' is an invalid keyword argument for " : Text) ++ short ++
        ("()" : Text))
    | none, some name =>
      some (("argument for " : Text) ++ short ++ ("() given by name ('" : Text) ++ name ++
        ("') and position (" : Text) ++ Text.ofNat (allowed.idxOf name + 1) ++ (")" : Text))
    | none, none => none
  | _, _ => some (full ++ ("() takes no keyword arguments" : Text))

/-- Why a function does not take so many arguments without names. -/
def countFault? (arity : Arity) (full short : Text) (places : Nat) (names : List Text) :
    Option Text :=
  match arity with
  | .free => none
  | .nothing =>
    if places = 0 then none
    else some (full ++ ("() takes no arguments" : Text) ++ givenText places)
  | .one =>
    if places = 1 then none
    else some (full ++ ("() takes exactly one argument" : Text) ++ givenText places)
  | .between least greatest =>
    if greatest = some least && places ≠ least then some (expectedText short [] least places)
    else if places < least then some (expectedText short "at least " least places)
    else
      match greatest with
      | some most =>
        if most < places then some (expectedText short "at most " most places) else none
      | none => none
  | .taking least greatest =>
    if places < least then
      some (short ++ ("() takes at least " : Text) ++ boundText least ++ givenText places)
    else if greatest < places then
      some (short ++ ("() takes at most " : Text) ++ boundText greatest ++ givenText places)
    else none
  | .named allowed least greatest =>
    let way : Text := if greatest < allowed.length then "positional " else []
    let given := if greatest < allowed.length then places else places + names.length
    if greatest < places || allowed.length < given then
      let bound : Text := if greatest = least && greatest < allowed.length then "exactly "
        else "at most "
      some (short ++ ("() takes " : Text) ++ bound ++ Text.ofNat greatest ++ (" " : Text) ++ way ++
        countedWord greatest "argument" ++ givenText given)
    else
      ((allowed.take least).zipIdx.find? fun (name, place) =>
          places ≤ place && !names.contains name).map fun (name, place) =>
        short ++ ("() missing required argument '" : Text) ++ name ++ ("' (pos " : Text) ++
          Text.ofNat (place + 1) ++ (")" : Text)

/-- Why a function does not take so many arguments without names, and others by name. -/
def fault? (arity : Arity) (full short : Text) (places : Nat) (names : List Text) : Option Text :=
  match arity with
  | .named _ _ _ =>
    (arity.countFault? full short places names).or (arity.nameFault? full short places names)
  | arity =>
    (arity.nameFault? full short places names).or (arity.countFault? full short places names)

end Arity

/-! ## The functions of built-in classes -/

/-- The names in a line, each with an arity. -/
def withArity (arity : Arity) (line : String) : List (Text × Arity) :=
  ((Text.ofString line).split (CodePoint.ofChar ' ')).map fun name => (name, arity)

/-- The functions of texts. -/
def textMethods : List (Text × Arity) :=
  List.flatten [
    withArity .nothing "capitalize casefold isalnum isalpha isascii isdecimal isdigit isidentifier",
    withArity .nothing "islower isnumeric isprintable isspace istitle isupper lower swapcase title",
    withArity .nothing "upper",
    withArity (.between 1 (some 2)) "center ljust rjust",
    withArity (.taking 1 3) "count endswith find index rfind rindex startswith",
    withArity (.named ["encoding", "errors"] 0 2) "encode",
    withArity (.named ["sep", "maxsplit"] 0 2) "rsplit split",
    withArity (.named ["tabsize"] 0 1) "expandtabs",
    withArity (.named ["keepends"] 0 1) "splitlines",
    withArity .one "format_map join partition removeprefix removesuffix rpartition translate zfill",
    withArity (.between 0 (some 1)) "lstrip rstrip strip",
    withArity (.between 1 (some 3)) "maketrans",
    withArity (.between 2 (some 3)) "replace",
    withArity .free "format"]

/-- The functions of bytes. -/
def byteMethods : List (Text × Arity) :=
  List.flatten [
    withArity .nothing "capitalize isalnum isalpha isascii isdigit islower isspace istitle isupper",
    withArity .nothing "lower swapcase title upper",
    withArity (.between 1 (some 2)) "center ljust rjust",
    withArity (.taking 1 3) "count endswith find index rfind rindex startswith",
    withArity (.named ["encoding", "errors"] 0 2) "decode",
    withArity (.named ["sep", "maxsplit"] 0 2) "rsplit split",
    withArity (.named ["tabsize"] 0 1) "expandtabs",
    withArity (.named ["keepends"] 0 1) "splitlines",
    withArity (.named ["sep", "bytes_per_sep"] 0 2) "hex",
    withArity (.named ["", "delete"] 1 1) "translate",
    withArity .one "fromhex join partition removeprefix removesuffix rpartition zfill",
    withArity (.between 0 (some 1)) "lstrip rstrip strip",
    withArity (.between 2 (some 2)) "maketrans",
    withArity (.between 2 (some 3)) "replace"]

/-- The functions of integers. -/
def integerMethods : List (Text × Arity) :=
  withArity .nothing "as_integer_ratio bit_count bit_length conjugate" ++
    withArity (.named ["length", "byteorder", "signed"] 0 2) "to_bytes" ++
    withArity (.named ["bytes", "byteorder", "signed"] 1 2) "from_bytes"

/-- The functions of other built-in classes that give their instances any. -/
def otherMethods : List (Text × List (Text × Arity)) := [
  ("float", withArity .nothing "as_integer_ratio conjugate hex is_integer" ++
    withArity .one "fromhex"),
  ("complex", withArity .nothing "conjugate"),
  ("list", withArity .nothing "clear copy reverse" ++
    withArity .one "append count extend remove" ++ withArity (.between 1 (some 3)) "index" ++
    withArity (.between 2 (some 2)) "insert" ++ withArity (.between 0 (some 1)) "pop" ++
    withArity (.named ["key", "reverse"] 0 0) "sort"),
  ("tuple", withArity .one "count" ++ withArity (.between 1 (some 3)) "index"),
  ("dict", withArity .nothing "clear copy items keys popitem values" ++
    withArity (.between 1 (some 2)) "fromkeys get pop setdefault" ++ withArity .free "update"),
  ("mappingproxy", withArity .nothing "copy items keys values" ++
    withArity (.between 1 (some 2)) "get"),
  ("set", withArity .nothing "clear copy pop" ++
    withArity .one "add discard isdisjoint issubset issuperset remove symmetric_difference" ++
    withArity .one "symmetric_difference_update" ++
    withArity (.between 0 none) "difference intersection union" ++
    withArity (.between 0 none) "difference_update intersection_update update"),
  ("frozenset", withArity .nothing "copy" ++
    withArity .one "isdisjoint issubset issuperset symmetric_difference" ++
    withArity (.between 0 none) "difference intersection union"),
  ("memoryview", withArity .nothing "hex release tobytes tolist"),
  ("range", withArity .one "count index"),
  ("slice", withArity .one "indices"),
  ("dict_keys", withArity .one "isdisjoint"),
  ("dict_items", withArity .one "isdisjoint"),
  ("generator", withArity .nothing "close" ++ withArity .one "send" ++
    withArity (.between 1 (some 3)) "throw"),
  ("BaseException", withArity .one "add_note with_traceback")]

/-- The functions that a built-in class gives its instances. -/
def methodsOf (className : Text) : List (Text × Arity) :=
  if className = ("str" : Text) then textMethods
  else if className = ("bytes" : Text) || className = ("bytearray" : Text) then byteMethods
  else if className = ("int" : Text) || className = ("bool" : Text) then integerMethods
  else ((otherMethods.find? fun entry => entry.1 = className).map Prod.snd).getD []

/-- The functions that belong to a class itself. -/
def ownFunctions : List (Text × Text) :=
  [("dict", "fromkeys"), ("str", "maketrans"), ("bytes", "maketrans"), ("bytes", "fromhex"),
    ("bytearray", "fromhex"), ("bytearray", "maketrans"),
    ("int", "from_bytes"), ("bool", "from_bytes"), ("float", "fromhex")]

/-- The arity of a function that a built-in class gives its instances. -/
def methodArity? (className name : Text) : Option Arity :=
  ((methodsOf className).find? fun entry => entry.1 = name).map Prod.snd

/-! ## Functions without a class -/

/-- The built-in functions with their arities. -/
def functionArities : List (Text × Arity) :=
  List.flatten [
    withArity .one "abs aiter all any ascii bin callable chr hash hex id len oct ord repr",
    withArity (.between 1 (some 2)) "anext format iter next",
    withArity (.between 2 (some 2)) "delattr divmod hasattr isinstance issubclass",
    withArity (.between 0 (some 1)) "dir vars input",
    withArity (.between 1 (some 3)) "eval",
    withArity (.named ["source", "globals", "locals", "closure"] 1 3) "exec",
    withArity (.between 2 (some 3)) "getattr",
    withArity (.between 3 (some 3)) "setattr",
    withArity .nothing "globals locals",
    withArity (.named ["base", "exp", "mod"] 2 3) "pow",
    withArity (.named ["number", "ndigits"] 1 2) "round",
    withArity (.named ["", "start"] 1 2) "sum",
    withArity (.named ["file", "mode", "buffering", "encoding", "errors", "newline", "closefd",
      "opener"] 1 8) "open",
    withArity (.named ["name", "globals", "locals", "fromlist", "level"] 1 5) "__import__",
    withArity (.named ["source", "filename", "mode", "flags", "dont_inherit", "optimize",
      "_feature_version"] 3 6) "compile"]

/-- The arity of a built-in function; one that is not listed looks at its arguments itself. -/
def functionArity (name : Text) : Arity :=
  ((functionArities.find? fun entry => entry.1 = name).map Prod.snd).getD .free

/-! ## Names that values have -/

/-- The words of lines, which have one blank between neighbours. -/
def namesIn (lines : List String) : List Text :=
  lines.flatMap fun line => (Text.ofString line).split (CodePoint.ofChar ' ')

/-- The reserved names that every value has. -/
def reservedNames : List Text :=
  namesIn [
    "__class__ __delattr__ __dir__ __doc__ __eq__ __format__ __ge__ __getattribute__ __getstate__",
    "__gt__ __hash__ __init__ __init_subclass__ __le__ __lt__ __ne__ __new__ __reduce__",
    "__reduce_ex__ __repr__ __setattr__ __sizeof__ __str__ __subclasshook__"]

/-- The names that every class has besides. -/
def classNames : List Text :=
  namesIn [
    "__abstractmethods__ __annotations__ __base__ __bases__ __basicsize__ __call__ __dict__",
    "__dictoffset__ __flags__ __instancecheck__ __itemsize__ __module__ __mro__ __name__ __or__",
    "__prepare__ __qualname__ __ror__ __subclasscheck__ __subclasses__ __text_signature__",
    "__weakrefoffset__ mro"]

/-- The reserved names of numbers. -/
def numberNames : List Text :=
  namesIn [
    "__abs__ __add__ __bool__ __mul__ __neg__ __pos__ __pow__ __radd__ __rmul__ __rpow__ __rsub__",
    "__rtruediv__ __sub__ __truediv__"]

/-- The reserved names of numbers that have an order. -/
def realNames : List Text :=
  namesIn [
    "__ceil__ __divmod__ __float__ __floor__ __floordiv__ __getnewargs__ __int__ __mod__",
    "__rdivmod__ __rfloordiv__ __rmod__ __round__ __trunc__"]

/-- The reserved names of integers. -/
def bitNames : List Text :=
  namesIn [
    "__and__ __index__ __invert__ __lshift__ __or__ __rand__ __rlshift__ __ror__ __rrshift__",
    "__rshift__ __rxor__ __xor__"]

/-- The reserved names of what has items in an order. -/
def sequenceNames : List Text :=
  namesIn ["__add__ __contains__ __getitem__ __iter__ __len__ __mul__ __rmul__"]

/-- The reserved names of sets. -/
def setNames : List Text :=
  namesIn [
    "__and__ __contains__ __iter__ __len__ __or__ __rand__ __ror__ __rsub__ __rxor__ __sub__",
    "__xor__"]

/-- The reserved names of what is changed in place. -/
def changeNames : List Text := namesIn ["__class_getitem__ __delitem__ __setitem__"]

/-- The reserved names of comparisons. -/
def comparisonNames : List Text :=
  namesIn ["__eq__ __ge__ __gt__ __hash__ __le__ __lt__ __ne__ __getattribute__ __repr__"]

/-- The reserved names that instances of a built-in class have besides those of every value. -/
def reservedNamesOf (className : Text) : List Text :=
  let isOf (names : List String) : Bool := (names.map Text.ofString).contains className
  if isOf ["int", "bool"] then numberNames ++ realNames ++ bitNames
  else if isOf ["float"] then numberNames ++ realNames
  else if isOf ["complex"] then numberNames ++ namesIn ["__complex__ __getnewargs__"]
  else if isOf ["str"] then sequenceNames ++ namesIn ["__getnewargs__ __mod__ __rmod__"]
  else if isOf ["bytes"] then
    sequenceNames ++ namesIn ["__bytes__ __getnewargs__ __mod__ __rmod__"]
  else if isOf ["bytearray"] then
    sequenceNames ++ namesIn ["__alloc__ __delitem__ __iadd__ __imul__ __mod__ __rmod__ __setitem__"]
  else if isOf ["memoryview"] then
    namesIn ["__delitem__ __enter__ __exit__ __getitem__ __iter__ __len__ __setitem__"]
  else if isOf ["tuple"] then sequenceNames ++ namesIn ["__class_getitem__ __getnewargs__"]
  else if isOf ["list"] then
    sequenceNames ++ changeNames ++ namesIn ["__iadd__ __imul__ __reversed__"]
  else if isOf ["dict"] then
    changeNames ++
      namesIn ["__contains__ __getitem__ __ior__ __iter__ __len__ __or__ __reversed__ __ror__"]
  else if isOf ["mappingproxy"] then
    namesIn ["__class_getitem__ __contains__ __getitem__ __iter__ __len__ __or__ __reversed__ __ror__"]
  else if isOf ["set"] then
    setNames ++ namesIn ["__class_getitem__ __iand__ __ior__ __isub__ __ixor__"]
  else if isOf ["frozenset"] then setNames ++ namesIn ["__class_getitem__"]
  else if isOf ["dict_keys", "dict_items"] then setNames ++ namesIn ["__reversed__"]
  else if isOf ["dict_values"] then namesIn ["__iter__ __len__ __reversed__"]
  else if isOf ["range"] then
    namesIn ["__bool__ __contains__ __getitem__ __iter__ __len__ __reversed__"]
  else if isOf ["NoneType"] then namesIn ["__bool__"]
  else if isOf ["function"] then
    namesIn ["__annotations__ __builtins__ __call__ __closure__ __code__ __defaults__ __dict__",
      "__get__ __globals__ __kwdefaults__ __module__ __name__ __qualname__"]
  else if isOf ["builtin_function_or_method"] then
    namesIn ["__call__ __module__ __name__ __qualname__ __self__ __text_signature__"]
  else []

/-! ## Where functions come from -/

/-- The reserved names of every value that a built-in class gives a meaning of its own, as far as
comparisons and the sizes of instances go. -/
def comparedNames (className : Text) : List Text :=
  let isOf (names : List String) : Bool := (names.map Text.ofString).contains className
  let compared := isOf ["bytearray", "bytes", "complex", "dict", "float", "frozenset", "int", "list",
    "memoryview", "range", "set", "slice", "str", "tuple", "builtin_function_or_method"]
  let sized := isOf ["bytearray", "dict", "frozenset", "int", "list", "set", "str", "type"]
  let laidOut := isOf ["complex", "float", "int", "str"]
  (if compared then comparisonNames else []) ++ (if sized then namesIn ["__sizeof__"] else []) ++
    if laidOut then namesIn ["__format__"] else []

/-- The other reserved names of every value that a built-in class gives a meaning of its own. -/
def ownReservedNames (className : Text) : List Text :=
  let isOf (names : List String) : Bool := (names.map Text.ofString).contains className
  if isOf ["object"] then reservedNames
  else if isOf ["type"] then
    namesIn ["__call__ __delattr__ __dir__ __getattribute__ __init__ __instancecheck__ __or__",
      "__repr__ __ror__ __setattr__ __subclasscheck__ __subclasses__ mro"]
  else if isOf ["bool"] then
    namesIn ["__and__ __or__ __rand__ __repr__ __ror__ __rxor__ __xor__"]
  else if isOf ["bytearray"] then namesIn ["__init__ __reduce__ __reduce_ex__ __str__"]
  else if isOf ["bytes", "str"] then namesIn ["__str__"]
  else if isOf ["dict", "list"] then namesIn ["__init__"]
  else if isOf ["set"] then namesIn ["__init__ __reduce__"]
  else if isOf ["frozenset", "range", "slice"] then namesIn ["__reduce__"]
  else if isOf ["classmethod", "staticmethod"] then namesIn ["__init__ __repr__"]
  else if isOf ["module"] then
    namesIn ["__delattr__ __dir__ __getattribute__ __init__ __repr__ __setattr__"]
  else if isOf ["property"] then namesIn ["__getattribute__ __init__"]
  else if isOf ["super"] then namesIn ["__getattribute__ __init__ __repr__"]
  else if isOf ["enumerate", "filter", "map", "reversed", "zip"] then
    namesIn ["__getattribute__ __reduce__"]
  else if isOf ["NoneType", "function"] then namesIn ["__repr__"]
  else if isOf ["BaseException"] then
    namesIn ["__delattr__ __getattribute__ __init__ __reduce__ __repr__ __setattr__ __str__"]
  else if exceptionsWithText.contains className then namesIn ["__init__ __str__"]
  else if 0 < (exceptionAncestry className).length then namesIn ["__init__"]
  else []

/-- A built-in class itself gives its instances a function of a name. -/
def givesFunction (className name : Text) : Bool :=
  (ownReservedNames className).contains name || (comparedNames className).contains name ||
    (className ≠ ("bool" : Text) &&
      ((methodArity? className name).isSome || (reservedNamesOf className).contains name))

/-- The names under which a class has functions for itself, and not for its instances. -/
def classFunctionNames : List Text :=
  namesIn ["__class_getitem__ __init_subclass__ __new__ __prepare__ __subclasshook__"]

/-- The reserved names of functions that stand for no operator. -/
def plainReservedNames : List Text :=
  namesIn [
    "__bytes__ __ceil__ __complex__ __dir__ __floor__ __format__ __getnewargs__ __getstate__",
    "__instancecheck__ __reduce__ __reduce_ex__ __reversed__ __round__ __sizeof__",
    "__subclasscheck__ __subclasses__ __trunc__"]

/-- A function of a built-in class stands for an operator or the like. -/
def isSlot (className name : Text) : Bool :=
  let isOf (names : List String) : Bool := (names.map Text.ofString).contains className
  let mark : Text := "__"
  mark.isPrefixOf name && !plainReservedNames.contains name &&
    !(name = ("__getitem__" : Text) && isOf ["dict", "list"]) &&
    !(name = ("__contains__" : Text) && isOf ["dict", "frozenset", "set"])

end QueryScaffold
