import QueryScaffold.Class.Basic
import QueryScaffold.Class.Exception

/-!
# The classes and names that need no module

* `standardClasses`: the classes that are there without any container module;
* `builtinNames`: names that are there without a module;
* `typingNames`: names that a container module takes from elsewhere.

Every class inherits from `object`; a generic one also inherits from `Generic`.
-/

namespace QueryScaffold

/-! ## Built-in classes -/

/-- The class that every class inherits from. -/
def objectBody : ClassBody :=
  { ref := .object
    maker := some (.builtin ClassRef.object.name)
    bases := [], base := none, keepsAttributes := false, keepsMarks := false }

/-- The class that every class inherits from, with nothing that it inherits. -/
def objectClass : Class := ⟨objectBody, [], .object⟩

/-- The texts of a list of strings. -/
def textsOf (names : List String) : List Text := names.map Text.ofString

/-- The built-in classes besides those of exceptions, without `object`. -/
def builtinClassNames : List Text :=
  textsOf ["bool", "bytearray", "bytes", "classmethod", "complex", "dict", "enumerate", "filter",
    "float", "frozenset", "int", "list", "map", "memoryview", "module", "property", "range",
    "reversed", "set", "slice", "staticmethod", "str", "super", "tuple", "type", "zip", "NoneType",
    "function", "builtin_function_or_method", "ellipsis", "generator"]

/-- The built-in classes that take any arguments in brackets. -/
def builtinCollections : List Text :=
  textsOf ["dict", "enumerate", "frozenset", "list", "set", "tuple", "BaseExceptionGroup"]

/-- The built-in classes from which no class can inherit. -/
def finalClasses : List Text :=
  textsOf ["bool", "memoryview", "range", "slice", "NoneType", "function",
    "builtin_function_or_method", "ellipsis", "generator"]

/-- The built-in classes of exceptions that fix how their instances are kept. -/
def layoutExceptions : List Text :=
  textsOf ["BaseException", "BaseExceptionGroup", "SystemExit", "AttributeError", "ImportError",
    "NameError", "OSError", "StopIteration", "SyntaxError", "UnicodeDecodeError",
    "UnicodeEncodeError", "UnicodeTranslateError"]

/-- The built-in classes besides those of exceptions that set their instances up in a step of its
own. -/
def settingUp : List Text :=
  textsOf ["bytearray", "classmethod", "dict", "list", "module", "property", "set", "staticmethod",
    "super", "type"]

/-- The built-in classes whose instances keep attributes that are given to them. -/
def keepingAttributes : List Text :=
  textsOf ["classmethod", "module", "staticmethod", "type"]

/-- The built-in classes to whose instances nothing else has to be added for them to be referred to
without being kept. -/
def keepingMarks : List Text :=
  textsOf ["bytes", "frozenset", "int", "module", "set", "tuple", "type"]

/-- The maker that a built-in class has of its own. -/
def builtinMaker? (name : Text) : Option Maker :=
  if exceptionsWithoutMaker.contains name then none
  else if 1 < (exceptionAncestry name).length && (exceptionAncestry name).contains "OSError" then
    some (.builtin "OSError")
  else if 1 < (exceptionAncestry name).length && name ≠ ("MemoryError" : Text) &&
      name ≠ ("BaseExceptionGroup" : Text) then
    some (.builtin "BaseException")
  else some (.builtin name)

/-- How a built-in class sets up instances, if it does it in a step of its own. -/
def builtinInitializer? (name : Text) : Option Initializer :=
  if settingUp.contains name || (exceptionAncestry name).length ≠ 0 then some (.builtin name)
  else none

/-- What a built-in class says itself, with the class that it inherits from. -/
def builtinBody (name base : Text) : ClassBody :=
  let isException := (exceptionAncestry name).length ≠ 0
  { ref := .builtin name
    brackets :=
      if builtinCollections.contains name then some .anything
      else if name = ("type" : Text) then some .anythingItself
      else none
    maker := builtinMaker? name
    initializer := builtinInitializer? name
    heritage := if finalClasses.contains name then .final else .free
    bases := [.builtin base]
    base := some (.builtin base)
    keepsAttributes := isException || keepingAttributes.contains name
    keepsMarks := !isException && keepingMarks.contains name }

/-- A built-in class that inherits from `object` alone. -/
def builtinClass (name : Text) : Class :=
  ⟨builtinBody name "object", [objectBody], .builtin name⟩

/-- The class of truth values, which are integers. -/
def boolClass : Class :=
  ⟨builtinBody "bool" "int", [builtinBody "int" "object", objectBody], .builtin "int"⟩

/-- What classes of exceptions say themselves, each with the next one as its base. -/
def exceptionBodies : List Text → List ClassBody
  | [] => []
  | [name] => [builtinBody name "object"]
  | name :: base :: rest => builtinBody name base :: exceptionBodies (base :: rest)

/-- A built-in class of exceptions. -/
def exceptionClass (name : Text) : Class :=
  let ancestry := exceptionAncestry name
  let layout := (ancestry.find? layoutExceptions.contains).getD name
  ⟨(exceptionBodies ancestry).headD objectBody, (exceptionBodies ancestry).drop 1 ++ [objectBody],
    .builtin layout⟩

/-- The class of groups of exceptions. -/
def exceptionGroupClass : Class :=
  ⟨{ ref := .builtin "ExceptionGroup"
     bases := [.builtin "BaseExceptionGroup", .builtin "Exception"]
     base := some (.builtin "BaseExceptionGroup") },
    builtinBody "BaseExceptionGroup" "BaseException" ::
      exceptionBodies (exceptionAncestry "Exception") ++ [objectBody],
    .builtin "BaseExceptionGroup"⟩

/-! ## Other classes -/

/-- The class of everything. -/
def anyClass : Class :=
  ⟨{ ref := .any, maker := some (.abstract "Any cannot be instantiated"), metaclass := .any },
    [objectBody], .object⟩

/-- The class that generic classes inherit from. -/
def genericClass : Class :=
  ⟨{ ref := .generic, brackets := some .parameters, heritage := .generic
     keepsAttributes := false, keepsMarks := false },
    [objectBody], .object⟩

/-- The class of types with remarks. -/
def annotatedClass : Class :=
  ⟨{ ref := .annotated
     brackets := some .remarks
     maker := some (.abstract "Type Annotated cannot be instantiated.")
     heritage := .refused "Cannot subclass " ".Annotated" true },
    [objectBody], .object⟩

/-- The class of type variables. -/
def typeVariableClass : Class :=
  ⟨{ ref := .typeVariable
     initializer := some (.builtin ClassRef.typeVariable.name)
     heritage := .refused "Cannot subclass special typing classes" [] false },
    [objectBody], .object⟩

/-- The class of days. -/
def dateClass : Class :=
  ⟨{ ref := .date, maker := some (.builtin ClassRef.date.name)
     keepsAttributes := false, keepsMarks := false },
    [objectBody], .date⟩

/-- A class of collections that is only there to be inherited from, with the methods that its
instances need. -/
def abstractBody (name : Text) (brackets : Option Brackets) (methods : List (Text × Bool)) :
    ClassBody :=
  { ref := .abstractCollection name, brackets, methods, metaclass := .abstract
    keepsAttributes := false, keepsMarks := false }

/-- What one can go through. -/
def iterableBody : ClassBody := abstractBody "Iterable" (some .anything) [("__iter__", true)]

/-- What one goes through once. -/
def iteratorBody : ClassBody :=
  abstractBody "Iterator" none [("__next__", true), ("__iter__", false)]

/-- What `Sequence` inherits from, nearest first. -/
def sequenceBases : List ClassBody :=
  [abstractBody "Reversible" none [("__reversed__", true)], abstractBody "Collection" none [],
    abstractBody "Sized" none [("__len__", true)], iterableBody,
    abstractBody "Container" (some .anything) [("__contains__", true)]]

/-- What has items in an order. -/
def sequenceBody : ClassBody :=
  abstractBody "Sequence" none
    [("__getitem__", true), ("__iter__", false), ("__contains__", false), ("__reversed__", false)]

/-- The classes of collections that are only there to be inherited from. -/
def abstractClasses : List Class :=
  [⟨iterableBody, [objectBody], .object⟩, ⟨iteratorBody, [iterableBody, objectBody], .object⟩,
    ⟨sequenceBody, sequenceBases ++ [objectBody], .object⟩]

/-- The built-in classes of exceptions. -/
def exceptionNames : List Text := exceptionBases.map Prod.fst

/-- The classes that are there without any container module. -/
def standardClasses : List Class :=
  objectClass :: boolClass :: (builtinClassNames.drop 1).map builtinClass ++
    exceptionNames.map exceptionClass ++ [exceptionGroupClass] ++
    [anyClass, genericClass, annotatedClass, typeVariableClass, dateClass] ++ abstractClasses

/-! ## Names -/

/-- The built-in functions. -/
def builtinFunctions : List Text :=
  textsOf ["__build_class__", "__import__", "abs", "aiter", "all", "anext", "any", "ascii", "bin",
    "breakpoint", "callable", "chr", "compile", "delattr", "dir", "divmod", "eval", "exec",
    "format", "getattr", "globals", "hasattr", "hash", "hex", "id", "input", "isinstance",
    "issubclass", "iter", "len", "locals", "max", "min", "next", "oct", "open", "ord", "pow",
    "print", "repr", "round", "setattr", "sorted", "sum", "vars"]

/-- Names with what a function makes of each. -/
def tabulate (make : Text → Value) (names : List Text) : NameTable :=
  names.map fun name => (name, make name)

/-- A built-in class as a value. -/
def builtinValue (name : Text) : Value := .ofClass (.builtin name)

/-- The built-in classes without names. -/
def namelessClasses : List Text :=
  textsOf ["module", "NoneType", "function", "builtin_function_or_method", "ellipsis", "generator"]

/-- The built-in classes that have names. -/
def namedClasses : List Text :=
  "object" :: builtinClassNames.filter fun name => !namelessClasses.contains name

/-- Built-in names for values of other kinds. -/
def builtinConstants : NameTable :=
  [("None", .null), ("True", .truth true), ("False", .truth false), ("__debug__", .truth true),
    ("Ellipsis", .constant .ellipsis),
    ("NotImplemented", .other "NotImplementedType" "NotImplemented"),
    ("exit", .other "Quitter" "Use exit() or Ctrl-D (i.e. EOF) to exit"),
    ("quit", .other "Quitter" "Use quit() or Ctrl-D (i.e. EOF) to exit"),
    ("help", .other "_Helper"
      "Type help() for interactive help, or help(object) for help about object."),
    ("copyright", .other "_Printer" []), ("credits", .other "_Printer" []),
    ("license", .other "_Printer" [])]

/-- Names that are there without a module. -/
def builtinNames : NameTable :=
  List.flatten
    [tabulate builtinValue namedClasses, tabulate builtinValue exceptionNames,
      tabulate .builtinFunction builtinFunctions,
      [("ExceptionGroup", builtinValue "ExceptionGroup"), ("IOError", builtinValue "OSError"),
        ("EnvironmentError", builtinValue "OSError")],
      builtinConstants]

/-- The name that asks for annotations to be kept as they are written. -/
def annotationsFeature : Text × Value :=
  ("annotations", .other "_Feature" "_Feature((3, 7, 0, 'beta', 1), None, 16777216)")

/-- Names that a container module takes from elsewhere. -/
def typingNames : NameTable :=
  [annotationsFeature,
    ("Iterable", .ofClass (.abstractCollection "Iterable")),
    ("Iterator", .ofClass (.abstractCollection "Iterator")),
    ("Sequence", .ofClass (.abstractCollection "Sequence")),
    ("Annotated", .ofClass .annotated), ("Any", .ofClass .any), ("Generic", .ofClass .generic),
    ("TypeVar", .ofClass .typeVariable), ("ClassVar", .form .classVar), ("Final", .form .final),
    ("List", .form .list), ("Literal", .form .literal), ("Optional", .form .optional),
    ("Set", .form .set), ("Union", .form .union), ("T", .variable "T"), ("U", .variable "U")]

end QueryScaffold
