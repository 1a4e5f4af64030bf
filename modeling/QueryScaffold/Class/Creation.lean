import QueryScaffold.Class.Basic
import QueryScaffold.Value.Display
import QueryScaffold.Value.Equality

/-!
# What becomes of the bases of a class

* `CreationFault`: why no class comes of some bases;
* `Class.inheritedFrom`: the classes that a class with these bases inherits from;
* `Class.typeVariables`: the type variables of such a class;
* `Class.isKindOf`: the classes that classes belong to, some of which are special ones of others.

A class that inherits from `Generic` has the type variables that it lists there, or else those of all
its bases.
-/

namespace QueryScaffold

/-- Why no class comes of some bases. -/
inductive CreationFault
  /-- A form stands among the bases. -/
  | formAsBase (display : Text)
  /-- A value that is no class stands behind a form among the bases. -/
  | noClass
  /-- The bases belong to kinds that exclude each other. -/
  | mixedKinds
  | finalBase (name : Text)
  /-- The bases keep their instances in ways that exclude each other. -/
  | mixedLayouts
  /-- A class lists a base twice. -/
  | repeatedBase (name : Text)
  /-- No order of inheritance is consistent: these classes stand in each other's way. -/
  | noOrder (classes : List Text)
  /-- A base refuses classes that inherit from it. -/
  | refused (notice : Text)
  /-- A class lists `Generic` as a base without saying over what it is generic. -/
  | plainGeneric
  /-- A class says twice over what it is generic. -/
  | genericTwice
  /-- A class does not say that it is generic over these of its type variables. -/
  | unlistedVariables (unlisted listed : List Text)
deriving DecidableEq

namespace CreationFault

/-- Type variables as messages show them. -/
def variableList (names : List Text) : Text :=
  Text.joined (", " : Text) (names.map fun name => (Value.variable name).display)

/-- The fault in words. -/
def message : CreationFault → Text
  | .formAsBase display => ("Cannot subclass " : Text) ++ display
  | .noClass => "issubclass() arg 1 must be a class"
  | .mixedKinds =>
    ("metaclass conflict: the metaclass of a derived class must be a (non-strict) " : Text) ++
      ("subclass of the metaclasses of all its bases" : Text)
  | .finalBase name => ("type '" : Text) ++ name ++ ("' is not an acceptable base type" : Text)
  | .mixedLayouts => "multiple bases have instance lay-out conflict"
  | .repeatedBase name => ("duplicate base class " : Text) ++ name
  | .noOrder classes =>
    ("Cannot create a consistent method resolution\norder (MRO) for bases " : Text) ++
      Text.joined (", " : Text) classes
  | .refused notice => notice
  | .plainGeneric => "Cannot inherit from plain Generic"
  | .genericTwice => "Cannot inherit from Generic[...] multiple times."
  | .unlistedVariables unlisted listed =>
    ("Some type variables (" : Text) ++ variableList unlisted ++
      (") are not listed in Generic[" : Text) ++ variableList listed ++ ("]" : Text)

end CreationFault

namespace Value

/-- The value is a type from a form or a generic class. -/
def isGenericType : Value → Bool
  | .form f => f.origin?.isSome
  | .apply (.collection _) _ => false
  | .apply _ _ | .remarked _ _ | .union false _ => true
  | _ => false

/-- The value stands for other values where it is a base of a class. -/
def standsForBases : Value → Bool
  | .form _ | .apply _ _ | .remarked _ _ | .union false _ => true
  | _ => false

end Value

namespace Class

/-- Classes of the first kind are classes of the second one as well. -/
def isKindOf (kind other : Text) : Bool :=
  kind = other || (kind = ("bool" : Text) && other = ("int" : Text)) ||
    ((kind = Metaclass.abstract.name || kind = Metaclass.any.name) &&
      other = Metaclass.type.name)

/-- The kind that a class is to have: the most special one of its bases. -/
def kindOfBases (kinds : List Text) (start : Text) : Except CreationFault Text :=
  kinds.foldlM
    (fun winner kind =>
      if isKindOf winner kind then .ok winner
      else if isKindOf kind winner then .ok kind
      else .error .mixedKinds)
    start

/-- The first name that stands in a list twice. -/
def repeatedName? : List ClassRef → Option Text
  | [] => none
  | ref :: rest => if ref ∈ rest then some ref.name else repeatedName? rest

/-- The classes that a class with these bases inherits from, nearest first. -/
def inheritedFrom (bases : List Class) : Except CreationFault (List ClassBody) :=
  match repeatedName? (bases.map Class.ref) with
  | some name => .error (.repeatedBase name)
  | none =>
    match linearize bases with
    | .error heads => .error (.noOrder (heads.map ClassRef.name))
    | .ok inherited => .ok inherited

/-- The notice with which a class refuses one in a namespace that inherits from it. -/
def heritageNotice? (codeNamespace : Text) : Heritage → Option Text
  | .refused before after namesNamespace =>
    some (before ++ (if namesNamespace then codeNamespace else []) ++ after)
  | _ => none

/-- The type variables that types list after `Generic`. -/
def listedVariables : List Value → List (List Text)
  | [] => []
  | .apply (.generic ref) arguments :: rest =>
    if ref = .generic then (Value.tuple arguments).parameters :: listedVariables rest
    else listedVariables rest
  | _ :: rest => listedVariables rest

/-- The type variables of a generic class with written bases. -/
def variablesOf (written : List Value) : Except CreationFault (List Text) :=
  if written.any (Value.same (.ofClass .generic)) then .error .plainGeneric
  else
    let used := (Value.tuple written).parameters
    match listedVariables written with
    | [] => .ok used
    | [listed] =>
      let unlisted := used.filter fun name => !listed.contains name
      if unlisted.isEmpty then .ok listed else .error (.unlistedVariables unlisted listed)
    | _ => .error .genericTwice

/-- The type variables of a class that is generic, unless a class that it inherits from refuses
it. -/
def typeVariables (codeNamespace : Text) (written : List Value) (inherited : List ClassBody) :
    Except CreationFault (Option (List Text)) :=
  match inherited.findSome? fun body => heritageNotice? codeNamespace body.heritage with
  | some notice => .error (.refused notice)
  | none =>
    if inherited.any fun body => body.heritage = .generic then (variablesOf written).map some
    else .ok none

end Class

end QueryScaffold
