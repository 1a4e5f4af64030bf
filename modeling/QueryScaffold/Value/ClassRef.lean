import QueryScaffold.Text.Basic

/-!
# The identity of classes

* `ClassRef`: the identity of a class, by which shapes are compared;
* `ClassRef.label`, `ClassRef.display`: the class as messages show it;
* `ClassRef.builtin`: the classes that need no module.

A class is a new one each time its statement runs: it is told from all others by the load of the
module and by its number among the classes of that load. A module that has no name gives its classes
some other value as their namespace.
-/

namespace QueryScaffold

/-- The namespace of the code that has made a class. -/
inductive CodeNamespace
  | named (name : Text)
  /-- A value that is no name, as messages show it. -/
  | shown (display : Text)
  /-- The class does not say it. -/
  | unsaid
deriving DecidableEq

/-- The namespace in words. -/
def CodeNamespace.text : CodeNamespace → Text
  | .named name => name
  | .shown display => display
  | .unsaid => []

/-- The identity of a class. -/
inductive ClassRef
  /-- A class of a container module: which load of a module made it, and as which class. -/
  | declared (load serial : Nat) (codeNamespace : CodeNamespace) (name : Text)
  /-- A class that is there without any container module. -/
  | standard (codeNamespace name : Text)
deriving DecidableEq

namespace ClassRef

/-- The name of the class. -/
def name : ClassRef → Text
  | .declared _ _ _ name => name
  | .standard _ name => name

/-- The namespace of the class, in words. -/
def codeNamespace : ClassRef → Text
  | .declared _ _ space _ => space.text
  | .standard space _ => space

/-- The class does not say its namespace. -/
def hidesNamespace : ClassRef → Bool
  | .declared _ _ .unsaid _ => true
  | _ => false

/-- The name of the class within its namespace. -/
def qualifiedName (ref : ClassRef) : Text :=
  match ref with
  | .declared _ _ .unsaid name => name
  | ref => ref.codeNamespace ++ ("." : Text) ++ ref.name

/-- The namespace of what is built in. -/
def builtinSpace : Text := "builtins"

/-- The class is built in. -/
def isBuiltin : ClassRef → Bool
  | .declared _ _ _ _ => false
  | .standard space _ => space = builtinSpace

/-- The class in short: its name, within its namespace unless that is the one of what is built
in. -/
def label (ref : ClassRef) : Text :=
  if ref.codeNamespace = builtinSpace then ref.name else ref.qualifiedName

/-- The class as messages show it. A namespace that is no name is left out. -/
def display (ref : ClassRef) : Text :=
  let shown := match ref with
    | .declared _ _ (.shown _) name => name
    | ref => ref.label
  ("<class '" : Text) ++ shown ++ ("'>" : Text)

/-- The built-in class of a name. -/
def builtin (name : Text) : ClassRef := .standard builtinSpace name

/-- The class that every class inherits from. -/
def object : ClassRef := builtin "object"

/-- The class of classes. -/
def type : ClassRef := builtin "type"

/-- The class of null. -/
def null : ClassRef := builtin "NoneType"

/-- The class of everything. -/
def any : ClassRef := .standard "typing" "Any"

/-- The class that generic classes inherit from. -/
def generic : ClassRef := .standard "typing" "Generic"

/-- The class of types with remarks. -/
def annotated : ClassRef := .standard "typing" "Annotated"

/-- The class of type variables. -/
def typeVariable : ClassRef := .standard "typing" "TypeVar"

/-- The class of exceptions. -/
def exception : ClassRef := builtin "BaseException"

/-- The class of modules. -/
def module : ClassRef := builtin "module"

/-- A class of collections that is only there to be inherited from. -/
def abstractCollection (name : Text) : ClassRef := .standard "collections.abc" name

/-- The class of days. -/
def date : ClassRef := .standard "datetime" "date"

end ClassRef

end QueryScaffold
