import QueryScaffold.Text.Basic

/-!
# The generated source file

* `Variable`: a type with a name, such as a parameter;
* `QueryMethod`: a method that queries one accessor;
* `QueryClass`, `SourceFile`: the class with these methods, and the file that holds it.

The first constructor parameter of the class is the factory of contexts, which the class keeps in
its field; the other parameters are passed on to the base class.
-/

namespace QueryScaffold

/-- Something that has a type and a name. -/
structure Variable where
  type : Text
  identifier : Text
deriving DecidableEq

namespace Variable

/-- The variable as it is declared. -/
def declaration (v : Variable) : Text :=
  v.type ++ (" " : Text) ++ v.identifier

end Variable

/-- What the body of a query method is made from. -/
structure MethodBody where
  accessorName : Text
  entityName : Text
  factoryField : Text
  contextVariable : Text
  helperName : Text
deriving DecidableEq

/-- A method that queries one accessor. -/
structure QueryMethod where
  name : Text
  returnType : Text
  annotations : List Text
  body : MethodBody
  summary : Text
deriving DecidableEq

/-- The class that holds the query methods. -/
structure QueryClass where
  typeName : Text
  baseTypeName : Text
  parameters : List Variable
  factoryField : Variable
  methods : List QueryMethod
deriving DecidableEq

namespace QueryClass

/-- The parameter that takes the factory of contexts. -/
def factoryParameter? (c : QueryClass) : Option Variable :=
  c.parameters.head?

/-- The parameters that are passed on to the base class. -/
def forwarded (c : QueryClass) : List Variable :=
  c.parameters.tail

end QueryClass

/-- A source file with one class. -/
structure SourceFile where
  codeNamespace : Text
  imports : List Text
  /-- The comment in the first line. -/
  provenance : Text
  queryClass : QueryClass
deriving DecidableEq

end QueryScaffold
